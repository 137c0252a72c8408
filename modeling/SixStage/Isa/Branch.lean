-- How a branch goes, once its operands are known.
import SixStage.Isa.Instruction
import SixStage.Predictor

namespace SixStage.Instruction

/-- The direction of a branch, from its result (0 for not taken) and its first
operand. JIN goes to the operand, every other one to its immediate. -/
def direction (i : Instruction) (result a : Word) : Direction where
  taken := result ≠ 0
  target := if i.opcode = .jin then a.addr else i.imm.addr

end SixStage.Instruction
