-- The arithmetic of one instruction: a pure function of its operation, its
-- two operands and its immediate. Sums and differences wrap.
import SixStage.Isa.Opcode

namespace SixStage

/-- What the arithmetic unit makes of an operation: the value for `dst`, the
address of a load or store, 1 or 0 for a jump taken or not, and the
destination of a copy. DMP asks the copy engine instead, so it has 0 here, and
so has HLT. -/
def alu (o : Opcode) (a b imm : Word) : Word :=
  match o with
  | .add => a + b
  | .sub => a - b
  | .lsf => a <<< (b.toNat % 32)
  | .rsf => a >>> (b.toNat % 32)
  | .and => a &&& b
  | .or => a ||| b
  | .xor => a ^^^ b
  | .lhi => b.setWidth 16 ++ a.setWidth 16
  | .ld | .st => (Word.addr b).word
  | .jlt => Word.ofBool (a.slt b)
  | .jle => Word.ofBool (a.sle b)
  | .jeq => Word.ofBool (a = b)
  | .jne => Word.ofBool (a ≠ b)
  | .jin => 1
  | .dma => imm
  | .dmp | .hlt => 0

end SixStage
