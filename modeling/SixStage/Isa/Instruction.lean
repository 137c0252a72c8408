-- Instructions in their decoded form, and the rule by which one names its
-- operands: `r1` stands for the immediate, and LHI takes the immediate as
-- its first operand and its own destination as its second.
import SixStage.Isa.Opcode
import SixStage.Isa.Reg

namespace SixStage

structure Instruction where
  opcode : Opcode
  /-- The register written; for LHI also the second operand. -/
  dst : Reg
  src0 : Reg
  src1 : Reg
  /-- The immediate, with its sign extended. -/
  imm : Word
  deriving DecidableEq, Repr, Inhabited

namespace Instruction

/-- `ADD r0, r0, r0, 0` changes nothing. It stands in for a word that is no
instruction. -/
def standIn : Instruction := ⟨.add, Reg.zero, Reg.zero, Reg.zero, 0⟩

/-- The register field that the second operand comes from. -/
def secondSource (i : Instruction) : Reg := if i.opcode = .lhi then i.dst else i.src1

/-- The register that the first operand is read from; none for the immediate. -/
def operandA (i : Instruction) : Option Reg :=
  if i.opcode = .lhi ∨ i.src0.isImm then none else some i.src0

/-- The register that the second operand is read from; none for the immediate. -/
def operandB (i : Instruction) : Option Reg :=
  if i.secondSource.isImm then none else some i.secondSource

/-- One of the operands is read from `r`. -/
def reads (i : Instruction) (r : Reg) : Bool := i.operandA = some r ∨ i.operandB = some r

end Instruction

end SixStage
