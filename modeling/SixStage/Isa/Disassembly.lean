-- Instruction words as text. Each opcode shows the fields that matter to
-- it: a jump has no destination, and HLT shows nothing.
import SixStage.Isa.Codec

namespace SixStage.Instruction

/-- The low half of the immediate, without a sign. -/
def unsignedImm (i : Instruction) : Nat := (i.imm.setWidth 16).toNat

/-- An instruction as text. The half word of LHI and the target of a
conditional jump have no sign; every other immediate has one. -/
def render (i : Instruction) : String :=
  match i.opcode with
  | .hlt => "HLT"
  | .lhi => s!"LHI {i.dst.name}, {i.unsignedImm}"
  | .jin => s!"JIN {i.src0.name}, {i.imm.toInt}"
  | .jlt | .jle | .jeq | .jne =>
    s!"{i.opcode.mnemonic} {i.src0.name}, {i.src1.name}, {i.unsignedImm}"
  | .dmp => s!"DMP {i.dst.name}"
  | _ =>
    s!"{i.opcode.mnemonic} {i.dst.name}, {i.src0.name}, {i.src1.name}, {i.imm.toInt}"

/-- A word as text; an illegal one shows its opcode. -/
def disassemble (w : Word) : String :=
  match decode w with
  | .error code => s!"ILLEGAL({code.toNat})"
  | .ok i => i.render

end SixStage.Instruction
