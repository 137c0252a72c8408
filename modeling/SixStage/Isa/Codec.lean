-- Instruction words. From the top: two bits that mean nothing, five of
-- opcode, three each for the destination and the two sources, and sixteen
-- of immediate. A word is illegal exactly if its opcode is.
import SixStage.Isa.Instruction

namespace SixStage.Instruction

/-- The opcode field of a word; its top three bits are clear. -/
def opcodeField (w : Word) : BitVec 8 := (w.extractLsb' 25 5).setWidth 8

def dstField (w : Word) : Reg := w.extractLsb' 22 3

def src0Field (w : Word) : Reg := w.extractLsb' 19 3

def src1Field (w : Word) : Reg := w.extractLsb' 16 3

/-- The immediate field, with its sign extended. -/
def immField (w : Word) : Word := (w.extractLsb' 0 16).signExtend 32

/-- The instruction that a word holds, or the opcode that makes it illegal. -/
def decode (w : Word) : Except (BitVec 8) Instruction :=
  match Opcode.ofCode? (opcodeField w) with
  | none => .error (opcodeField w)
  | some o => .ok ⟨o, dstField w, src0Field w, src1Field w, immField w⟩

/-- The word of the given fields. Only the low five bits of the opcode and
the low half of the immediate have room. -/
def encodeFields (code : BitVec 8) (dst src0 src1 : Reg) (imm : Word) : Word :=
  (0 : BitVec 2) ++ (code.setWidth 5 ++ (dst ++ (src0 ++ (src1 ++ imm.setWidth 16))))

def encode (i : Instruction) : Word := encodeFields i.opcode.code i.dst i.src0 i.src1 i.imm

end SixStage.Instruction
