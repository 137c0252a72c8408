-- The one fault of an instruction: its opcode is not in the set. It is
-- found at decode and travels with the instruction; only one that reaches
-- the last stage stops the machine, so a wrong path never does.
import SixStage.Text.Hex

namespace SixStage

structure Trap where
  pc : Addr
  opcode : BitVec 8
  word : Word
  deriving DecidableEq, Repr, Inhabited

namespace Trap

/-- Where the word stands, and the word. -/
def place (t : Trap) : String :=
  s!"at pc 0x{Text.hexAddr t.pc} (inst 0x{Text.hexWord t.word})"

def render (t : Trap) : String := s!"IllegalOpcode({t.opcode.toNat}) {t.place}"

end Trap

end SixStage
