-- The eight registers. Three fields of an instruction word name one each,
-- so every value of such a field is a register.
import SixStage.Word

namespace SixStage

/-- One of the registers `r0` to `r7`. -/
abbrev Reg := BitVec 3

namespace Reg

/-- `r0` always reads zero. -/
def zero : Reg := 0

/-- `r1` stands for the immediate wherever an operand names it. -/
def imm : Reg := 1

/-- `r7` receives the address of every taken branch. -/
def link : Reg := 7

def ofField (w : Word) : Reg := w.setWidth 3

def ofIndex? (n : Nat) : Option Reg := if n < 8 then some (BitVec.ofNat 3 n) else none

/-- A write to `r2` up to `r7` is kept; `r0` and `r1` drop theirs. -/
def isWritable (r : Reg) : Bool := r ≠ zero ∧ r ≠ imm

def isImm (r : Reg) : Bool := r = imm

def name (r : Reg) : String := s!"r{r.toNat}"

end Reg

end SixStage
