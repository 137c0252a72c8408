-- Words and addresses. Every register, operand and memory cell holds a
-- word of 32 bits; both memories are addressed by the low half of one.

namespace SixStage

/-- A register, an operand, a result or a memory cell. -/
abbrev Word := BitVec 32

/-- A program counter or a memory address. -/
abbrev Addr := BitVec 16

/-- The address in the low half of a word. -/
def Word.addr (w : Word) : Addr := w.setWidth 16

/-- The word that an address is when a register receives it. -/
def Addr.word (a : Addr) : Word := a.setWidth 32

/-- The address after `a`; the last one is followed by zero. -/
def Addr.next (a : Addr) : Addr := a + 1

/-- The word 1 for a condition that holds and 0 for one that does not. -/
def Word.ofBool (b : Bool) : Word := if b then 1 else 0

end SixStage
