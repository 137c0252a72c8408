-- Synchronous memory. An access is scheduled during a cycle and takes
-- effect at the clock edge that ends it: a read puts its word into the
-- output register, where the next cycle finds it. Reads come before
-- writes, so both on one address in one cycle read the old word.
import SixStage.Text.Hex

namespace SixStage

/-- A use of the memory port. -/
inductive Access where
  | read (addr : Addr)
  | write (addr : Addr) (word : Word)
  deriving DecidableEq, Repr

structure Sram where
  words : Array Word
  nonempty : 0 < words.size
  /-- The read scheduled in this cycle. -/
  readReq : Option Addr
  /-- The write scheduled in this cycle. -/
  writeReq : Option (Addr × Word)
  /-- The output register: the word of the last read that completed. -/
  out : Word
  deriving DecidableEq, Repr

namespace Sram

theorem blank_nonempty (height : Nat) : 0 < (Array.replicate (max height 1) (0 : Word)).size := by
  rw [Array.size_replicate]
  omega

/-- A memory of zeros. It has at least one word. -/
def zero (height : Nat) : Sram where
  words := Array.replicate (max height 1) 0
  nonempty := blank_nonempty height
  readReq := none
  writeReq := none
  out := 0

instance : Inhabited Sram := ⟨zero 1⟩

def height (s : Sram) : Nat := s.words.size

/-- The place of an address: addresses past the height wrap around. -/
def slot (s : Sram) (a : Addr) : Fin s.words.size :=
  ⟨a.toNat % s.words.size, Nat.mod_lt _ s.nonempty⟩

/-- The word at an address, outside any cycle. -/
def peek (s : Sram) (a : Addr) : Word := s.words[s.slot a]

/-- Changes the word at an address, outside any cycle. -/
def poke (s : Sram) (a : Addr) (w : Word) : Sram :=
  { s with words := s.words.set (s.slot a) w, nonempty := by simpa using s.nonempty }

theorem height_poke (s : Sram) (a : Addr) (w : Word) : (s.poke a w).height = s.height := by
  simp [poke, height]

/-- A poke changes the word of every address that shares its place, and no other. -/
theorem peek_poke (s : Sram) (a b : Addr) (w : Word) :
    (s.poke a w).peek b =
      if a.toNat % s.height = b.toNat % s.height then w else s.peek b := by
  simp only [peek, poke, slot, height, Fin.getElem_fin, Array.size_set, Array.getElem_set]
  rfl

/-! ## Cycles -/

/-- Schedules an access. -/
def issue (s : Sram) : Access → Sram
  | .read a => { s with readReq := some a }
  | .write a w => { s with writeReq := some (a, w) }

/-- Schedules the accesses of one cycle. -/
def issueAll (s : Sram) (l : List Access) : Sram := l.foldl issue s

def discard (s : Sram) : Sram := { s with readReq := none, writeReq := none }

theorem discard_issueAll (s : Sram) (l : List Access) : (s.issueAll l).discard = s.discard := by
  induction l generalizing s with
  | nil => rfl
  | cons x l ih => exact (ih (s.issue x)).trans (by cases x <;> rfl)

def completeRead (s : Sram) : Sram :=
  match s.readReq with
  | none => s
  | some a => { s with out := s.peek a, readReq := none }

def completeWrite (s : Sram) : Sram :=
  match s.writeReq with
  | none => s
  | some (a, w) => { s.poke a w with writeReq := none }

def commit (s : Sram) : Sram := s.completeRead.completeWrite

def clock (s : Sram) (l : List Access) : Sram := (s.issueAll l).commit

/-! ## Images -/

/-- Pokes words at consecutive addresses. -/
def pokeAll (s : Sram) (a : Addr) : List Word → Sram
  | [] => s
  | w :: l => (s.poke a w).pokeAll a.next l

/-- Puts an image at address zero, as much of it as there are words. -/
def install (s : Sram) (image : List Word) : Sram := s.pokeAll 0 (image.take s.height)

/-- Words from an address on, outside any cycle. -/
def window (s : Sram) (a : Addr) : Nat → List Word
  | 0 => []
  | n + 1 => s.peek a :: s.window a.next n

/-- Every word on a line of its own, in eight digits. -/
def dump (s : Sram) : String := s.words.foldl (fun text w => text ++ Text.hexWord w ++ "\n") ""

end Sram

end SixStage
