-- Branch prediction. A table remembers what the branch at an address did
-- last. It has no tags, so addresses that differ by a multiple of its size
-- share an entry, and what is no branch may find a taken one.
import SixStage.Word

namespace SixStage

/-- Where control goes after an instruction: to `target` if `taken`, and on
to the next address if not. It is what a branch did, or what the table expects
of one. -/
structure Direction where
  taken : Bool
  target : Addr
  deriving DecidableEq, Repr, Inhabited

namespace Direction

/-- Straight on, as every entry says at reset. -/
def straight : Direction := ⟨false, 0⟩

/-- The address after `pc` in this direction. -/
def nextPc (d : Direction) (pc : Addr) : Addr := if d.taken then d.target else pc.next

/-- Fetching where `expected` says is wrong if the branch goes this way: one
is taken and the other is not, or both are taken to different targets. -/
def contradicts (d expected : Direction) : Bool :=
  d.taken ≠ expected.taken ∨ (d.taken ∧ d.target ≠ expected.target)

end Direction

structure Predictor where
  entries : Array Direction
  nonempty : 0 < entries.size
  deriving DecidableEq, Repr

namespace Predictor

theorem fresh_nonempty (size : Nat) :
    0 < (Array.replicate (max size 1) Direction.straight).size := by
  rw [Array.size_replicate]
  omega

/-- A table at reset. It has at least one entry. -/
def empty (size : Nat) : Predictor where
  entries := Array.replicate (max size 1) Direction.straight
  nonempty := fresh_nonempty size

instance : Inhabited Predictor := ⟨empty 1⟩

def size (p : Predictor) : Nat := p.entries.size

/-- The place of an address in the table. -/
def slot (p : Predictor) (pc : Addr) : Fin p.entries.size :=
  ⟨pc.toNat % p.entries.size, Nat.mod_lt _ p.nonempty⟩

/-- What the table expects of the instruction at `pc`. -/
def lookup (p : Predictor) (pc : Addr) : Direction := p.entries[p.slot pc]

/-- The table after the branch at `pc` went in direction `d`. -/
def update (p : Predictor) (pc : Addr) (d : Direction) : Predictor where
  entries := p.entries.set (p.slot pc) d
  nonempty := by simpa using p.nonempty

theorem size_update (p : Predictor) (pc : Addr) (d : Direction) :
    (p.update pc d).size = p.size := by
  simp [update, size]

/-- An update changes what is expected of every address that shares its entry, and of
no other. -/
theorem lookup_update (p : Predictor) (pc q : Addr) (d : Direction) :
    (p.update pc d).lookup q =
      if pc.toNat % p.size = q.toNat % p.size then d else p.lookup q := by
  simp only [lookup, update, slot, size, Fin.getElem_fin, Array.size_set, Array.getElem_set]
  rfl

end Predictor

end SixStage
