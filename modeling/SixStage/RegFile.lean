-- The register file: eight words, of which `r0` always reads zero and
-- `r0` and `r1` keep no write.
import SixStage.Isa.Reg
import SixStage.Text.Hex

namespace SixStage

structure RegFile where
  cells : Vector Word 8
  deriving DecidableEq, Repr

namespace RegFile

/-- The registers at reset. -/
def zero : RegFile := ⟨Vector.replicate 8 0⟩

instance : Inhabited RegFile := ⟨zero⟩

/-- The word kept for a register, shown as it is even for `r0`. -/
def cell (f : RegFile) (r : Reg) : Word := f.cells[r.toFin]

/-- The word that an operand read from `r` gets. -/
def read (f : RegFile) (r : Reg) : Word := if r = Reg.zero then 0 else f.cell r

/-- The file after a write, which `r0` and `r1` drop. -/
def write (f : RegFile) (r : Reg) (w : Word) : RegFile :=
  if r.isWritable then ⟨f.cells.set r.toNat w r.isLt⟩ else f

/-- A write changes its register alone, and neither `r0` nor `r1`. -/
theorem cell_write (f : RegFile) (r q : Reg) (w : Word) :
    (f.write r w).cell q = if r = q ∧ r.isWritable then w else f.cell q := by
  unfold write cell
  split
  · next h => simp [h, Vector.getElem_set, BitVec.toNat_inj]
  · next h => simp [h]

/-- An operand reads what was written last to its register. -/
theorem read_write (f : RegFile) (r q : Reg) (w : Word) :
    (f.write r w).read q = if r = q ∧ r.isWritable then w else f.read q := by
  unfold read
  split
  · next hq =>
    rw [if_neg]
    rintro ⟨rfl, hw⟩
    simp [Reg.isWritable, hq] at hw
  · exact f.cell_write r q w

def toList (f : RegFile) : List Word := f.cells.toList

/-- A line of the printed file holds two registers. -/
def renderPair (f : RegFile) (r : Reg) : String :=
  s!"r{r.toNat} =0x{Text.hexWord (f.cell r)} r{r.toNat + 1} =0x{Text.hexWord (f.cell (r + 1))}\n"

def render (f : RegFile) : String :=
  f.renderPair 0 ++ f.renderPair 2 ++ f.renderPair 4 ++ f.renderPair 6

end RegFile

end SixStage
