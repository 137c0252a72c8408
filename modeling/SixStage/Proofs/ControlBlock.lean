-- The control block of the copy engine. A request and a step of the engine change it in one
-- cycle, each by what it was before, and the pipeline may take the port in any cycle. How
-- its phase, its count and its marks go together stays the same through all of that.
import SixStage.Proofs.OutputRegister

namespace SixStage

namespace Dma

/-- What a request asks for: a copy of `len` words. -/
structure Request where
  src : Word
  dst : Word
  len : Word
  deriving DecidableEq, Repr

namespace Block

variable {b : Block} {request : Option Request} {out : Word} {conflict : Bool}

/-! ## Cycles -/

def asked (b : Block) (request : Option Request) : Block :=
  request.elim b fun r => b.launch r.src r.dst r.len b

/-- One cycle of the engine: a request, if there is one, and a step. -/
def cycle (b : Block) (request : Option Request) (out : Word) (conflict : Bool) :
    Block × Activity :=
  b.step out conflict (b.asked request)

/-- The blocks that the engine can come to, whatever it is asked for, whatever it finds in the
output register, and whenever the pipeline takes the port. -/
inductive Reached : Block → Prop
  | reset : Reached .reset
  | cycle {b : Block} (before : Reached b) (request : Option Request) (out : Word)
      (conflict : Bool) : Reached (b.cycle request out conflict).1

/-! ## The invariant -/

/-- How the fields of the block go together. -/
structure Coherent (b : Block) : Prop where
  /-- A free engine rests, with nothing to write and nothing in flight. -/
  free : b.busy = false → b.phase = .idle ∧ b.remaining = 0 ∧ b.pending = false
  at_work : b.phase ≠ .idle → b.busy = true
  /-- As many words are left as the phase takes for granted. -/
  first : b.phase = .readFirst → 1 ≤ b.remaining
  last : b.phase = .single ∨ b.phase = .writeLast → b.remaining = 1
  more : b.phase = .doRead ∨ b.phase = .doWrite ∨ b.phase = .writeStalled → 2 ≤ b.remaining
  /-- A word waits in the output register where the engine takes it unasked, and only in
  phases behind a read. -/
  marked : b.phase = .single ∨ b.phase = .doWrite → b.pending = true
  unmarked : b.phase = .idle ∨ b.phase = .readFirst ∨ b.phase = .writeStalled ∨
    b.phase = .writeLast → b.pending = false

theorem coherent_iff : b.Coherent ↔ b.Sound ∧ b.MarksReads := by
  constructor
  · rintro ⟨free, at_work, first, last, more, marked, unmarked⟩
    unfold Sound MarksReads
    cases hp : b.phase <;> simp_all
  · rintro ⟨sound, marks⟩
    unfold Sound at sound
    unfold MarksReads at marks
    constructor <;> cases hp : b.phase <;> simp_all

theorem asked_of_busy (busy : b.busy = true) : b.asked request = b := by
  cases request with
  | none => rfl
  | some r => simp [asked, launch, busy]

theorem cycle_of_free (h : b.Coherent) (free : b.busy = false) :
    b.cycle request out conflict = (b.asked request, .quiet) :=
  (step_of_free (coherent_iff.mp h).1 free out conflict _).2

theorem cycle_of_busy (busy : b.busy = true) :
    b.cycle request out conflict = b.step out conflict b := by
  rw [cycle, asked_of_busy busy]

theorem coherent_asked (h : b.Coherent) (free : b.busy = false) : (b.asked request).Coherent := by
  cases request with
  | none => exact h
  | some r =>
    obtain ⟨rests, _, unmarked⟩ := h.free free
    rw [asked, Option.elim_some, launch_of_free free rests, coherent_iff]
    exact ⟨nofun, unmarked⟩

theorem coherent_cycle (h : b.Coherent) : (b.cycle request out conflict).1.Coherent := by
  rcases hb : b.busy with _ | _
  · rw [cycle_of_free h hb]
    exact coherent_asked h hb
  · rw [cycle_of_busy hb]
    obtain ⟨sound, marks⟩ := coherent_iff.mp h
    exact coherent_iff.mpr ⟨sound_step sound out conflict, marksReads_step marks out conflict⟩

/-- It does not matter whether the request or the step comes first. -/
theorem launch_step (h : b.Coherent) (src dst len : Word) :
    b.launch src dst len (b.step out conflict b).1 =
      (b.step out conflict (b.launch src dst len b)).1 := by
  rcases hb : b.busy with _ | _
  · obtain ⟨sound, _⟩ := coherent_iff.mp h
    rw [(step_of_free sound hb out conflict b).2, (step_of_free sound hb out conflict _).2]
  · simp [launch, hb]

theorem coherent_of_reached (h : Reached b) : b.Coherent := by
  induction h with
  | reset => exact coherent_iff.mpr ⟨fun _ => rfl, rfl⟩
  | cycle before request out conflict ih => exact coherent_cycle ih

/-! ## What is left after a write -/

/-- Where the engine goes on if so many words are left after a write. -/
def phaseFor : Nat → Phase
  | 0 => .idle
  | 1 => .writeLast
  | _ + 2 => .doRead

theorem afterWrite_eq (h : 2 ≤ b.remaining) : b.afterWrite = phaseFor (b.remaining - 1) := by
  obtain ⟨n, hn⟩ := Nat.exists_eq_add_of_le' h
  rw [afterWrite, hn]
  cases n with
  | zero => rfl
  | succ n => exact if_neg (by omega)

/-- A write takes the count down by one, never below zero, and the engine goes on as what is
left asks for. -/
theorem step_of_write {p : Addr × Word} (h : b.Sound)
    (write : (b.step out conflict b).2.write = some p) :
    (b.step out conflict b).1.remaining + 1 = b.remaining ∧
      (b.step out conflict b).1.phase = phaseFor (b.step out conflict b).1.remaining := by
  obtain ⟨busy, src, dst, remaining, reg, shadow, pending, phase⟩ := b
  cases phase with
  | idle =>
    simp only [step] at write
    split at write
    · split at write <;> cases write
    · cases write
  | readFirst | doRead | single => cases conflict <;> cases write
  | doWrite | writeStalled =>
    -- In these phases two words are left at least.
    obtain ⟨_, two, _⟩ := h
    cases conflict with
    | true => cases write
    | false => exact ⟨Nat.sub_add_cancel (Nat.le_of_lt two), afterWrite_eq two⟩
  | writeLast =>
    obtain ⟨_, one⟩ := h
    cases conflict with
    | true => cases write
    | false => exact ⟨one.symm, rfl⟩

theorem cycle_of_write {p : Addr × Word} (h : b.Coherent)
    (write : (b.cycle request out conflict).2.write = some p) :
    (b.cycle request out conflict).1.remaining + 1 = b.remaining ∧
      (b.cycle request out conflict).1.phase =
        phaseFor (b.cycle request out conflict).1.remaining := by
  rcases hb : b.busy with _ | _
  · rw [cycle_of_free h hb] at write
    cases write
  · rw [cycle_of_busy hb] at write ⊢
    exact step_of_write (coherent_iff.mp h).1 write

end Block

end Dma

/-! ## Runs -/

/-- What a request in Exec1 asks for. -/
def Core.request (c : Core) : Option Dma.Request :=
  c.latches.exec1.bind fun e => if e.is .dma then some ⟨e.a, e.result, e.b⟩ else none

theorem Core.dmaStep_eq_cycle (c : Core) (loaded : Word) :
    c.dmaStep loaded = c.dma.cycle c.request loaded c.dmaConflict := by
  have asked : c.requested = c.dma.asked c.request := by
    unfold requested request
    rcases c.latches.exec1 with _ | e
    · rfl
    · simp only [Option.bind_some]
      split <;> rfl
  rw [dmaStep, Dma.Block.cycle, asked]

namespace Setup

theorem reached_board (s : Setup) (n : Nat) : Dma.Block.Reached (s.board n).core.dma := by
  apply s.holds_board (P := fun b => Dma.Block.Reached b.core.dma) .reset
  intro n _ before
  rw [Board.dma_next, Core.dmaStep_eq_cycle]
  exact .cycle before ..

end Setup

namespace Dma.Block

/-- The control block stays coherent in every run of the machine, and wherever the engine comes
from reset by cycles of a request, or none, and a step, with the port free or taken. So a
write never takes the count below zero and is never followed by anything but what the words
that are left ask for, and request and step may come in either order. -/
theorem control_block_stays_coherent :
    (∀ (s : Setup) (n : Nat),
      Reached (s.board n).core.dma ∧ (s.board n).core.dma.Coherent) ∧
    ∀ b, Reached b → b.Coherent ∧
      ∀ (request : Option Request) (out : Word) (conflict : Bool),
        (∀ p, (b.cycle request out conflict).2.write = some p →
          (b.cycle request out conflict).1.remaining + 1 = b.remaining ∧
          (b.cycle request out conflict).1.phase =
            phaseFor (b.cycle request out conflict).1.remaining) ∧
        ∀ src dst len, b.launch src dst len (b.step out conflict b).1 =
          (b.step out conflict (b.launch src dst len b)).1 := by
  refine ⟨fun s n => ?_, fun b reached => ?_⟩
  · have reached := s.reached_board n
    exact ⟨reached, coherent_of_reached reached⟩
  · have h := coherent_of_reached reached
    exact ⟨h, fun request out conflict => ⟨fun p => cycle_of_write h, launch_step h⟩⟩

/-- A copy of two words is asked for, read, kept from its first write, and asked for again to
no avail. The write then leaves the last word. -/
theorem stalled_write_leaves_the_last_word :
    let reading := ((reset.cycle (some ⟨0, 1, 2⟩) 0 false).1.cycle none 0 true).1
    let writing := ((reading.cycle none 0 false).1.cycle none 5 false).1
    let stalled := (writing.cycle (some ⟨9, 9, 9⟩) 6 true).1
    Reached stalled ∧ stalled.phase = .writeStalled ∧ 2 ≤ stalled.remaining ∧
      (stalled.cycle none 7 false).2.write = some (1, 5) ∧
      (stalled.cycle none 7 false).1.remaining + 1 = stalled.remaining ∧
      (stalled.cycle none 7 false).1.phase = .writeLast := by
  intro reading writing stalled
  have reached : Reached stalled :=
    (((((Reached.reset.cycle _ _ _).cycle _ _ _).cycle _ _ _).cycle _ _ _).cycle _ _ _)
  obtain ⟨h, cycles⟩ := control_block_stays_coherent.2 stalled reached
  have write : (stalled.cycle none 7 false).2.write = some (1, 5) := by decide
  obtain ⟨count, phase⟩ := (cycles none 7 false).1 _ write
  exact ⟨reached, by decide, h.more (by decide), write, count, phase⟩

end Dma.Block

end SixStage
