-- The output register of the data memory. Loads and the copy engine share it,
-- and a word stands in it for one cycle only before another read may come. Each
-- finds its own word there: a load is in Exec1 in the cycle after its read, and
-- the engine marks a word as pending in the cycle after its own.
import SixStage.Proofs.Course

namespace SixStage

/-! ## The mark of the engine -/

namespace Dma.Block

variable {b : Block} {out : Word} {conflict : Bool}

/-- A word is pending only in the phases that follow a read. The two that take the
register as it is come right behind one. -/
def MarksReads (b : Block) : Prop :=
  match b.phase with
  | .doRead => True
  | .doWrite | .single => b.pending = true
  | _ => b.pending = false

theorem marksReads_afterWrite (b b' : Block) (pending : b'.pending = false)
    (phase : b'.phase = b.afterWrite) : b'.MarksReads := by
  unfold afterWrite at phase
  split at phase <;> simp [MarksReads, phase, pending]

theorem marksReads_step (h : b.MarksReads) (out : Word) (conflict : Bool) :
    (b.step out conflict b).1.MarksReads := by
  obtain ⟨busy, src, dst, remaining, reg, shadow, pending, phase⟩ := b
  cases phase with
  | idle =>
    simp only [step]
    split
    · split <;> exact h
    · exact h
  | readFirst =>
    simp only [step]
    split
    · exact h
    · split
      · exact rfl
      · trivial
  | doRead =>
    simp only [step]
    split
    · trivial
    · exact rfl
  | doWrite =>
    simp only [step]
    split
    · exact rfl
    · exact marksReads_afterWrite _ _ rfl rfl
  | writeStalled =>
    simp only [step]
    split
    · exact h
    · exact marksReads_afterWrite _ _ h rfl
  | writeLast =>
    simp only [step]
    split <;> exact h
  | single => exact rfl

/-- What is pending after a cycle has been read in it, from the address before the next
one, and the port was free. -/
theorem read_of_pending (h : b.MarksReads) (marked : (b.step out conflict b).1.pending = true) :
    conflict = false ∧ (b.step out conflict b).2.read = some b.src ∧
      (b.step out conflict b).1.src = b.src.next := by
  obtain ⟨busy, src, dst, remaining, reg, shadow, pending, phase⟩ := b
  cases phase with
  | idle =>
    have unmarked : pending = false := h
    simp only [step] at marked
    split at marked
    · split at marked <;> simp [unmarked] at marked
    · simp [unmarked] at marked
  | readFirst =>
    cases conflict with
    | false => exact ⟨rfl, rfl, rfl⟩
    | true => exact absurd (show pending = false from h) (by simpa [step] using marked)
  | doRead =>
    cases conflict with
    | false => exact ⟨rfl, rfl, rfl⟩
    | true => simp [step, capture] at marked
  | doWrite => cases conflict <;> simp [step, capture, issueWrite] at marked
  | writeStalled =>
    have unmarked : pending = false := h
    cases conflict <;> simp [step, issueWrite, unmarked] at marked
  | writeLast =>
    have unmarked : pending = false := h
    cases conflict <;> simp [step, unmarked] at marked
  | single => simp [step] at marked

end Dma.Block

theorem Addr.next_sub_one (a : Addr) : a.next - 1 = a := BitVec.add_sub_cancel a 1

/-! ## One cycle -/

namespace Board

variable {b : Board}

/-- The register belongs to a load in Exec1 or to the engine, and has what it waits for. -/
structure Owned (b : Board) : Prop where
  marks : b.core.dma.MarksReads
  served : b.Served
  load : b.core.exec1Is .ld = true → b.core.dma.pending = false
  word : b.core.dma.pending = true → b.dmem.out = b.dmem.peek (b.core.dma.src - 1)

/-- A cycle in which a request is taken marks no word. -/
theorem owned_of_launch (sound : b.core.dma.Sound) (trap : b.core.trap = none)
    (idle : b.dmem.Idle) (h : b.core.dma.MarksReads) (free : b.core.dma.busy = false)
    (request : b.core.exec1Is .dma = true) : b.next.Owned := by
  obtain ⟨e, he, dma⟩ := (Option.any_eq_true ..).mp request
  have rests := (Dma.Block.step_of_free sound free 0 false b.core.dma).1
  have unmarked : b.core.dma.pending = false := by simpa [Dma.Block.MarksReads, rests] using h
  have hn := dma_next_of_launch sound free he dma
  rw [Dma.Block.launch_of_free free rests] at hn
  refine ⟨?_, served_next trap idle, fun _ => ?_, fun marked => ?_⟩
  · rw [hn]
    exact unmarked
  · rw [hn]
    exact unmarked
  · rw [hn] at marked
    cases unmarked.symm.trans marked

theorem owned_of_no_launch (trap : b.core.trap = none) (idle : b.dmem.Idle)
    (h : b.core.dma.MarksReads) (alone : b.core.dma.busy = true ∨ b.core.exec1Is .dma = false) :
    b.next.Owned := by
  have hn := dma_next_of_no_launch alone
  refine ⟨?_, served_next trap idle, fun ld => ?_, fun marked => ?_⟩
  · rw [hn]
    exact Dma.Block.marksReads_step h _ _
  · -- The load has read in this cycle, so the port was not free for the engine.
    obtain ⟨e, he, ld⟩ := (Option.any_eq_true ..).mp ld
    rw [Bool.eq_false_iff]
    intro marked
    rw [hn] at marked
    have free := (Dma.Block.read_of_pending h marked).1
    rw [portUse_of_load trap he ld] at free
    cases free
  · -- The engine has read in this cycle, and nobody has written.
    rw [hn] at marked
    obtain ⟨_, read, src⟩ := Dma.Block.read_of_pending h marked
    have hsrc : b.next.core.dma.src = b.core.dma.src.next := by
      rw [hn]
      exact src
    have hm : b.next.dmem = { b.dmem with out := b.dmem.peek b.core.dma.src } := by
      rw [dmem_next trap]
      exact Dma.Bench.memory_of_read (t := b.bench) idle read
    rw [hsrc, Addr.next_sub_one, hm]
    rfl

theorem owned_next (sound : b.core.dma.Sound) (trap : b.core.trap = none) (idle : b.dmem.Idle)
    (h : b.Owned) : b.next.Owned := by
  by_cases alone : b.core.dma.busy = true ∨ b.core.exec1Is .dma = false
  · exact owned_of_no_launch trap idle h.marks alone
  · simp only [not_or, Bool.not_eq_true, Bool.not_eq_false] at alone
    exact owned_of_launch sound trap idle h.marks alone.1 alone.2

end Board

/-! ## Runs -/

namespace Setup

theorem owned_board (s : Setup) (n : Nat) : (s.board n).Owned := by
  apply s.holds_board
  · exact ⟨rfl, s.served_board 0, fun _ => rfl, fun h => by cases h⟩
  · intro n goes h
    exact Board.owned_next (s.sound_board n) goes.no_trap (s.idle_board n).dmem h

/-- The output register of the data memory is never taken by the wrong party. A load in
Exec1 and a word for the copy engine never wait at once. Whichever does finds in the
register what still stands at its address in the memory, and the engine takes the register
as it is only where a word waits for it. -/
theorem output_register_serves_its_reader (s : Setup) (n : Nat) :
    let b := s.board n
    ¬ (b.core.exec1Is .ld = true ∧ b.core.dma.pending = true) ∧
    (∀ e, b.core.latches.exec1 = some e → e.is .ld = true →
      b.dmem.out = b.dmem.peek e.result.addr) ∧
    (b.core.dma.pending = true → b.dmem.out = b.dmem.peek (b.core.dma.src - 1)) ∧
    (b.core.dma.phase = .doWrite ∨ b.core.dma.phase = .single → b.core.dma.pending = true) := by
  intro b
  have h := s.owned_board n
  refine ⟨fun ⟨ld, marked⟩ => ?_, h.served, h.word, fun phase => ?_⟩
  · cases (h.load ld).symm.trans marked
  · have marks := h.marks
    unfold Dma.Block.MarksReads at marks
    rcases phase with phase | phase <;> simpa only [b, phase] using marks

/-- In tick 9 the first word of a copy waits, and a load in Exec0 takes the port. In tick 10 the
register has the word of that load. -/
theorem a_load_follows_a_pending_word :
    let s := small [0x00880002, 0x14020004, 0, 0, 0, 0x10c10007, 0x30000000]
    ((s.board 9).core.dma.pending = true ∧
      (s.board 9).dmem.out = (s.board 9).dmem.peek ((s.board 9).core.dma.src - 1)) ∧
    (s.board 10).core.exec1Is .ld = true ∧ (s.board 10).core.dma.pending = false ∧
      ∃ e, (s.board 10).core.latches.exec1 = some e ∧
        (s.board 10).dmem.out = (s.board 10).dmem.peek e.result.addr := by
  intro s
  obtain ⟨_, _, word, _⟩ := output_register_serves_its_reader s 9
  obtain ⟨never, served, _, _⟩ := output_register_serves_its_reader s 10
  have marked : (s.board 9).core.dma.pending = true := by decide +kernel
  have ld : (s.board 10).core.exec1Is .ld = true := by decide +kernel
  obtain ⟨e, he, hld⟩ := (Option.any_eq_true ..).mp ld
  exact ⟨⟨marked, word marked⟩, ld, Bool.eq_false_iff.mpr fun h => never ⟨ld, h⟩, e, he,
    served e he hld⟩

end Setup

end SixStage
