-- The course of a board: where it stands as time goes on, and what is told of it.
-- It may stand still, as it does when a tick fails; if it moves, it moves by a cycle,
-- and the cycle is told. So what is told accounts for every word of the data memory
-- and for each step of a copy.
import SixStage.Proofs.DataPort

namespace SixStage

/-! ## The copy engine in one cycle -/

namespace Board

variable {b : Board}

theorem dma_next (b : Board) : b.next.core.dma = (b.core.dmaStep b.dmem.out).1 :=
  b.core.dma_next b.imem.out b.dmem.out

theorem dma_next_of_launch {e : Exec1} (sound : b.core.dma.Sound) (free : b.core.dma.busy = false)
    (he : b.core.latches.exec1 = some e) (dma : e.is .dma = true) :
    b.next.core.dma = b.core.dma.launch e.a e.result e.b b.core.dma := by
  rw [dma_next, Core.dmaStep, (Dma.Block.step_of_free sound free ..).2]
  simp [Core.requested, he, dma]

theorem dma_next_of_no_launch (h : b.core.dma.busy = true ∨ b.core.exec1Is .dma = false) :
    b.next.core.dma = (b.bench.next b.core.portUse).block := by
  rw [dma_next, Core.dmaStep, Core.requested_of_no_launch h, Core.dmaConflict_eq]
  rfl

/-- How far a copy has come after a cycle in which no other is taken. -/
theorem progress_next {src dst : Addr} {len : Nat} {reads writes : List (Addr × Word)}
    (trap : b.core.trap = none) (idle : b.dmem.Idle)
    (alone : b.core.dma.busy = true ∨ b.core.exec1Is .dma = false)
    (h : Dma.Progress src dst len reads writes b.core.dma b.dmem.out) :
    Dma.Progress src dst len
      (reads ++ (b.report.dma.read.map fun a => (a, b.dmem.peek a)).toList)
      (writes ++ b.report.dma.write.toList) b.next.core.dma b.next.dmem.out := by
  have hact : b.report.dma = (b.bench.turn b.core.portUse).2 := b.activity_eq
  rw [hact, dma_next_of_no_launch alone, dmem_next trap]
  exact Dma.Bench.progress_next (t := b.bench) idle h

theorem sound_next (sound : b.core.dma.Sound) : b.next.core.dma.Sound := by
  by_cases h : b.core.dma.busy = true ∨ b.core.exec1Is .dma = false
  · rw [dma_next_of_no_launch h]
    exact Dma.Block.sound_step sound ..
  · simp only [not_or, Bool.not_eq_true, Bool.not_eq_false] at h
    obtain ⟨free, hd⟩ := h
    obtain ⟨e, he, dma⟩ := (Option.any_eq_true ..).mp hd
    have hp := (Dma.Block.step_of_free sound free 0 false b.core.dma).1
    rw [dma_next_of_launch sound free he dma]
    exact (Dma.progress_launch free hp e.a e.result e.b 0).sound

end Board

/-! ## Courses -/

/-- Where a board stands at each time, and what is told of it from then to the next. -/
structure Course where
  board : Nat → Board
  report : Nat → Report

namespace Course

/-- The board stands still from time `k` to the next, or makes a cycle that is told. -/
inductive Step (c : Course) (k : Nat) : Prop
  | stay (board : c.board (k + 1) = c.board k) (report : c.report k = .quiet)
  | cycle (no_trap : (c.board k).core.trap = none) (board : c.board (k + 1) = (c.board k).next)
      (report : c.report k = (c.board k).report)

/-- The engine's reads up to time `n`, each with the word that stands there as its cycle starts. -/
def copyReads (c : Course) (n : Nat) : List (Addr × Word) :=
  (List.range n).filterMap fun k =>
    (c.report k).dma.read.map fun a => (a, (c.board k).dmem.peek a)

def copyWrites (c : Course) (n : Nat) : List (Addr × Word) :=
  (List.range n).filterMap fun k => (c.report k).dma.write

/-- The writes of the stores that have retired up to time `n`. -/
def stores (c : Course) (n : Nat) : List (Addr × Word) :=
  (List.range n).filterMap fun k => (c.report k).retired.bind fun x => x.effect.written

/-- All that has been written to the data memory up to time `n`. -/
def writes (c : Course) (n : Nat) : List (Addr × Word) :=
  (List.range n).flatMap fun k => (c.report k).writes

variable {c : Course} {n : Nat}

theorem copyReads_succ (c : Course) (n : Nat) :
    c.copyReads (n + 1) = c.copyReads n ++
      ((c.report n).dma.read.map fun a => (a, (c.board n).dmem.peek a)).toList :=
  filterMap_range_succ ..

theorem copyWrites_succ (c : Course) (n : Nat) :
    c.copyWrites (n + 1) = c.copyWrites n ++ (c.report n).dma.write.toList :=
  filterMap_range_succ ..

theorem stores_succ (c : Course) (n : Nat) :
    c.stores (n + 1) = c.stores n ++
      ((c.report n).retired.bind fun x => x.effect.written).toList :=
  filterMap_range_succ ..

theorem writes_succ (c : Course) (n : Nat) :
    c.writes (n + 1) = c.writes n ++ (c.report n).writes := by
  simp [writes, List.range_succ]

theorem mem_copyReads {p : Addr × Word} (hp : p ∈ c.copyReads n) :
    ∃ k < n, p.2 = (c.board k).dmem.peek p.1 := by
  obtain ⟨k, hk, hp⟩ := List.mem_filterMap.mp hp
  obtain ⟨a, _, rfl⟩ := Option.map_eq_some_iff.mp hp
  exact ⟨k, List.mem_range.mp hk, rfl⟩

theorem mem_writes {p : Addr × Word} : p ∈ c.writes n ↔ p ∈ c.stores n ∨ p ∈ c.copyWrites n := by
  simp only [writes, stores, copyWrites, Report.writes, List.mem_flatMap, List.mem_filterMap,
    List.mem_append, Option.mem_toList, and_or_left, exists_or]

theorem mem_writes_mono {m : Nat} (h : m ≤ n) {p : Addr × Word} (hp : p ∈ c.writes m) :
    p ∈ c.writes n := by
  obtain ⟨k, hk, hp⟩ := List.mem_flatMap.mp hp
  exact List.mem_flatMap.mpr
    ⟨k, List.mem_range.mpr (Nat.lt_of_lt_of_le (List.mem_range.mp hk) h), hp⟩

theorem sublist_copyWrites (c : Course) (n : Nat) : (c.copyWrites n).Sublist (c.writes n) := by
  induction n with
  | zero => exact List.Sublist.refl _
  | succ n ih =>
    rw [copyWrites_succ, writes_succ]
    exact ih.append (List.sublist_append_right ..)

/-- Away from the target of a copy, only stores matter. -/
theorem hits_writes {a : Addr} (m : Sram) (n : Nat)
    (miss : ∀ p ∈ c.copyWrites n, m.place p.1 ≠ m.place a) :
    m.hits a (c.writes n) = m.hits a (c.stores n) := by
  induction n with
  | zero => rfl
  | succ n ih =>
    rw [copyWrites_succ] at miss
    have ih := ih fun p hp => miss p (List.mem_append_left _ hp)
    have hw : m.hits a (c.report n).dma.write.toList = [] :=
      m.hits_of_miss fun p hp => miss p (List.mem_append_right _ hp)
    rw [writes_succ, stores_succ, Report.writes, Sram.hits_append, Sram.hits_append,
      Sram.hits_append, ih, hw, List.append_nil]

theorem idle_board (idle : (c.board 0).Idle) (steps : ∀ k < n, c.Step k) : (c.board n).Idle := by
  induction n with
  | zero => exact idle
  | succ n ih =>
    cases steps n (Nat.lt_succ_self n) with
    | stay board => rw [board]; exact ih fun k hk => steps k (Nat.lt_succ_of_lt hk)
    | cycle _ board => rw [board]; exact Board.idle_next _

theorem words_step {k : Nat} (idle : (c.board k).Idle) (step : c.Step k) :
    (c.board (k + 1)).dmem.words = ((c.board k).dmem.writeAll (c.report k).writes).words := by
  cases step with
  | stay board report => rw [board, report]; rfl
  | cycle trap board report => rw [board, report]; exact Board.words_next trap idle.dmem

theorem words_after (idle : (c.board 0).Idle) (steps : ∀ k < n, c.Step k) :
    (c.board n).dmem.words = ((c.board 0).dmem.writeAll (c.writes n)).words := by
  induction n with
  | zero => rfl
  | succ n ih =>
    have before : ∀ k < n, c.Step k := fun k hk => steps k (Nat.lt_succ_of_lt hk)
    rw [writes_succ, Sram.writeAll_append, ← Sram.writeAll_congr (ih before)]
    exact words_step (idle_board idle before) (steps n (Nat.lt_succ_self n))

/-- How far a copy has come, if no other has been taken since it started. -/
theorem progress_after {src dst : Addr} {count : Nat}
    (start : Dma.Progress src dst count [] [] (c.board 0).core.dma (c.board 0).dmem.out)
    (idle : (c.board 0).Idle) (steps : ∀ k < n, c.Step k)
    (alone : ∀ k < n, c.report k = (c.board k).report →
      (c.board k).core.dma.busy = true ∨ (c.board k).core.exec1Is .dma = false) :
    Dma.Progress src dst count (c.copyReads n) (c.copyWrites n) (c.board n).core.dma
      (c.board n).dmem.out := by
  induction n with
  | zero => exact start
  | succ n ih =>
    have before : ∀ k < n, c.Step k := fun k hk => steps k (Nat.lt_succ_of_lt hk)
    have ih := ih before fun k hk => alone k (Nat.lt_succ_of_lt hk)
    rw [copyReads_succ, copyWrites_succ]
    cases steps n (Nat.lt_succ_self n) with
    | stay board report =>
      rw [board, report]
      simpa [Report.quiet, Dma.Activity.quiet] using ih
    | cycle trap board report =>
      have unasked := alone n (Nat.lt_succ_self n) report
      rw [board, report]
      exact Board.progress_next trap (idle_board idle before).dmem unasked ih

end Course

/-! ### Boards and runs -/

def Board.course (b : Board) : Course := ⟨b.after, fun k => (b.after k).report⟩

theorem Board.steps_of_lasts {b : Board} {n : Nat} (lasts : b.Lasts n) :
    ∀ k < n, b.course.Step k := fun k hk => .cycle (lasts k hk) rfl rfl

namespace Setup

variable {s : Setup} {i n : Nat}

/-- The ticks of a run from tick `i` on. -/
def course (s : Setup) (i : Nat) : Course := ⟨fun k => s.board (i + k), fun k => s.report (i + k)⟩

theorem steps_of_running (running : (s.machine (i + n)).halted = false) :
    ∀ k < n, (s.course i).Step k := by
  intro k hk
  have goesOn : (s.machine (i + k + 1)).halted = false := running_mono (by omega) running
  cases s.turn (i + k) with
  | stay board report => exact .stay board report
  | cycle goes board report =>
    rcases report with told | ⟨_, _, halted⟩
    · exact .cycle goes.no_trap board told
    · cases halted.symm.trans goesOn

theorem step_of_traced (traced : s.Traced (n + 1)) : (s.course n).Step 0 := by
  by_cases goes : s.Goes n
  · obtain ⟨board, told, _⟩ := turn_of_goes traced goes
    exact .cycle goes.no_trap board told
  · obtain ⟨board, quiet, _⟩ := turn_of_not_goes goes
    exact .stay board quiet

theorem sound_board (s : Setup) (n : Nat) : (s.board n).core.dma.Sound := by
  apply s.holds_board (P := fun b => b.core.dma.Sound)
  · exact fun _ => rfl
  · exact fun _ _ h => Board.sound_next h

end Setup

end SixStage
