-- What a tick does. It rests, or drops its cycle, or makes it; and a cycle
-- that halts the machine has been made before the machine stops, so a failure
-- in stopping does not take it back. All that later modules say of a tick
-- comes from these five cases.
import SixStage.Machine
import SixStage.Proofs.MemoryCycles

namespace SixStage

/-! ## Cycles of the board -/

namespace Board

/-- The board after a cycle that meets no fault. -/
def next (b : Board) : Board := b.commit (b.core.next b.imem.out b.dmem.out)

/-- What such a cycle reports. -/
def report (b : Board) : Report := b.core.report b.dmem.out

/-- The board after so many cycles without a fault. -/
def after (b : Board) : Nat → Board
  | 0 => b
  | n + 1 => (b.after n).next

/-- No fault stops the first `n` cycles. -/
def Lasts (b : Board) (n : Nat) : Prop := ∀ k < n, (b.after k).core.trap = none

/-- Neither memory has anything scheduled. -/
structure Idle (b : Board) : Prop where
  imem : b.imem.Idle
  dmem : b.dmem.Idle

theorem after_add (b : Board) (m n : Nat) : b.after (m + n) = (b.after m).after n := by
  induction n with
  | zero => rfl
  | succ n ih => rw [← Nat.add_assoc, after, after, ih]

theorem clock_of_trap {b : Board} {t : Trap} (h : b.core.trap = some t) : b.clock = .error t := by
  simp [clock, Core.clock, h]

theorem clock_of_no_trap {b : Board} (h : b.core.trap = none) :
    b.clock = .ok (b.core.next b.imem.out b.dmem.out, b.report) := by
  simp [clock, Core.clock, h, report]

theorem idle_next (b : Board) : b.next.Idle := ⟨Sram.idle_clock _ _, Sram.idle_clock _ _⟩

theorem discard_of_idle {b : Board} (h : b.Idle) : b.discard = b := by
  simp [discard, Sram.discard_of_idle h.imem, Sram.discard_of_idle h.dmem]

theorem idle_after {b : Board} (h : b.Idle) (n : Nat) : (b.after n).Idle := by
  cases n with
  | zero => exact h
  | succ n => exact idle_next _

theorem Lasts.mono {b : Board} {m n : Nat} (h : b.Lasts n) (le : m ≤ n) : b.Lasts m :=
  fun k hk => h k (Nat.lt_of_lt_of_le hk le)

theorem lasts_succ {b : Board} {n : Nat} (h : b.Lasts n) (ht : (b.after n).core.trap = none) :
    b.Lasts (n + 1) := by
  intro k hk
  rcases Nat.lt_succ_iff_lt_or_eq.mp hk with hk | rfl
  · exact h k hk
  · exact ht

theorem retired_of_exec1_none {b : Board} (h : b.core.latches.exec1 = none) :
    b.report.retired = none := by
  simp [report, Core.report, Core.retired, h]

theorem retired_of_exec1 {b : Board} {e : Exec1} (h : b.core.latches.exec1 = some e) :
    b.report.retired = some (b.core.retire e b.dmem.out) := by
  simp [report, Core.report, Core.retired, h]

end Board

theorem Core.cycle_next (c : Core) (fetched loaded : Word) :
    (c.next fetched loaded).cycle = c.cycle + 1 := by
  unfold Core.next
  split <;> rfl

namespace Machine

variable {m : Machine}

/-! ## The cases of a tick -/

/-- The machine with its next cycle committed, counted and traced. -/
def committed (m : Machine) : Machine :=
  { m with
    board := m.board.next
    tracer := (m.tracer.record m.board.core m.board.report).1
    stats := m.stats.record m.board.report }

/-- The next cycle is the last one: it retires HLT, and the records of it come through. -/
structure Stops (m : Machine) : Prop where
  no_trap : m.board.core.trap = none
  halts : m.board.report.halts = true
  traced : m.tracer.admits m.board.core m.board.report = true

theorem dump_fst (m : Machine) : m.dump.1 = { m with files := m.dump.1.files } := by
  unfold dump
  split <;> rfl

/-- To stop changes the traces and the files, and halts the machine. -/
theorem stop_fst (m : Machine) : m.stop.1 =
    { m with halted := true, tracer := m.tracer.flush.1, files := m.stop.1.files } := by
  unfold stop
  simp only
  split
  · rfl
  · split
    · exact dump_fst _
    · rfl

theorem stop_board (m : Machine) : m.stop.1.board = m.board ∧ m.stop.1.halted = true := by
  rw [stop_fst]
  exact ⟨rfl, rfl⟩

theorem stats_stop (m : Machine) : m.stop.1.stats = m.stats := by
  rw [stop_fst]

theorem tick_of_halted (halted : m.halted = true) : m.tick = (m, .ok .quiet) := by
  simp [tick, halted]

theorem tick_of_trap (running : m.halted = false) {t : Trap} (trap : m.board.core.trap = some t) :
    m.tick = ({ m with board := m.board.discard, tracer := m.tracer.flush.1 },
      .error (if m.tracer.flush.2 then .illegalOpcode t else .io .refused)) := by
  simp [tick, running, Board.clock_of_trap trap, abort, Board.discard_schedule]

theorem tick_of_no_trap (running : m.halted = false) (trap : m.board.core.trap = none) :
    m.tick = m.finish (m.board.core.next m.board.imem.out m.board.dmem.out) m.board.report := by
  simp [tick, running, Board.clock_of_no_trap trap]

theorem tick_of_untraced (running : m.halted = false) (trap : m.board.core.trap = none)
    (untraced : m.tracer.admits m.board.core m.board.report = false) :
    m.tick = ({ m with
      board := m.board.discard
      tracer := (m.tracer.record m.board.core m.board.report).1 }, .error (.io .refused)) := by
  rw [← Tracer.record_snd] at untraced
  rw [tick_of_no_trap running trap, ← Board.discard_schedule]
  obtain ⟨config, board, tracer, stats, halted, files⟩ := m
  simp only at untraced
  simp only [finish]
  split
  · next h => simp only [h]
  · next h =>
    rw [h] at untraced
    cases untraced

theorem tick_of_traced (running : m.halted = false) (trap : m.board.core.trap = none)
    (traced : m.tracer.admits m.board.core m.board.report = true) :
    m.tick = if m.board.report.halts then
        (m.committed.stop.1,
          m.committed.stop.2.elim (.ok m.board.report) fun e => .error (.io e))
      else (m.committed, .ok m.board.report) := by
  rw [← Tracer.record_snd] at traced
  rw [tick_of_no_trap running trap]
  obtain ⟨config, board, tracer, stats, halted, files⟩ := m
  simp only at traced
  simp only [finish, committed]
  split
  · next h =>
    rw [h] at traced
    cases traced
  · next h =>
    simp only [h]
    split
    · split
      · next hs => simp [Board.next, hs]
      · next hs => simp [Board.next, hs]
    · rfl

/-- What a tick does, case by case. -/
inductive Does (m : Machine) : Machine × Except Fault Report → Prop
  | rest (halted : m.halted = true) : Does m (m, .ok .quiet)
  | fault (running : m.halted = false) (t : Trap) (trap : m.board.core.trap = some t) :
      Does m ({ m with board := m.board.discard, tracer := m.tracer.flush.1 },
        .error (if m.tracer.flush.2 then .illegalOpcode t else .io .refused))
  | untraced (running : m.halted = false) (trap : m.board.core.trap = none)
      (broken : m.tracer.admits m.board.core m.board.report = false) :
      Does m ({ m with
        board := m.board.discard
        tracer := (m.tracer.record m.board.core m.board.report).1 }, .error (.io .refused))
  | commit (running : m.halted = false) (trap : m.board.core.trap = none)
      (traced : m.tracer.admits m.board.core m.board.report = true)
      (goes : m.board.report.halts = false) : Does m (m.committed, .ok m.board.report)
  | stop (running : m.halted = false) (stops : m.Stops) :
      Does m (m.committed.stop.1,
        m.committed.stop.2.elim (.ok m.board.report) fun e => .error (.io e))

theorem does (m : Machine) : m.Does m.tick := by
  rcases running : m.halted with _ | _
  · rcases trap : m.board.core.trap with _ | t
    · rcases traced : m.tracer.admits m.board.core m.board.report with _ | _
      · rw [tick_of_untraced running trap traced]
        exact .untraced running trap traced
      · rw [tick_of_traced running trap traced]
        split
        · next halts => exact .stop running ⟨trap, halts, traced⟩
        · next goes => exact .commit running trap traced (Bool.eq_false_iff.mpr goes)
    · rw [tick_of_trap running trap]
      exact .fault running t trap
  · rw [tick_of_halted running]
    exact .rest running

/-! ## Ticks that make a cycle, and ticks that do not -/

/-- The next tick makes a cycle: the machine runs, no fault is in Exec1, and all records
of the cycle come through. -/
def commits (m : Machine) : Bool :=
  !m.halted && m.board.core.trap.isNone && m.tracer.admits m.board.core m.board.report

theorem commits_iff : m.commits = true ↔ m.halted = false ∧ m.board.core.trap = none ∧
    m.tracer.admits m.board.core m.board.report = true := by
  simp [commits, and_assoc]

/-- What a tick reports. One that fails has nothing to tell. -/
def told : Except Fault Report → Report
  | .ok r => r
  | .error _ => .quiet

/-- A trace or a dump failed. -/
def broken : Except Fault Report → Bool
  | .error (.io _) => true
  | _ => false

theorem io_of_broken {out : Except Fault Report} (h : broken out = true) :
    ∃ c, out = .error (.io c) := by
  unfold broken at h
  split at h
  · exact ⟨_, rfl⟩
  · cases h

/-- A tick that makes a cycle commits and counts it, even if the machine then fails to
stop in order. -/
theorem tick_of_commits (h : m.commits = true) :
    m.tick.1.board = m.board.next ∧ m.tick.1.stats = m.stats.record m.board.report ∧
      m.tick.1.halted = m.board.report.halts := by
  obtain ⟨running, trap, traced⟩ := commits_iff.mp h
  rw [tick_of_traced running trap traced]
  split
  · next halts =>
    obtain ⟨hb, hh⟩ := stop_board m.committed
    exact ⟨hb, stats_stop _, hh.trans halts.symm⟩
  · next halts => exact ⟨rfl, rfl, running.trans (Bool.eq_false_iff.mpr halts).symm⟩

/-- It reports its cycle, unless the machine fails to stop in order. -/
theorem outcome_of_commits (h : m.commits = true) :
    m.tick.2 = .ok m.board.report ∨ m.board.report.halts = true ∧ broken m.tick.2 = true := by
  obtain ⟨running, trap, traced⟩ := commits_iff.mp h
  rw [tick_of_traced running trap traced]
  split
  · next halts =>
    rcases m.committed.stop.2 with _ | e
    · exact .inl rfl
    · exact .inr ⟨halts, rfl⟩
  · exact .inl rfl

theorem tick_of_not_commits (idle : m.board.Idle) (h : m.commits = false) :
    m.tick.1.board = m.board ∧ m.tick.1.stats = m.stats ∧ m.tick.1.halted = m.halted ∧
      told m.tick.2 = .quiet := by
  have hd : m.board.discard = m.board := Board.discard_of_idle idle
  have does := m.does
  generalize m.tick = r at does ⊢
  cases does with
  | rest => exact ⟨rfl, rfl, rfl, rfl⟩
  | fault => exact ⟨hd, rfl, rfl, rfl⟩
  | untraced => exact ⟨hd, rfl, rfl, rfl⟩
  | commit running trap traced => cases h.symm.trans (commits_iff.mpr ⟨running, trap, traced⟩)
  | stop running stops =>
    cases h.symm.trans (commits_iff.mpr ⟨running, stops.no_trap, stops.traced⟩)

/-- If neither a trace nor a dump fails, a machine that runs and meets no fault makes its
cycle. -/
theorem commits_of_unbroken (running : m.halted = false) (trap : m.board.core.trap = none)
    (unbroken : broken m.tick.2 = false) : m.commits = true := by
  refine commits_iff.mpr ⟨running, trap, ?_⟩
  rcases traced : m.tracer.admits m.board.core m.board.report with _ | _
  · rw [tick_of_untraced running trap traced] at unbroken
    cases unbroken
  · rfl

/-- A tick that tells a fault has found it in Exec1. -/
theorem trap_of_fault {t : Trap} (h : m.tick.2 = .error (.illegalOpcode t)) :
    m.halted = false ∧ m.board.core.trap = some t := by
  have does := m.does
  generalize m.tick = r at does h
  cases does with
  | rest | untraced | commit => cases h
  | fault running t' trap =>
    rcases flushed : m.tracer.flush.2 with _ | _
    · simp [flushed] at h
    · simp only [flushed, if_true, Except.error.injEq, Fault.illegalOpcode.injEq] at h
      exact ⟨running, h ▸ trap⟩
  | stop =>
    rcases hs : m.committed.stop.2 with _ | e <;> simp [hs] at h

end Machine

end SixStage
