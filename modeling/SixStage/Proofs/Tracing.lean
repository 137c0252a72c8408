-- Tracing and the run. Trace writers may break off any record, and each tick that
-- meets such a break is tried again. What the ticks that come through show is then
-- what a machine without traces shows, tick by tick, and the tracer has counted
-- what the machine has.
import SixStage.Proofs.FailedTick

namespace SixStage

theorem Statistics.retired_record (t : Statistics) (r : Report) :
    (t.record r).retired = t.retired + r.retired.isSome.toNat := by
  rcases hr : r.retired with _ | x
  · simp [record, hr]
  · rcases hx : x.effect <;> simp [record, hr, hx, Effect.count]

/-! ## One tick -/

/-- What is to be seen of a tick: its outcome, and the board, the counts and the mark for a
halted machine that it leaves. -/
structure Observed where
  outcome : Except Fault Report
  board : Board
  stats : Statistics
  halted : Bool

/-- The tick of a machine without traces. -/
def Observed.plain (b : Board) (t : Statistics) (halted : Bool) : Observed :=
  if halted then ⟨.ok .quiet, b, t, true⟩
  else
    match b.core.trap with
    | some trap => ⟨.error (.illegalOpcode trap), b, t, false⟩
    | none => ⟨.ok b.report, b.next, t.record b.report, b.report.halts⟩

namespace Machine

variable {m : Machine}

def observe (m : Machine) : Observed :=
  ⟨m.tick.2, m.tick.1.board, m.tick.1.stats, m.tick.1.halted⟩

/-- The next tick does not fail to flush the traces or to dump the memories. -/
structure Saves (m : Machine) : Prop where
  flushes : ∀ t, m.board.core.trap = some t → m.tracer.flush.2 = true
  stops : m.Stops → m.committed.stop.2 = none

theorem tracer_stop (m : Machine) : m.stop.1.tracer = m.tracer.flush.1 := by
  rw [stop_fst]

theorem config_stop (m : Machine) : m.stop.1.config = m.config := by
  rw [stop_fst]

theorem config_tick (m : Machine) : m.tick.1.config = m.config := by
  have does := m.does
  generalize m.tick = r at does ⊢
  cases does with
  | stop => exact config_stop _
  | _ => rfl

theorem tracer_tick {P : Tracer → Prop} (h : P m.tracer)
    (record : ∀ t, P t → P (t.record m.board.core m.board.report).1)
    (flush : ∀ t, P t → P t.flush.1) : P m.tick.1.tracer := by
  have does := m.does
  generalize m.tick = r at does ⊢
  cases does with
  | rest => exact h
  | fault => exact flush _ h
  | untraced => exact record _ h
  | commit => exact record _ h
  | stop =>
    simp only [tracer_stop]
    exact flush _ (record _ h)

theorem all_tick {P : Sink → Prop} (write : ∀ s text, P s → P (s.write text).1)
    (flush : ∀ s, P s → P s.flush.1) (h : m.tracer.All P) : m.tick.1.tracer.All P :=
  tracer_tick h (fun _ ht => Tracer.all_record write ht _ _) fun _ ht => Tracer.all_flush flush ht

theorem saves_of_flushes (h : m.tracer.All fun s => s.flushFaults = [])
    (spares : (m.config.trace.enabled && m.config.trace.dumpMemory) = false) : m.Saves := by
  refine ⟨fun _ _ => Tracer.flush_of_all h, fun _ => ?_⟩
  have hf := Tracer.flush_of_all
    (Tracer.all_record Sink.flushFaults_write h m.board.core m.board.report)
  simp [stop, committed, hf, spares]

/-- A tick fails to write only where a record breaks off. -/
theorem untraced_of_broken (saves : m.Saves) (h : broken m.tick.2 = true) :
    m.halted = false ∧ m.board.core.trap = none ∧
      m.tracer.admits m.board.core m.board.report = false := by
  have does := m.does
  generalize m.tick = r at does h
  cases does with
  | rest => cases h
  | fault _ t trap => simp [saves.flushes t trap, broken] at h
  | untraced running trap broken => exact ⟨running, trap, broken⟩
  | commit => cases h
  | stop _ stops => simp [saves.stops stops, broken] at h

/-- A tick that comes through is that of a machine without traces. -/
theorem observe_of_unbroken (idle : m.board.Idle) (saves : m.Saves)
    (h : broken m.tick.2 = false) : m.observe = .plain m.board m.stats m.halted := by
  have does := m.does
  unfold observe
  generalize m.tick = r at does h ⊢
  cases does with
  | rest halted => simp [Observed.plain, halted]
  | fault running t trap =>
    simp [Observed.plain, running, trap, saves.flushes t trap, Board.discard_of_idle idle]
  | untraced => cases h
  | commit running trap _ goes => simp [Observed.plain, running, trap, goes, committed]
  | stop running stops =>
    obtain ⟨board, halted⟩ := stop_board m.committed
    simp only [saves.stops stops, board, halted, stats_stop, Option.elim_none]
    simp [Observed.plain, running, stops.no_trap, stops.halts, committed]

/-- A tick that does not come through uses a fault up and does nothing else. -/
theorem tick_of_broken (idle : m.board.Idle) (saves : m.Saves) (h : broken m.tick.2 = true) :
    m.tick.1.board = m.board ∧ m.tick.1.stats = m.stats ∧ m.tick.1.halted = m.halted ∧
      m.tick.1.tracer.faults < m.tracer.faults := by
  obtain ⟨running, trap, untraced⟩ := untraced_of_broken saves h
  have record := m.tracer.faults_record m.board.core m.board.report
  rw [Tracer.record_snd, untraced] at record
  rw [tick_of_untraced running trap untraced]
  exact ⟨Board.discard_of_idle idle, rfl, rfl, Nat.lt_of_succ_le (Nat.le_of_eq record)⟩

/-- Whatever comes of a tick, it traces as many instructions as it counts. -/
theorem instructions_tick (m : Machine) :
    m.tick.1.tracer.instructions + m.stats.retired =
      m.tracer.instructions + m.tick.1.stats.retired := by
  have hi := m.tracer.instructions_record m.board.core m.board.report
  have hr := m.stats.retired_record m.board.report
  rw [Tracer.record_snd] at hi
  have does := m.does
  generalize m.tick = r at does ⊢
  cases does with
  | rest => rfl
  | fault => simp only [Tracer.instructions_flush]
  | untraced _ _ broken =>
    rw [broken, Bool.false_and, Bool.toNat_false] at hi
    simp only [hi, Nat.add_zero]
  | commit _ _ traced =>
    rw [traced, Bool.true_and] at hi
    simp only [committed]
    omega
  | stop _ stops =>
    rw [stops.traced, Bool.true_and] at hi
    simp only [tracer_stop, stats_stop, Tracer.instructions_flush, committed]
    omega

/-! ## Runs -/

variable {n : Nat}

def untraced (m : Machine) : Machine :=
  { m with
    config := { m.config with trace := { m.config.trace with enabled := false } }
    tracer := .disabled }

/-- What was to be seen of those of the first `n` ticks that came through. -/
def outcomes (m : Machine) (n : Nat) : List Observed :=
  (List.range n).filterMap fun k =>
    if broken (m.after k).tick.2 then none else some (m.after k).observe

theorem outcomes_succ (m : Machine) (n : Nat) :
    m.outcomes (n + 1) = m.outcomes n ++
      (if broken (m.after n).tick.2 then none else some (m.after n).observe).toList :=
  filterMap_range_succ ..

theorem outcomes_of_broken (h : broken (m.after n).tick.2 = true) :
    m.outcomes (n + 1) = m.outcomes n := by
  simp [outcomes_succ, h]

theorem outcomes_of_unbroken (h : broken (m.after n).tick.2 = false) :
    m.outcomes (n + 1) = m.outcomes n ++ [(m.after n).observe] := by
  simp [outcomes_succ, h]

theorem config_after (m : Machine) (n : Nat) : (m.after n).config = m.config := by
  induction n with
  | zero => rfl
  | succ n ih => exact (config_tick _).trans ih

theorem all_after {P : Sink → Prop} (write : ∀ s text, P s → P (s.write text).1)
    (flush : ∀ s, P s → P s.flush.1) (h : m.tracer.All P) (n : Nat) : (m.after n).tracer.All P := by
  induction n with
  | zero => exact h
  | succ n ih => exact all_tick write flush ih

theorem saves_after (h : m.tracer.All fun s => s.flushFaults = [])
    (spares : (m.config.trace.enabled && m.config.trace.dumpMemory) = false) (n : Nat) :
    (m.after n).Saves := by
  refine saves_of_flushes (all_after Sink.flushFaults_write Sink.flushFaults_flush h n) ?_
  rw [config_after]
  exact spares

theorem saves_untraced (m : Machine) (n : Nat) : (m.untraced.after n).Saves :=
  saves_after (Tracer.all_disabled _) rfl n

theorem unbroken_untraced (m : Machine) (n : Nat) :
    broken (m.untraced.after n).tick.2 = false := by
  rw [Bool.eq_false_iff]
  intro h
  have takes : (m.untraced.after n).tracer.All fun s => s.writeFaults = [] :=
    all_after Sink.writeFaults_write Sink.writeFaults_flush (Tracer.all_disabled _) n
  obtain ⟨_, _, untraced⟩ := untraced_of_broken (m.saves_untraced n) h
  cases (Tracer.admits_of_all takes _ _).symm.trans untraced

theorem length_outcomes_untraced (m : Machine) (n : Nat) : (m.untraced.outcomes n).length = n := by
  induction n with
  | zero => rfl
  | succ n ih => simp [outcomes_of_unbroken (m.unbroken_untraced n), ih]

/-- After `n` ticks the machine stands where the one without traces stands after `k`, and as
much of both was to be seen. -/
structure InStep (m : Machine) (n k : Nat) : Prop where
  outcomes : m.outcomes n = m.untraced.outcomes k
  board : (m.after n).board = (m.untraced.after k).board
  stats : (m.after n).stats = (m.untraced.after k).stats
  halted : (m.after n).halted = (m.untraced.after k).halted

theorem inStep_of_broken {k : Nat} (idle : m.board.Idle) (saves : (m.after n).Saves)
    (h : m.InStep n k) (hb : broken (m.after n).tick.2 = true) : m.InStep (n + 1) k := by
  obtain ⟨board, stats, halted, _⟩ := tick_of_broken (idle_after idle n) saves hb
  exact ⟨(outcomes_of_broken hb).trans h.outcomes, board.trans h.board, stats.trans h.stats,
    halted.trans h.halted⟩

theorem inStep_of_unbroken {k : Nat} (idle : m.board.Idle) (saves : (m.after n).Saves)
    (h : m.InStep n k) (hb : broken (m.after n).tick.2 = false) : m.InStep (n + 1) (k + 1) := by
  have hk := m.unbroken_untraced k
  have same : (m.after n).observe = (m.untraced.after k).observe := by
    rw [observe_of_unbroken (idle_after idle n) saves hb,
      observe_of_unbroken (idle_after (m := m.untraced) idle k) (m.saves_untraced k) hk, h.board,
      h.stats, h.halted]
  refine ⟨?_, congrArg Observed.board same, congrArg Observed.stats same,
    congrArg Observed.halted same⟩
  rw [outcomes_of_unbroken hb, outcomes_of_unbroken hk, h.outcomes, same]

theorem inStep (idle : m.board.Idle) (saves : ∀ k, (m.after k).Saves) (n : Nat) :
    m.InStep n (m.outcomes n).length := by
  induction n with
  | zero => exact ⟨rfl, rfl, rfl, rfl⟩
  | succ n ih =>
    rcases h : broken (m.after n).tick.2 with _ | _
    · have hl : (m.outcomes (n + 1)).length = (m.outcomes n).length + 1 := by
        simp [outcomes_of_unbroken h]
      rw [hl]
      exact inStep_of_unbroken idle (saves n) ih h
    · rw [outcomes_of_broken h]
      exact inStep_of_broken idle (saves n) ih h

/-- Tried again and again, a tick comes through. -/
theorem exists_unbroken (idle : m.board.Idle) (saves : ∀ k, (m.after k).Saves) (n : Nat) :
    ∃ l, broken (m.after l).tick.2 = false ∧ m.outcomes l = m.outcomes n := by
  -- Each attempt that fails uses up one of the faults.
  induction hf : (m.after n).tracer.faults using Nat.strongRecOn generalizing n with
  | ind f ih =>
    rcases h : broken (m.after n).tick.2 with _ | _
    · exact ⟨n, h, rfl⟩
    · obtain ⟨_, _, _, fewer⟩ := tick_of_broken (idle_after idle n) (saves n) h
      obtain ⟨l, hl, ho⟩ := ih _ (hf ▸ fewer) (n + 1) rfl
      exact ⟨l, hl, ho.trans (outcomes_of_broken h)⟩

theorem exists_outcomes (idle : m.board.Idle) (saves : ∀ k, (m.after k).Saves) (k : Nat) :
    ∃ n, (m.outcomes n).length = k := by
  induction k with
  | zero => exact ⟨0, rfl⟩
  | succ k ih =>
    obtain ⟨n, hn⟩ := ih
    obtain ⟨l, hl, ho⟩ := exists_unbroken idle saves n
    exact ⟨l + 1, by simp [outcomes_of_unbroken hl, ho, hn]⟩

theorem instructions_after (reset : m.AtReset) (n : Nat) :
    (m.after n).tracer.instructions = (m.after n).stats.retired := by
  induction n with
  | zero =>
    rw [after, reset.instructions, reset.stats]
    rfl
  | succ n ih =>
    have := (m.after n).instructions_tick
    simp only [after]
    omega

/-- Tracing changes nothing, whatever records break off, as long as flushes and dumps work.
The ticks that come through have the outcomes of a machine without traces, and leave the
boards, the counts and the halt that it leaves, one after the other up to any number of
them; that machine never fails to write. And the traces count the instructions that the
machine counts. -/
theorem tracing_changes_nothing (m : Machine) (reset : m.AtReset)
    (saves : ∀ n, (m.after n).Saves) :
    (∀ n, m.outcomes n = m.untraced.outcomes (m.outcomes n).length) ∧
    (∀ k, ∃ n, m.outcomes n = m.untraced.outcomes k) ∧
    (∀ k, (m.untraced.outcomes k).length = k) ∧
    ∀ n, (m.after n).tracer.instructions = (m.after n).stats.retired := by
  refine ⟨fun n => (inStep reset.idle saves n).outcomes, fun k => ?_, m.length_outcomes_untraced,
    instructions_after reset⟩
  obtain ⟨n, hn⟩ := exists_outcomes reset.idle saves k
  exact ⟨n, hn ▸ (inStep reset.idle saves n).outcomes⟩

/-- A small machine with traces of its instructions and of the copy engine. The first record
of each breaks off. -/
def patchy (image : List Word) : Machine :=
  { (Setup.small image).machine 0 with
    tracer := ⟨some ⟨"", [0], [], 0⟩, none, some ⟨"", [0], [], 0⟩, 0⟩ }

/-- A program that is one HLT halts in its sixth tick without traces. With them, the first tick
already fails, and the ticks that come through end in the same halt. -/
theorem broken_records_end_in_the_same_halt :
    let m := patchy [0x30000000]
    m.AtReset ∧ (∀ n, (m.after n).Saves) ∧ broken m.tick.2 = true ∧
      (m.untraced.after 6).halted = true ∧
      ∃ n, m.outcomes n = m.untraced.outcomes 6 ∧
        (m.after n).tracer.instructions = (m.after n).stats.retired := by
  generalize hm : patchy [0x30000000] = m
  dsimp only
  have reset : m.AtReset := by
    rw [← hm]
    exact ⟨rfl, Setup.idle_start _, rfl, rfl, rfl⟩
  have saves : ∀ n, (m.after n).Saves :=
    saves_after (by rw [← hm]; constructor <;> rintro _ ⟨⟩ <;> rfl) (by rw [← hm]; rfl)
  obtain ⟨_, reached, _, counted⟩ := tracing_changes_nothing m reset saves
  obtain ⟨n, hn⟩ := reached 6
  have failed : broken m.tick.2 = true := by rw [← hm]; decide +kernel
  have halted : (m.untraced.after 6).halted = true := by rw [← hm]; decide +kernel
  exact ⟨reset, saves, failed, halted, n, hn, counted n⟩

end Machine

end SixStage
