-- The limit of cycles. No tick looks at it. A run does, before each tick, and
-- does nothing else with it: so a run ends as the ticks go, with the halt or
-- with the fault that comes within the limit, and at the limit if none does.
import SixStage.Proofs.Tracing

namespace SixStage

theorem Sink.works_flush (s : Sink) (h : s.Works) : s.flush.1.Works :=
  ⟨s.writeFaults_flush h.writes, s.flushFaults_flush h.flushes⟩

theorem Tracer.works_of_all {t : Tracer} (h : t.All Sink.Works) : t.Works :=
  ⟨h.inst, h.cycle, h.dma⟩

theorem Tracer.works_flush {t : Tracer} (h : t.Works) : t.flush.1.Works :=
  works_of_all (all_flush Sink.works_flush (all_of_works h))

namespace Machine

variable {m : Machine} {limit : Option Nat}

/-- The machine with another limit of cycles, or with none. -/
def withLimit (m : Machine) (limit : Option Nat) : Machine :=
  { m with config := { m.config with maxCycles := limit } }

/-- The machine with its traces flushed once more. -/
def flushed (m : Machine) : Machine := m.withTracer m.tracer.flush.1

/-! ## Ticks -/

theorem dump_withLimit (m : Machine) (limit : Option Nat) :
    (m.withLimit limit).dump = (m.dump.1.withLimit limit, m.dump.2) := by
  unfold dump
  simp only [withLimit]
  split <;> rfl

theorem stop_withLimit (m : Machine) (limit : Option Nat) :
    (m.withLimit limit).stop = (m.stop.1.withLimit limit, m.stop.2) := by
  unfold stop
  rcases hf : m.tracer.flush.2 with _ | _
  · simp [withLimit, hf]
  · rcases hd : m.config.trace.enabled && m.config.trace.dumpMemory with _ | _
    · simp [withLimit, hf, hd]
    · simp only [withLimit, hf, hd, Bool.not_true, Bool.false_eq_true, if_false, if_true]
      exact dump_withLimit ⟨m.config, m.board, m.tracer.flush.1, m.stats, true, m.files⟩ limit

/-- No tick looks at the limit. -/
theorem tick_withLimit (m : Machine) (limit : Option Nat) :
    (m.withLimit limit).tick = (m.tick.1.withLimit limit, m.tick.2) := by
  have does := m.does
  generalize m.tick = r at does ⊢
  cases does with
  | rest halted => exact tick_of_halted halted
  | fault running t trap => exact tick_of_trap (m := m.withLimit limit) running trap
  | untraced running trap broken =>
    exact tick_of_untraced (m := m.withLimit limit) running trap broken
  | commit running trap traced goes =>
    rw [tick_of_traced (m := m.withLimit limit) running trap traced, if_neg]
    · rfl
    · exact Bool.eq_false_iff.mp goes
  | stop running stops =>
    have halts : (m.withLimit limit).board.report.halts = true := stops.halts
    have committed : (m.withLimit limit).committed = m.committed.withLimit limit := rfl
    rw [tick_of_traced (m := m.withLimit limit) running stops.no_trap stops.traced, if_pos halts,
      committed, stop_withLimit]
    rfl

theorem after_withLimit (m : Machine) (limit : Option Nat) (n : Nat) :
    (m.withLimit limit).after n = (m.after n).withLimit limit := by
  induction n with
  | zero => rfl
  | succ n ih => rw [after, ih, tick_withLimit, after]

/-! ## Steps of a run -/

theorem run_of_running (h : m.advance.2 = .running) (n : Nat) :
    run (n + 1) m = run n m.advance.1 := by
  rw [run]
  split
  · next h' => rw [h']
  · next h' => simp_all

theorem run_of_over (h : m.advance.2 ≠ .running) (n : Nat) : run (n + 1) m = m.advance := by
  rw [run]
  split
  · next h' => simp [h'] at h
  · next h' => exact h'.symm

/-- The run goes on with the machine that the tick leaves. -/
theorem advance_of_ok {r : Report} (running : m.halted = false) (within : m.outOfCycles = false)
    (ok : m.tick.2 = .ok r) : m.advance = (m.tick.1, .running) := by
  simp only [advance, running, within, Bool.false_eq_true, if_false]
  split
  · next h => simp [h] at ok
  · next h => rw [h]

theorem advance_of_halted (halted : m.halted = true) : m.advance = (m, .done) := by
  simp [advance, halted]

theorem advance_of_trap {t : Trap} (running : m.halted = false) (within : m.outOfCycles = false)
    (trap : m.board.core.trap = some t) (idle : m.board.Idle) (works : m.tracer.Works) :
    m.advance = (m.flushed, .failed (.illegalOpcode t)) := by
  simp [advance, running, within, tick_of_trap running trap, Tracer.flush_of_works works,
    Board.discard_of_idle idle, flushed, withTracer]

theorem advance_of_limit {l : Nat} (running : m.halted = false)
    (limit : m.config.maxCycles = some l) (out : l ≤ m.board.core.cycle)
    (works : m.tracer.Works) : m.advance = (m.flushed, .failed (.cycleLimit l)) := by
  simp [advance, running, outOfCycles, limit, out, expire, Tracer.flush_of_works works, flushed,
    withTracer]

/-! ### Runs that can only fail again -/

/-- Nothing is left to a run of the machine but to fail once more. -/
structure Stuck (m : Machine) (e : Fault) : Prop where
  running : m.halted = false
  idle : m.board.Idle
  works : m.tracer.Works
  cause : (∃ l, m.config.maxCycles = some l ∧ l ≤ m.board.core.cycle ∧ e = .cycleLimit l) ∨
    m.outOfCycles = false ∧ ∃ t, m.board.core.trap = some t ∧ e = .illegalOpcode t

theorem stuck_flushed {e : Fault} (h : m.Stuck e) : m.flushed.Stuck e :=
  ⟨h.running, h.idle, Tracer.works_flush h.works, h.cause⟩

theorem run_of_stuck {e : Fault} (h : m.Stuck e) (n : Nat) :
    run (n + 1) m = (m.flushed, .failed e) := by
  have step : m.advance = (m.flushed, .failed e) := by
    rcases h.cause with ⟨l, limit, out, rfl⟩ | ⟨within, t, trap, rfl⟩
    · exact advance_of_limit h.running limit out h.works
    · exact advance_of_trap h.running within trap h.idle h.works
  rw [run_of_over (by simp [step]), step]

/-- Run after run, it fails in the same way, and only the traces are flushed again. -/
theorem runs_of_stuck {e : Fault} (h : m.Stuck e) (times n : Nat) :
    run (n + 1) (Nat.repeat flushed times m) = (Nat.repeat flushed (times + 1) m, .failed e) ∧
      (Nat.repeat flushed times m).tracer.texts = m.tracer.texts := by
  have later : (Nat.repeat flushed times m).Stuck e ∧
      (Nat.repeat flushed times m).tracer.texts = m.tracer.texts := by
    induction times with
    | zero => exact ⟨h, rfl⟩
    | succ times ih => exact ⟨stuck_flushed ih.1, (Tracer.texts_flush _).trans ih.2⟩
  exact ⟨run_of_stuck later.1 n, later.2⟩

end Machine

/-! ## Runs from reset -/

namespace Setup

open Machine

variable {s : Setup} {n : Nat} {limit : Option Nat}

/-- The fresh machine with this limit of cycles, or with none. -/
def limited (s : Setup) (limit : Option Nat) : Machine := (s.machine 0).withLimit limit

/-- The fresh machine without a limit, after so many ticks. -/
def unlimited (s : Setup) (n : Nat) : Machine := (s.limited none).after n

/-- Without a limit, HLT commits as the last of so many cycles. -/
def HaltsIn (s : Setup) (cycles : Nat) : Prop :=
  ∃ n, (s.unlimited n).halted = false ∧ (s.unlimited (n + 1)).halted = true ∧
    (s.unlimited (n + 1)).board.core.cycle = cycles

/-- Without a limit, a tick that starts with the cycle counter at `k` fails with an illegal
instruction. -/
def TrapsIn (s : Setup) (k : Nat) (t : Trap) : Prop :=
  ∃ n, (s.unlimited n).tick.2 = .error (.illegalOpcode t) ∧ (s.unlimited n).board.core.cycle = k

theorem after_limited (s : Setup) (limit : Option Nat) (n : Nat) :
    (s.limited limit).after n = (s.machine n).withLimit limit := by
  rw [limited, after_withLimit]
  rfl

theorem unlimited_eq (s : Setup) (n : Nat) : s.unlimited n = (s.machine n).withLimit none :=
  s.after_limited none n

theorem works_machine (works : s.tracer.Works) (n : Nat) : (s.machine n).tracer.Works :=
  Tracer.works_of_all
    (all_after (m := s.fresh) Sink.works_write Sink.works_flush (Tracer.all_of_works works) n)

/-! ### Ends of a run -/

theorem within_some {p : Nat → Prop} {l : Nat} (h : p l) : ∀ l' ∈ some l, p l' := by
  rintro _ ⟨⟩
  exact h

/-- The machine that so many cycles have led to is below every limit above their number. -/
theorem not_outOfCycles (saves : ∀ n, s.Traced n) (h : s.Reaches n)
    (below : ∀ l ∈ limit, n < l) : ((s.machine n).withLimit limit).outOfCycles = false := by
  have hc : (s.machine n).board.core.cycle = n := cycle_of_reaches (saves n) h
  rcases limit with _ | l
  · rfl
  · simpa [outOfCycles, withLimit, hc] using below l rfl

/-- As long as the ticks are cycles and the limit is not passed, the run is these ticks. -/
theorem run_limited (saves : ∀ n, s.Traced n) (h : s.Reaches n) (within : ∀ l ∈ limit, n ≤ l)
    (fuel : Nat) : run (n + fuel) (s.limited limit) = run fuel ((s.machine n).withLimit limit) := by
  induction n generalizing fuel with
  | zero =>
    rw [Nat.zero_add]
    rfl
  | succ n ih =>
    have h' := h.mono (Nat.le_succ n)
    have goes := h n (Nat.lt_succ_self n)
    have ok : ((s.machine n).withLimit limit).tick.2 = .ok (s.board n).report := by
      rw [tick_withLimit]
      exact (tick_of_goes (saves (n + 1)) goes).2
    have step := advance_of_ok (m := (s.machine n).withLimit limit) goes.running
      (not_outOfCycles saves h' within) ok
    have more : n + 1 + fuel = n + (fuel + 1) := by omega
    rw [more, ih h' (fun l hl => Nat.le_of_succ_le (within l hl)),
      run_of_running (by rw [step]), step, tick_withLimit]
    rfl

theorem run_of_halt (saves : ∀ n, s.Traced n) (h : s.Reaches n)
    (halted : (s.machine n).halted = true) (within : ∀ l ∈ limit, n ≤ l) {fuel : Nat}
    (enough : n < fuel) :
    run fuel (s.limited limit) = ((s.machine n).withLimit limit, .done) := by
  obtain ⟨f, rfl⟩ := Nat.exists_eq_add_of_lt enough
  have step := advance_of_halted (m := (s.machine n).withLimit limit) halted
  rw [Nat.add_assoc, run_limited saves h within, run_of_over (by simp [step]), step]

theorem run_of_trap (works : s.tracer.Works) (saves : ∀ n, s.Traced n) (h : s.Reaches n)
    (running : (s.machine n).halted = false) {t : Trap} (trap : (s.board n).core.trap = some t)
    (below : ∀ l ∈ limit, n < l) {fuel : Nat} (enough : n < fuel) :
    run fuel (s.limited limit) =
      ((s.machine n).flushed.withLimit limit, .failed (.illegalOpcode t)) := by
  obtain ⟨f, rfl⟩ := Nat.exists_eq_add_of_lt enough
  have step := advance_of_trap (m := (s.machine n).withLimit limit) running
    (not_outOfCycles saves h below) trap (s.idle_board n) (works_machine works n)
  rw [Nat.add_assoc, run_limited saves h fun l hl => Nat.le_of_lt (below l hl),
    run_of_over (by simp [step]), step]
  rfl

theorem run_of_limit (works : s.tracer.Works) (saves : ∀ n, s.Traced n) (h : s.Reaches n)
    (running : (s.machine n).halted = false) {fuel : Nat} (enough : n < fuel) :
    run fuel (s.limited (some n)) =
      ((s.machine n).flushed.withLimit (some n), .failed (.cycleLimit n)) := by
  obtain ⟨f, rfl⟩ := Nat.exists_eq_add_of_lt enough
  have out : n ≤ (s.machine n).board.core.cycle := Nat.le_of_eq (cycle_of_reaches (saves n) h).symm
  have step := advance_of_limit (m := (s.machine n).withLimit (some n)) running rfl out
    (works_machine works n)
  rw [Nat.add_assoc, run_limited saves h (within_some (Nat.le_refl n)),
    run_of_over (by simp [step]), step]
  rfl

/-! ### What the ticks without a limit come to -/

/-- Only a cycle halts a machine. -/
theorem goes_of_halted_next (running : (s.machine n).halted = false)
    (halted : (s.machine (n + 1)).halted = true) : s.Goes n := by
  rcases hc : (s.machine n).commits with _ | _
  · have same := (tick_of_not_commits (s.idle_board n) hc).2.2.1
    cases running.symm.trans (same.symm.trans halted)
  · exact ⟨running, (commits_iff.mp hc).2.1⟩

theorem reaches_of_haltsIn (saves : ∀ n, s.Traced n) {cycles : Nat} (h : s.HaltsIn cycles) :
    s.Reaches cycles ∧ (s.machine cycles).halted = true := by
  obtain ⟨n, running, halted, hc⟩ := h
  rw [unlimited_eq] at running halted hc
  have goes := goes_of_halted_next running halted
  have reaches := reaches_succ (reaches_of_goes (saves n) goes) goes
  obtain rfl : n + 1 = cycles := (cycle_of_reaches (saves (n + 1)) reaches).symm.trans hc
  exact ⟨reaches, halted⟩

theorem reaches_of_trapsIn (saves : ∀ n, s.Traced n) {k : Nat} {t : Trap} (h : s.TrapsIn k t) :
    s.Reaches k ∧ (s.machine k).halted = false ∧ (s.board k).core.trap = some t := by
  obtain ⟨n, failed, hc⟩ := h
  rw [unlimited_eq] at failed hc
  rw [tick_withLimit] at failed
  obtain ⟨running, trap⟩ := Machine.trap_of_fault failed
  change s.cycle n = k at hc
  subst hc
  -- Later ticks meet the same fault; the first of them is the one whose number is the counter.
  have reaches := reaches_cycle (saves n)
  have same : s.board (s.cycle n) = s.board n :=
    board_of_cycle_eq (cycle_of_reaches (saves _) reaches)
  exact ⟨reaches, running_mono (s.cycle_le n) running, same ▸ trap⟩

theorem not_haltsIn (saves : ∀ n, s.Traced n) (running : (s.machine n).halted = false) :
    ¬ s.HaltsIn n := by
  intro halts
  cases running.symm.trans (reaches_of_haltsIn saves halts).2

theorem not_trapsIn (saves : ∀ n, s.Traced n) (legal : (s.board n).core.trap = none) (t : Trap) :
    ¬ s.TrapsIn n t := by
  intro traps
  cases legal.symm.trans (reaches_of_trapsIn saves traps).2.2

theorem trapsIn_cycle (works : s.tracer.Works) (running : (s.machine n).halted = false) {t : Trap}
    (trap : (s.board n).core.trap = some t) : s.TrapsIn (s.cycle n) t := by
  refine ⟨n, ?_, ?_⟩
  · rw [unlimited_eq, tick_withLimit, tick_of_trap running trap,
      Tracer.flush_of_works (works_machine works n)]
    rfl
  · rw [unlimited_eq]
    rfl

/-- If neither comes within the limit, every tick up to it is a cycle. -/
theorem reaches_of_neither (works : s.tracer.Works) (saves : ∀ n, s.Traced n) {l : Nat}
    (goesOn : ∀ k ≤ l, ¬ s.HaltsIn k) (legal : ∀ k < l, ∀ t, ¬ s.TrapsIn k t) :
    s.Reaches l ∧ (s.machine l).halted = false := by
  induction l with
  | zero => exact ⟨reaches_zero, rfl⟩
  | succ l ih =>
    obtain ⟨reaches, running⟩ := ih (fun k hk => goesOn k (Nat.le_succ_of_le hk))
      fun k hk => legal k (Nat.lt_succ_of_lt hk)
    have trap : (s.board l).core.trap = none := by
      rcases ht : (s.board l).core.trap with _ | t
      · rfl
      · have traps := trapsIn_cycle works running ht
        rw [cycle_of_reaches (saves l) reaches] at traps
        exact absurd traps (legal l (Nat.lt_succ_self l) t)
    have reaches' := reaches_succ reaches ⟨running, trap⟩
    refine ⟨reaches', ?_⟩
    -- A machine that is halted now was halted by the last tick, as its cycle `l + 1`.
    rw [Bool.eq_false_iff]
    intro halted
    refine goesOn (l + 1) (Nat.le_refl _) ⟨l, ?_, ?_, ?_⟩
    all_goals rw [unlimited_eq]
    · exact running
    · exact halted
    · exact cycle_of_reaches (saves (l + 1)) reaches'

/-- How a run with the limit `l` ends. Up to there every tick is a cycle. -/
inductive Ends (s : Setup) (l : Nat) : Machine × Progress → Prop
  | halt (n : Nat) (within : n ≤ l) (reaches : s.Reaches n)
      (halted : (s.machine n).halted = true) :
      Ends s l ((s.machine n).withLimit (some l), .done)
  | trap (n : Nat) (within : n < l) (reaches : s.Reaches n)
      (running : (s.machine n).halted = false) (t : Trap) (trap : (s.board n).core.trap = some t) :
      Ends s l ((s.machine n).flushed.withLimit (some l), .failed (.illegalOpcode t))
  | limit (reaches : s.Reaches l) (running : (s.machine l).halted = false) :
      Ends s l ((s.machine l).flushed.withLimit (some l), .failed (.cycleLimit l))

theorem ends (works : s.tracer.Works) (saves : ∀ n, s.Traced n) {l fuel : Nat} (h : l < fuel) :
    s.Ends l (run fuel (s.limited (some l))) := by
  by_cases halts : ∃ k ≤ l, s.HaltsIn k
  · obtain ⟨k, hk, halts⟩ := halts
    obtain ⟨reaches, halted⟩ := reaches_of_haltsIn saves halts
    rw [run_of_halt saves reaches halted (within_some hk) (Nat.lt_of_le_of_lt hk h)]
    exact .halt k hk reaches halted
  by_cases traps : ∃ k < l, ∃ t, s.TrapsIn k t
  · obtain ⟨k, hk, t, traps⟩ := traps
    obtain ⟨reaches, running, trap⟩ := reaches_of_trapsIn saves traps
    rw [run_of_trap works saves reaches running trap (within_some hk) (Nat.lt_trans hk h)]
    exact .trap k hk reaches running t trap
  · obtain ⟨reaches, running⟩ := reaches_of_neither works saves (fun k hk hh => halts ⟨k, hk, hh⟩)
      fun k hk t ht => traps ⟨k, hk, t, ht⟩
    rw [run_of_limit works saves reaches running h]
    exact .limit reaches running

/-- With another limit that is no lower, or with none, a run that has not met its limit ends
in the same way. -/
theorem run_of_ends_within (works : s.tracer.Works) (saves : ∀ n, s.Traced n) {l fuel : Nat}
    (h : l < fuel) {r : Machine × Progress} (ends : s.Ends l r)
    (inside : r.2 ≠ .failed (.cycleLimit l)) (higher : ∀ l' ∈ limit, l ≤ l') :
    run fuel (s.limited limit) = (r.1.withLimit limit, r.2) := by
  cases ends with
  | halt n within reaches halted =>
    rw [run_of_halt saves reaches halted (fun l' hl => Nat.le_trans within (higher l' hl))
      (by omega)]
    rfl
  | trap n within reaches running t trap =>
    rw [run_of_trap works saves reaches running trap
      (fun l' hl => Nat.lt_of_lt_of_le within (higher l' hl)) (by omega)]
    rfl
  | limit => exact absurd rfl inside

/-- Ticks that succeed may come before the run. -/
theorem run_after_ticks (works : s.tracer.Works) (saves : ∀ n, s.Traced n) {l fuel : Nat}
    (h : l < fuel) {r : Machine × Progress} (ends : s.Ends l r) (hn : n ≤ l)
    (ok : ∀ k < n, ∃ report, ((s.limited (some l)).after k).tick.2 = .ok report) :
    run fuel ((s.limited (some l)).after n) = r := by
  rw [after_limited]
  -- Where all of them are cycles, they only take from the fuel.
  have shift (reaches : s.Reaches n) :
      run fuel ((s.machine n).withLimit (some l)) = run (n + fuel) (s.limited (some l)) :=
    (run_limited saves reaches (within_some hn) fuel).symm
  cases ends with
  | halt m within reaches halted =>
    rcases Nat.lt_or_ge m n with hm | hm
    · obtain ⟨f, rfl⟩ := Nat.exists_eq_add_of_lt h
      have step := advance_of_halted (m := (s.machine m).withLimit (some l)) halted
      rw [machine_of_halted (Nat.le_of_lt hm) halted, run_of_over (by simp [step]), step]
    · rw [shift (reaches.mono hm)]
      exact run_of_halt saves reaches halted (within_some within) (by omega)
  | trap m within reaches running t trap =>
    have hm : n ≤ m := by
      rcases Nat.lt_or_ge m n with hm | hm
      · obtain ⟨report, hr⟩ := ok m hm
        rw [after_limited, tick_withLimit, tick_of_trap running trap] at hr
        cases hr
      · exact hm
    rw [shift (reaches.mono hm)]
    exact run_of_trap works saves reaches running trap (within_some within) (by omega)
  | limit reaches running =>
    rw [shift (reaches.mono hn)]
    exact run_of_limit works saves reaches running (by omega)

/-- A run that has failed leaves a machine that is stuck. -/
theorem stuck_of_ends (works : s.tracer.Works) (saves : ∀ n, s.Traced n) {l : Nat}
    {r : Machine × Progress} (ends : s.Ends l r) {e : Fault} (failed : r.2 = .failed e) :
    r.1.Stuck e := by
  cases ends with
  | halt => cases failed
  | trap n within reaches running t trap =>
    cases failed
    have below := not_outOfCycles saves reaches (within_some within)
    exact ⟨running, s.idle_board n, Tracer.works_flush (works_machine works n),
      .inr ⟨below, t, trap, rfl⟩⟩
  | limit reaches running =>
    cases failed
    have hc : (s.machine l).board.core.cycle = l := cycle_of_reaches (saves l) reaches
    exact ⟨running, s.idle_board l, Tracer.works_flush (works_machine works l),
      .inl ⟨l, rfl, Nat.le_of_eq hc.symm, rfl⟩⟩

/-- The limit of cycles is only a guard. A run with the limit `l` ends with the HLT that commits
as one of the first `l` cycles, or with the fault of one of the first `l` ticks, and is then where
the ticks without a limit are; if there is neither, it ends at the limit, where `l` cycles have
led. So a limit that is raised or removed changes nothing where it was not met, ticks may come
before the run, and one that has failed fails in the same way when it is tried again. -/
theorem limit_is_only_a_guard (s : Setup) (l fuel : Nat) (works : s.tracer.Works)
    (saves : ∀ n, s.Traced n) (enough : l < fuel) :
    let r := run fuel (s.limited (some l))
    (∀ k ≤ l, s.HaltsIn k → r = ((s.unlimited k).withLimit (some l), .done)) ∧
    (∀ k < l, ∀ t, s.TrapsIn k t →
      r = ((s.unlimited k).flushed.withLimit (some l), .failed (.illegalOpcode t))) ∧
    ((∀ k ≤ l, ¬ s.HaltsIn k) → (∀ k < l, ∀ t, ¬ s.TrapsIn k t) →
      r = ((s.unlimited l).flushed.withLimit (some l), .failed (.cycleLimit l)) ∧
      r.1.board.core.cycle = l) ∧
    (r.2 ≠ .failed (.cycleLimit l) → ∀ limit : Option Nat, (∀ l' ∈ limit, l ≤ l') →
      run fuel (s.limited limit) = (r.1.withLimit limit, r.2)) ∧
    (∀ n ≤ l, (∀ k < n, ∃ report, ((s.limited (some l)).after k).tick.2 = .ok report) →
      run fuel ((s.limited (some l)).after n) = r) ∧
    ∀ e, r.2 = .failed e → ∀ times n,
      run (n + 1) (Nat.repeat Machine.flushed times r.1) =
        (Nat.repeat Machine.flushed (times + 1) r.1, r.2) ∧
      (Nat.repeat Machine.flushed times r.1).tracer.texts = r.1.tracer.texts := by
  intro r
  have hends : s.Ends l r := ends works saves enough
  refine ⟨fun k hk halts => ?_, fun k hk t traps => ?_, fun goesOn legal => ?_,
    fun inside limit higher => ?_, fun n hn ok => ?_, fun e failed times n => ?_⟩
  · obtain ⟨reaches, halted⟩ := reaches_of_haltsIn saves halts
    rw [unlimited_eq]
    exact run_of_halt saves reaches halted (within_some hk) (Nat.lt_of_le_of_lt hk enough)
  · obtain ⟨reaches, running, trap⟩ := reaches_of_trapsIn saves traps
    rw [unlimited_eq]
    exact run_of_trap works saves reaches running trap (within_some hk) (Nat.lt_trans hk enough)
  · obtain ⟨reaches, running⟩ := reaches_of_neither works saves goesOn legal
    have hr : r = _ := run_of_limit works saves reaches running enough
    rw [unlimited_eq, hr]
    exact ⟨rfl, cycle_of_reaches (saves l) reaches⟩
  · exact run_of_ends_within works saves enough hends inside higher
  · exact run_after_ticks works saves enough hends hn ok
  · rw [failed]
    exact runs_of_stuck (stuck_of_ends works saves hends failed) times n

/-- Without traces none fails. -/
theorem traced_small (image : List Word) (n : Nat) : (small image).Traced n := by
  intro k _
  exact (small image).fresh.unbroken_untraced k

/-- HLT commits as the sixth cycle: a run with a limit of six is done, and one with a limit of
five ends there. An illegal word is met in the tick after five cycles: a limit of six lets the
run meet it, one of five does not, and then no later run does. -/
theorem limits_around_a_halt_and_a_fault :
    let s := small [0x30000000]
    let f := small [0x1a000000]
    s.HaltsIn 6 ∧ (run 7 (s.limited (some 6))).2 = .done ∧
      (run 6 (s.limited (some 5))).2 = .failed (.cycleLimit 5) ∧
      (∃ t, f.TrapsIn 5 t ∧ (run 7 (f.limited (some 6))).2 = .failed (.illegalOpcode t)) ∧
      (run 6 (f.limited (some 5))).2 = .failed (.cycleLimit 5) ∧
      (run 1 (run 6 (f.limited (some 5))).1).2 = .failed (.cycleLimit 5) := by
  intro s f
  have halts : s.HaltsIn 6 := ⟨5, by decide +kernel⟩
  have running : ∀ k ≤ 5, (s.machine k).halted = false ∧ (f.machine k).halted = false := by
    decide +kernel
  have legal : ∀ k < 5, (s.board k).core.trap = none ∧ (f.board k).core.trap = none := by
    decide +kernel
  have trapped : (f.board 5).core.trap.isSome := by decide +kernel
  have counted : f.cycle 5 = 5 := by decide +kernel
  have works : s.tracer.Works ∧ f.tracer.Works := by
    constructor <;> constructor <;> rintro _ ⟨⟩
  have saves : (∀ n, s.Traced n) ∧ ∀ n, f.Traced n := ⟨traced_small _, traced_small _⟩
  clear_value s f
  obtain ⟨t, trap⟩ := Option.isSome_iff_exists.mp trapped
  have traps := trapsIn_cycle works.2 (running 5 (Nat.le_refl 5)).2 trap
  rw [counted] at traps
  obtain ⟨done, _⟩ := limit_is_only_a_guard s 6 7 works.1 saves.1 (by decide)
  obtain ⟨_, _, cut, _⟩ := limit_is_only_a_guard s 5 6 works.1 saves.1 (by decide)
  obtain ⟨_, fault, _⟩ := limit_is_only_a_guard f 6 7 works.2 saves.2 (by decide)
  obtain ⟨_, _, cut', _, _, again⟩ := limit_is_only_a_guard f 5 6 works.2 saves.2 (by decide)
  have cut := cut (fun k hk => not_haltsIn saves.1 (running k hk).1)
    fun k hk => not_trapsIn saves.1 (legal k hk).1
  have cut' := cut' (fun k hk => not_haltsIn saves.2 (running k hk).2)
    fun k hk => not_trapsIn saves.2 (legal k hk).2
  have failed : (run 6 (f.limited (some 5))).2 = .failed (.cycleLimit 5) := by rw [cut'.1]
  refine ⟨halts, ?_, by rw [cut.1], ⟨t, traps, ?_⟩, failed, ?_⟩
  · rw [done 6 (Nat.le_refl 6) halts]
  · rw [fault 5 (by decide) t traps]
  · exact (congrArg Prod.snd (again _ failed 0 0).1).trans failed

end Setup

end SixStage
