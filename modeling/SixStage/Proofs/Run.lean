-- Runs. A machine ticks, and its traces may fail and its ticks be tried again,
-- but its board only ever moves by whole cycles: it stands where as many cycles
-- as its counter tells have brought it, and the counts are those of these cycles.
import SixStage.Proofs.Tick

namespace SixStage

/-! ## Runs of a machine -/

namespace Machine

variable {m : Machine}

/-- The machine after so many ticks, those that fail counted too. -/
def after (m : Machine) : Nat → Machine
  | 0 => m
  | n + 1 => (m.after n).tick.1

/-- The machine is at reset. What stands in its memories and in its predictor is left open,
and so are its settings and its traces. -/
structure AtReset (m : Machine) : Prop where
  core : m.board.core = { Core.reset 1 with predictor := m.board.core.predictor }
  idle : m.board.Idle
  stats : m.stats = .zero
  halted : m.halted = false
  instructions : m.tracer.instructions = 0

/-- What was to be seen of the cycles that the first `n` ticks have made. -/
def history (m : Machine) (n : Nat) : List Report :=
  (List.range n).filterMap fun k =>
    if (m.after k).commits then some (m.after k).board.report else none

theorem history_succ (m : Machine) (n : Nat) :
    m.history (n + 1) = m.history n ++
      (if (m.after n).commits then some (m.after n).board.report else none).toList :=
  filterMap_range_succ ..

theorem idle_after (idle : m.board.Idle) (n : Nat) : (m.after n).board.Idle := by
  induction n with
  | zero => exact idle
  | succ n ih =>
    rcases hc : (m.after n).commits with _ | _
    · rw [after, (tick_of_not_commits ih hc).1]
      exact ih
    · rw [after, (tick_of_commits hc).1]
      exact Board.idle_next _

/-- What holds of the machine at first, and stays so in every cycle that it makes, holds after
any number of ticks. -/
theorem holds_after {P : Board → Statistics → Bool → List Report → Prop} (idle : m.board.Idle)
    (start : P m.board m.stats m.halted [])
    (cycle : ∀ n, (m.after n).halted = false → (m.after n).board.core.trap = none →
      P (m.after n).board (m.after n).stats false (m.history n) →
      P (m.after n).board.next ((m.after n).stats.record (m.after n).board.report)
        (m.after n).board.report.halts (m.history n ++ [(m.after n).board.report])) (n : Nat) :
    P (m.after n).board (m.after n).stats (m.after n).halted (m.history n) := by
  induction n with
  | zero => exact start
  | succ n ih =>
    rw [history_succ]
    rcases hc : (m.after n).commits with _ | _
    · obtain ⟨board, stats, halted, _⟩ := tick_of_not_commits (idle_after idle n) hc
      rw [after, board, stats, halted]
      simpa using ih
    · obtain ⟨board, stats, halted⟩ := tick_of_commits hc
      obtain ⟨running, trap, _⟩ := commits_iff.mp hc
      rw [after, board, stats, halted]
      simpa using cycle n running trap (running ▸ ih)

theorem after_of_halted {k n : Nat} (h : k ≤ n) (halted : (m.after k).halted = true) :
    m.after n = m.after k := by
  induction n with
  | zero => rw [Nat.le_zero.mp h]
  | succ n ih =>
    rcases Nat.le_succ_iff.mp h with h | rfl
    · rw [after, ih h, tick_of_halted halted]
    · rfl

end Machine

/-! ## Runs from reset -/

/-- What a run starts from. The settings pass their checks, and the data memory
holds any words. -/
structure Setup where
  config : Config
  valid : config.fault? = none
  image : List Word
  data : Array Word
  data_size : data.size = config.memoryHeight
  /-- The traces. They may fail at any write and at any flush. -/
  tracer : Tracer
  files : FileTree

namespace Setup

/-- A small run: a predictor of one entry, memories of eight words, and no traces. -/
def small (image : List Word) : Setup :=
  ⟨⟨none, 1, 8, ⟨false, "", false, false, false, false⟩⟩, by decide, image,
    #[1, 2, 3, 4, 5, 6, 7, 8], by decide, .disabled, .empty⟩

theorem data_nonempty (s : Setup) : 0 < s.data.size := by
  have h := s.valid
  rw [s.data_size]
  unfold Config.fault? at h
  split at h
  · cases h
  · split at h
    · cases h
    · omega

def start (s : Setup) : Board :=
  { Board.reset s.config.predictorSize s.config.memoryHeight s.image with
    dmem := ⟨s.data, s.data_nonempty, none, none, 0⟩ }

def fresh (s : Setup) : Machine :=
  { Machine.build s.config s.image s.tracer s.files with board := s.start }

def machine (s : Setup) (n : Nat) : Machine := s.fresh.after n

/-- The board that tick `n` starts from. -/
def board (s : Setup) (n : Nat) : Board := (s.machine n).board

/-- The cycles so far. A tick that fails adds none. -/
def cycle (s : Setup) (n : Nat) : Nat := (s.board n).core.cycle

def report (s : Setup) (n : Nat) : Report := Machine.told (s.machine n).tick.2

def retired (s : Setup) (n : Nat) : Option Retired := (s.report n).retired

/-- The program: the word at each address of the instruction memory. -/
def code (s : Setup) : Addr → Word := s.start.imem.peek

/-- In the first `n` ticks no trace and no dump fails. -/
def Traced (s : Setup) (n : Nat) : Prop := ∀ k < n, Machine.broken (s.machine k).tick.2 = false

instance (s : Setup) (n : Nat) : Decidable (s.Traced n) :=
  inferInstanceAs (Decidable (∀ k < n, Machine.broken (s.machine k).tick.2 = false))

/-- Tick `n` finds a machine that runs, and no fault in Exec1. -/
structure Goes (s : Setup) (n : Nat) : Prop where
  running : (s.machine n).halted = false
  no_trap : (s.board n).core.trap = none

/-- The cycle of tick `n` is reported, or it has halted the machine. -/
def Reported (s : Setup) (n : Nat) : Prop :=
  s.report n = (s.board n).report ∨
    s.report n = .quiet ∧ (s.board n).report.halts = true ∧ (s.machine (n + 1)).halted = true

/-- What a tick does to the board: nothing, or one cycle. -/
inductive Turn (s : Setup) (n : Nat) : Prop
  | stay (board : s.board (n + 1) = s.board n) (report : s.report n = .quiet)
  | cycle (goes : s.Goes n) (board : s.board (n + 1) = (s.board n).next)
      (report : s.Reported n)

theorem idle_start (s : Setup) : s.start.Idle :=
  ⟨Sram.idle_install (Sram.idle_zero _) _, ⟨rfl, rfl⟩⟩

/-- Every run starts at reset. -/
theorem atReset (s : Setup) (fresh : s.tracer.instructions = 0) : (s.machine 0).AtReset :=
  ⟨rfl, s.idle_start, rfl, rfl, fresh⟩

theorem idle_board (s : Setup) (n : Nat) : (s.board n).Idle := Machine.idle_after s.idle_start n

theorem turn (s : Setup) (n : Nat) : s.Turn n := by
  rcases hc : (s.machine n).commits with _ | _
  · obtain ⟨board, _, _, told⟩ := Machine.tick_of_not_commits (s.idle_board n) hc
    exact .stay board told
  · obtain ⟨board, _, halted⟩ := Machine.tick_of_commits hc
    obtain ⟨running, trap, _⟩ := Machine.commits_iff.mp hc
    refine .cycle ⟨running, trap⟩ board ?_
    rcases Machine.outcome_of_commits hc with ok | ⟨halts, broken⟩
    · exact .inl (congrArg Machine.told ok)
    · obtain ⟨c, failed⟩ := Machine.io_of_broken broken
      exact .inr ⟨congrArg Machine.told failed, halts, halted.trans halts⟩

/-- What holds of the board at first and is kept by each of its cycles, holds after any number
of ticks. -/
theorem holds_board (s : Setup) {P : Board → Prop} (start : P s.start)
    (next : ∀ n, s.Goes n → P (s.board n) → P (s.board n).next) (n : Nat) : P (s.board n) :=
  Machine.holds_after (P := fun b _ _ _ => P b) s.idle_start start
    (fun n running trap h => next n ⟨running, trap⟩ h) n

/-- Whatever the traces do, the board stands where its cycles have brought it. -/
theorem board_eq_after (s : Setup) (n : Nat) :
    s.board n = s.start.after (s.cycle n) ∧ s.start.Lasts (s.cycle n) := by
  induction n with
  | zero => exact ⟨rfl, fun k hk => absurd hk (Nat.not_lt_zero k)⟩
  | succ n ih =>
    obtain ⟨hb, hl⟩ := ih
    cases s.turn n with
    | stay hs _ =>
      have hc : s.cycle (n + 1) = s.cycle n := by rw [cycle, hs, cycle]
      rw [hs, hc]
      exact ⟨hb, hl⟩
    | cycle goes hs _ =>
      have hc : s.cycle (n + 1) = s.cycle n + 1 := by
        rw [cycle, hs, Board.next, Board.commit, Core.cycle_next, cycle]
      rw [hs, hc]
      refine ⟨by rw [Board.after, ← hb], Board.lasts_succ hl ?_⟩
      rw [← hb]
      exact goes.no_trap

/-- A later board is so many cycles on, and none of them has a fault. -/
theorem board_after (s : Setup) {t u n : Nat} (h : s.cycle u = s.cycle t + n) :
    s.board u = (s.board t).after n ∧ (s.board t).Lasts n := by
  obtain ⟨hu, hl⟩ := s.board_eq_after u
  have ht := (s.board_eq_after t).1
  rw [h] at hu hl
  refine ⟨by rw [hu, ht, Board.after_add], fun k hk => ?_⟩
  rw [ht, ← Board.after_add]
  exact hl _ (Nat.add_lt_add_left hk _)

theorem board_of_cycle_eq {s : Setup} {m n : Nat} (h : s.cycle m = s.cycle n) :
    s.board m = s.board n := (s.board_after (n := 0) h).1

theorem board_of_cycle_succ {s : Setup} {m n : Nat} (h : s.cycle n = s.cycle m + 1) :
    s.board n = (s.board m).next ∧ (s.board m).core.trap = none := by
  obtain ⟨hb, hl⟩ := s.board_after h
  exact ⟨hb, hl 0 Nat.one_pos⟩

theorem cycle_succ (s : Setup) (n : Nat) :
    s.cycle (n + 1) = s.cycle n ∨ s.cycle (n + 1) = s.cycle n + 1 := by
  cases s.turn n with
  | stay hb _ =>
    left
    rw [cycle, hb, cycle]
  | cycle _ hb _ =>
    right
    rw [cycle, hb]
    exact Core.cycle_next ..

theorem cycle_mono (s : Setup) {m n : Nat} (h : m ≤ n) : s.cycle m ≤ s.cycle n := by
  induction n with
  | zero => exact Nat.le_of_eq (congrArg s.cycle (Nat.le_zero.mp h))
  | succ n ih =>
    rcases Nat.le_succ_iff.mp h with h | rfl
    · have := ih h
      have := s.cycle_succ n
      omega
    · exact Nat.le_refl _

theorem cycle_le (s : Setup) (n : Nat) : s.cycle n ≤ n := by
  induction n with
  | zero => exact Nat.le_refl _
  | succ n ih =>
    have := s.cycle_succ n
    omega

theorem exists_tick (s : Setup) {c n : Nat} (h : c ≤ s.cycle n) : ∃ u ≤ n, s.cycle u = c := by
  induction n with
  | zero => exact ⟨0, Nat.le_refl _, (Nat.le_zero.mp h).symm⟩
  | succ n ih =>
    by_cases hn : c ≤ s.cycle n
    · obtain ⟨u, hu, hc⟩ := ih hn
      exact ⟨u, Nat.le_succ_of_le hu, hc⟩
    · have := s.cycle_succ n
      exact ⟨n + 1, Nat.le_refl _, by omega⟩

theorem machine_of_halted {s : Setup} {m n : Nat} (h : m ≤ n)
    (halted : (s.machine m).halted = true) : s.machine n = s.machine m :=
  Machine.after_of_halted h halted

theorem halted_mono {s : Setup} {m n : Nat} (h : m ≤ n) (halted : (s.machine m).halted = true) :
    (s.machine n).halted = true := by
  rw [machine_of_halted h halted]
  exact halted

theorem running_mono {s : Setup} {m n : Nat} (h : m ≤ n)
    (running : (s.machine n).halted = false) : (s.machine m).halted = false := by
  rw [Bool.eq_false_iff]
  intro halted
  cases (halted_mono h halted).symm.trans running

theorem cycle_of_retired {s : Setup} {n : Nat} {x : Retired} (h : s.retired n = some x) :
    s.Goes n ∧ s.board (n + 1) = (s.board n).next ∧ s.report n = (s.board n).report := by
  cases s.turn n with
  | stay _ hr =>
    rw [retired, hr] at h
    cases h
  | cycle goes hb hr =>
    rcases hr with hr | ⟨hr, _⟩
    · exact ⟨goes, hb, hr⟩
    · rw [retired, hr] at h
      cases h

/-! ### Runs whose traces work -/

section Traced

variable {s : Setup} {n : Nat}

theorem Traced.mono {k : Nat} (traced : s.Traced n) (h : k ≤ n) : s.Traced k :=
  fun j hj => traced j (Nat.lt_of_lt_of_le hj h)

/-- A tick that goes is a cycle, and succeeds with the report of the cycle. -/
theorem tick_of_goes (traced : s.Traced (n + 1)) (goes : s.Goes n) :
    (s.machine n).commits = true ∧ (s.machine n).tick.2 = .ok (s.board n).report := by
  have unbroken := traced n (Nat.lt_succ_self n)
  have commits := Machine.commits_of_unbroken goes.running goes.no_trap unbroken
  rcases Machine.outcome_of_commits commits with ok | ⟨_, broken⟩
  · exact ⟨commits, ok⟩
  · cases unbroken.symm.trans broken

theorem turn_of_goes (traced : s.Traced (n + 1)) (goes : s.Goes n) :
    s.board (n + 1) = (s.board n).next ∧ s.report n = (s.board n).report ∧
      (s.machine (n + 1)).halted = (s.board n).report.halts := by
  obtain ⟨commits, ok⟩ := tick_of_goes traced goes
  obtain ⟨board, _, halted⟩ := Machine.tick_of_commits commits
  exact ⟨board, congrArg Machine.told ok, halted⟩

theorem turn_of_not_goes (stuck : ¬ s.Goes n) :
    s.board (n + 1) = s.board n ∧ s.report n = .quiet ∧ ¬ s.Goes (n + 1) := by
  have commits : (s.machine n).commits = false := by
    rw [Bool.eq_false_iff]
    intro commits
    obtain ⟨running, trap, _⟩ := Machine.commits_iff.mp commits
    exact stuck ⟨running, trap⟩
  obtain ⟨board, _, halted, told⟩ := Machine.tick_of_not_commits (s.idle_board n) commits
  have same : s.board (n + 1) = s.board n := board
  exact ⟨same, told, fun goes => stuck ⟨halted.symm.trans goes.running, same ▸ goes.no_trap⟩⟩

/-- Every one of the first `n` ticks finds a machine that runs, and no fault. -/
def Reaches (s : Setup) (n : Nat) : Prop := ∀ k < n, s.Goes k

theorem reaches_zero : s.Reaches 0 := fun k hk => absurd hk (Nat.not_lt_zero k)

theorem reaches_succ (h : s.Reaches n) (goes : s.Goes n) : s.Reaches (n + 1) := by
  intro k hk
  rcases Nat.lt_succ_iff_lt_or_eq.mp hk with hk | rfl
  · exact h k hk
  · exact goes

theorem Reaches.mono {k : Nat} (h : s.Reaches n) (hk : k ≤ n) : s.Reaches k :=
  fun j hj => h j (Nat.lt_of_lt_of_le hj hk)

theorem reaches_of_goes (traced : s.Traced n) (goes : s.Goes n) : s.Reaches n := by
  induction n with
  | zero => exact reaches_zero
  | succ n ih =>
    by_cases hg : s.Goes n
    · exact reaches_succ (ih (traced.mono (Nat.le_succ n)) hg) hg
    · exact absurd goes (turn_of_not_goes hg).2.2

theorem cycle_of_reaches (traced : s.Traced n) (h : s.Reaches n) : s.cycle n = n := by
  induction n with
  | zero => rfl
  | succ n ih =>
    have hc := ih (traced.mono (Nat.le_succ n)) (h.mono (Nat.le_succ n))
    rw [cycle, (turn_of_goes traced (h n (Nat.lt_succ_self n))).1, Board.next, Board.commit,
      Core.cycle_next]
    exact congrArg (· + 1) hc

theorem cycle_of_goes (traced : s.Traced n) (goes : s.Goes n) : s.cycle n = n :=
  cycle_of_reaches traced (reaches_of_goes traced goes)

/-- The ticks that are cycles come first. -/
theorem reaches_cycle (traced : s.Traced n) : s.Reaches (s.cycle n) := by
  induction n with
  | zero => exact reaches_zero
  | succ n ih =>
    have h := ih (traced.mono (Nat.le_succ n))
    by_cases goes : s.Goes n
    · -- The tick goes, so every one before it was a cycle too.
      have hc := cycle_of_goes (traced.mono (Nat.le_succ n)) goes
      rw [hc] at h
      apply (reaches_succ h goes).mono
      have := s.cycle_succ n
      omega
    · obtain ⟨hb, _⟩ := turn_of_not_goes goes
      rw [cycle, hb]
      exact h

end Traced

end Setup

end SixStage
