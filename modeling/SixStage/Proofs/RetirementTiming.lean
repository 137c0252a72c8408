-- When instructions retire. The distance is the number of cycles before
-- something comes to Exec1; a cycle without an instruction there takes one off
-- it, and one with an instruction there sets it to what that instruction costs.
-- So cycles and distance together count what has retired, and what it cost.
import SixStage.Proofs.PipelineStep
import SixStage.Proofs.Run

namespace SixStage

/-! ## The bubbles -/

namespace Latches

/-- The cycles before something comes to Exec1. -/
def distance (l : Latches) : Nat :=
  if l.exec1.isSome then 0
  else if l.exec0.isSome then 1
  else if l.dec1.isSome then 2
  else if l.dec0.isSome then 3
  else if l.fetch1.isSome then 4
  else 5

/-- Every record has its follower right behind it, or two bubbles before it if
what was fetched behind the record was squashed. -/
structure Spaced (l : Latches) : Prop where
  exec1 : ∀ e, l.exec1 = some e →
    if e.squashes then l.exec0 = none ∧ l.dec1 = none ∧ l.dec0.isSome else l.exec0.isSome
  exec0 : ∀ e, l.exec0 = some e →
    if e.squashes then l.dec1 = none ∧ l.dec0 = none ∧ l.fetch1.isSome else l.dec1.isSome
  dec1 : ∀ d, l.dec1 = some d →
    if d.squashes then l.dec0 = none ∧ l.fetch1 = none else l.dec0.isSome
  dec0 : ∀ d, l.dec0 = some d → l.fetch1.isSome

theorem distance_eq_zero_iff (l : Latches) : l.distance = 0 ↔ l.exec1.isSome := by
  unfold distance
  repeat' split
  all_goals simp_all

theorem distance_le (l : Latches) : l.distance ≤ 5 := by
  unfold distance
  repeat' split
  all_goals omega

end Latches

namespace Core

variable {c : Core} {fetched loaded : Word}

theorem spaced_next (trap : c.trap = none) (h : c.latches.Spaced) :
    (c.next fetched loaded).latches.Spaced := by
  have hc := cycled fetched loaded trap
  generalize (c.next fetched loaded).latches = l at hc
  cases hc with
  | flush pc redirect => constructor <;> simp
  | hold redirect stall =>
    refine ⟨by simp [hold], ?_, h.dec1, h.dec0⟩
    intro e he
    simp only [hold, Option.map_eq_some_iff] at he
    obtain ⟨e0, he0, rfl⟩ := he
    exact h.exec0 e0 he0
  | squash d redirect stall squasher =>
    obtain ⟨hd, hq⟩ := squashes_of_squasher stall squasher
    refine ⟨?_, ?_, ?_, by simp [Latches.squash]⟩
    · intro e he
      obtain ⟨e0, he0, rfl⟩ := Option.map_eq_some_iff.mp he
      have h0 : if e0.squashes then _ else _ := h.exec0 e0 he0
      simpa [Latches.squash, advance, hd, execute] using h0
    · intro e he
      obtain ⟨d1, hd1, rfl⟩ := Option.map_eq_some_iff.mp he
      have h1 := h.dec1 d1 hd1
      simpa [Latches.squash, advance, hd, readOperands] using h1
    · intro d' hd'
      simp only [Latches.squash, advance, hd, Option.map_some, Option.some.injEq] at hd'
      subst hd'
      simp [Latches.squash, hq]
  | advance redirect stall squasher =>
    refine ⟨?_, ?_, ?_, by simp [advance]⟩
    · intro e he
      obtain ⟨e0, he0, rfl⟩ := Option.map_eq_some_iff.mp he
      simpa [advance, execute] using h.exec0 e0 he0
    · intro e he
      obtain ⟨d1, hd1, rfl⟩ := Option.map_eq_some_iff.mp he
      simpa [advance, readOperands] using h.dec1 d1 hd1
    · intro d' hd'
      obtain ⟨d, hd, rfl⟩ := Option.map_eq_some_iff.mp hd'
      simpa [advance, not_squashes_of_squasher stall squasher hd] using h.dec0 d hd

theorem distance_next_of_exec1_none (h : c.latches.exec1 = none) :
    (c.next fetched loaded).latches.distance + 1 = c.latches.distance := by
  have trap : c.trap = none := by simp [trap, h]
  have hc := cycled fetched loaded trap
  generalize (c.next fetched loaded).latches = l at hc
  cases hc with
  | flush pc redirect => simp [Core.redirect, h] at redirect
  | hold redirect stall => simp [stall_of_exec1_none h] at stall
  | squash d redirect stall squasher =>
    obtain ⟨hd, _⟩ := squashes_of_squasher stall squasher
    cases h0 : c.latches.exec0 <;> cases h1 : c.latches.dec1 <;>
      simp [Latches.distance, Latches.squash, advance, hd, h, h0, h1]
  | advance redirect stall squasher =>
    cases h0 : c.latches.exec0 <;> cases h1 : c.latches.dec1 <;> cases h2 : c.latches.dec0 <;>
      cases h3 : c.latches.fetch1 <;> simp [Latches.distance, advance, h, h0, h1, h2, h3]

/-- What the instruction in Exec1 costs: one cycle if it makes the next one wait, two if
what was fetched behind it was squashed, and five if it flushes the pipeline. -/
theorem distance_next_of_exec1 {e : Exec1} (fetched loaded : Word) (trap : c.trap = none)
    (h : c.latches.Spaced) (he : c.latches.exec1 = some e) :
    (c.next fetched loaded).latches.distance =
      c.stall.toNat + 2 * e.squashes.toNat + 5 * c.redirect.isSome.toNat := by
  have hc := cycled fetched loaded trap
  generalize (c.next fetched loaded).latches = l at hc
  have h1 := h.exec1 e he
  cases hc with
  | flush pc redirect =>
    -- What flushes is a branch: it holds nothing up, and nothing is squashed behind it.
    have hs : c.stall = false := by
      by_cases hs : c.stall = true
      · rw [redirect_of_stall hs] at redirect
        cases redirect
      · simpa using hs
    have hq : e.squashes = false := by simp [Dec1.squashes, isBranch_of_redirect redirect he]
    simp [Latches.distance, redirect, hs, hq]
  | hold redirect stall =>
    rcases h0 : c.latches.exec0 with _ | e0
    · rw [stall_of_exec0_none h0] at stall
      cases stall
    rcases hq : e.squashes with _ | _
    · simp [Latches.distance, hold, redirect, stall, h0]
    · simp [hq, h0] at h1
  | squash d redirect stall squasher =>
    rcases hq : e.squashes with _ | _
    · simp only [hq, Bool.false_eq_true, if_false] at h1
      simp [Latches.distance, Latches.squash, advance, redirect, stall, h1]
    · simp only [hq, if_true] at h1
      simp [Latches.distance, Latches.squash, advance, redirect, stall, h1]
  | advance redirect stall squasher =>
    rcases hq : e.squashes with _ | _
    · simp only [hq, Bool.false_eq_true, if_false] at h1
      simp [Latches.distance, advance, redirect, stall, h1]
    · simp only [hq, if_true] at h1
      simp [Latches.distance, advance, redirect, stall, h1]

/-- An instruction has one cost at most. -/
theorem costs_exclude {e : Exec1} (h : c.latches.Spaced) (he : c.latches.exec1 = some e) :
    c.stall.toNat + e.squashes.toNat + c.redirect.isSome.toNat ≤ 1 := by
  have h1 := h.exec1 e he
  rcases hr : c.redirect with _ | pc
  · rcases hs : c.stall with _ | _
    · cases e.squashes <;> simp
    · rcases hq : e.squashes with _ | _
      · simp
      · simp only [hq, if_true] at h1
        simp [stall_of_exec0_none h1.1] at hs
  · have hs : c.stall ≠ true := fun hs => by simp [redirect_of_stall hs] at hr
    simp [Dec1.squashes, isBranch_of_redirect hr he, hs]

end Core

/-! ## Runs -/

namespace Setup

variable {s : Setup} {n : Nat}

def exec1 (s : Setup) (n : Nat) : Option Exec1 := (s.board n).core.latches.exec1

def stalled (s : Setup) (n : Nat) : Bool := (s.report n).signals.stall

/-- What retires in tick `n` is no branch, but was predicted to be a taken one. -/
def misfetched (s : Setup) (n : Nat) : Bool :=
  (s.retired n).any fun x => !x.inst.opcode.isBranch && (s.exec1 n).any fun e => e.expected.taken

def flushed (s : Setup) (n : Nat) : Bool :=
  (s.retired n).any fun x => x.effect.flushes

/-- When the instruction after the one that retires in tick `n` comes to Exec1. -/
def due (s : Setup) (n : Nat) : Nat :=
  n + 1 + (s.stalled n).toNat + 2 * (s.misfetched n).toNat + 5 * (s.flushed n).toNat

theorem spaced_board (s : Setup) (n : Nat) : (s.board n).core.latches.Spaced := by
  apply s.holds_board (P := fun b => b.core.latches.Spaced)
  · constructor <;> exact fun _ h => by cases h
  · exact fun _ goes h => Core.spaced_next goes.no_trap h

theorem costs_of_exec1_none (traced : s.Traced (n + 1)) (goes : s.Goes n)
    (h : s.exec1 n = none) :
    s.retired n = none ∧ s.stalled n = false ∧ s.misfetched n = false ∧ s.flushed n = false := by
  have hr := (turn_of_goes traced goes).2.1
  have hret : s.retired n = none := by
    rw [exec1] at h
    simp [retired, hr, Board.report, Core.report, Core.retired, h]
  refine ⟨hret, ?_, by simp [misfetched, hret], by simp [flushed, hret]⟩
  rw [stalled, hr]
  exact Core.stall_of_exec1_none h

theorem costs_of_exec1 {e : Exec1} (traced : s.Traced (n + 1)) (goes : s.Goes n)
    (h : s.exec1 n = some e) :
    s.retired n = some ((s.board n).core.retire e (s.board n).dmem.out) ∧
      s.stalled n = (s.board n).core.stall ∧ s.misfetched n = e.squashes ∧
      s.flushed n = (s.board n).core.redirect.isSome := by
  have hr := (turn_of_goes traced goes).2.1
  have trap := goes.no_trap
  rw [Core.trap_of_exec1 h] at trap
  have hret : s.retired n = some ((s.board n).core.retire e (s.board n).dmem.out) := by
    rw [exec1] at h
    simp [retired, hr, Board.report, Core.report, Core.retired, h]
  refine ⟨hret, by rw [stalled, hr]; rfl, ?_, ?_⟩
  · simp [misfetched, hret, h, Core.retire, Dec1.squashes, Dec1.isBranch, trap, Bool.and_comm]
  · simp [flushed, hret, Core.retire, Core.flushes_effect trap h]

theorem costs_of_not_goes (stuck : ¬ s.Goes n) :
    s.retired n = none ∧ s.stalled n = false ∧ s.misfetched n = false ∧ s.flushed n = false := by
  have hr := (turn_of_not_goes stuck).2.1
  have hret : s.retired n = none := by rw [retired, hr]; rfl
  exact ⟨hret, by rw [stalled, hr]; rfl, by simp [misfetched, hret], by simp [flushed, hret]⟩

theorem cycle_add_distance_succ (traced : s.Traced (n + 1)) :
    s.cycle (n + 1) + (s.board (n + 1)).core.latches.distance =
      s.cycle n + (s.board n).core.latches.distance + (s.retired n).isSome.toNat +
        (s.stalled n).toNat + 2 * (s.misfetched n).toNat + 5 * (s.flushed n).toNat := by
  by_cases goes : s.Goes n
  · have hb := (turn_of_goes traced goes).1
    have hc : s.cycle (n + 1) = s.cycle n + 1 := by rw [cycle, hb]; exact Core.cycle_next ..
    rcases he : s.exec1 n with _ | e
    · obtain ⟨h1, h2, h3, h4⟩ := costs_of_exec1_none traced goes he
      have hd : (s.board (n + 1)).core.latches.distance + 1 =
          (s.board n).core.latches.distance := by
        rw [hb]
        exact Core.distance_next_of_exec1_none he
      simp only [hc, h1, h2, h3, h4, Option.isSome_none, Bool.toNat_false]
      omega
    · obtain ⟨h1, h2, h3, h4⟩ := costs_of_exec1 traced goes he
      -- The distance was zero, and is now what the instruction costs.
      have h0 : (s.board n).core.latches.distance = 0 := by
        rw [Latches.distance_eq_zero_iff]
        exact Option.isSome_of_eq_some he
      have hd := Core.distance_next_of_exec1 (s.board n).imem.out (s.board n).dmem.out
        goes.no_trap (s.spaced_board n) he
      rw [hb, Board.next, Board.commit, hd, hc, h0, h1, h2, h3, h4]
      simp only [Option.isSome_some, Bool.toNat_true]
      omega
  · obtain ⟨h1, h2, h3, h4⟩ := costs_of_not_goes goes
    have hb := (turn_of_not_goes goes).1
    have hc : s.cycle (n + 1) = s.cycle n := by rw [cycle, hb, cycle]
    simp [hc, hb, h1, h2, h3, h4]

theorem countP_range_succ (p : Nat → Bool) (n : Nat) :
    (List.range (n + 1)).countP p = (List.range n).countP p + (p n).toNat := by
  rw [List.range_succ, countP_snoc]

/-- Cycles and distance together count the instructions and their costs. -/
theorem cycle_add_distance (traced : s.Traced n) :
    s.cycle n + (s.board n).core.latches.distance =
      5 + (List.range n).countP (fun k => (s.retired k).isSome) +
        (List.range n).countP s.stalled + 2 * (List.range n).countP s.misfetched +
        5 * (List.range n).countP s.flushed := by
  induction n with
  | zero => rfl
  | succ n ih =>
    have ih := ih (traced.mono (Nat.le_succ n))
    have hs := cycle_add_distance_succ traced
    simp only [countP_range_succ]
    omega

theorem turn_of_exec1_none (traced : s.Traced (n + 1)) (running : (s.machine n).halted = false)
    (h : s.exec1 n = none) :
    (s.machine (n + 1)).halted = false ∧ s.cycle (n + 1) = s.cycle n + 1 ∧
      (s.board (n + 1)).core.latches.distance + 1 = (s.board n).core.latches.distance := by
  rw [exec1] at h
  have goes : s.Goes n := ⟨running, by simp [Core.trap, h]⟩
  obtain ⟨hb, _, hh⟩ := turn_of_goes traced goes
  refine ⟨?_, ?_, ?_⟩
  · rw [hh]
    simp [Board.report, Core.report, Report.halts, Report.haltPc, Core.retired, h]
  · rw [cycle, hb]
    exact Core.cycle_next ..
  · rw [hb]
    exact Core.distance_next_of_exec1_none h

/-- Until something comes to Exec1, every tick is a cycle and takes one off the
distance. -/
theorem countdown {k j : Nat} (traced : s.Traced (k + j))
    (running : (s.machine k).halted = false) (hj : j ≤ (s.board k).core.latches.distance) :
    (s.machine (k + j)).halted = false ∧ s.cycle (k + j) = s.cycle k + j ∧
      (s.board (k + j)).core.latches.distance + j = (s.board k).core.latches.distance := by
  induction j with
  | zero => exact ⟨running, rfl, rfl⟩
  | succ j ih =>
    obtain ⟨hr, hc, hd⟩ := ih (traced.mono (Nat.le_succ _)) (Nat.le_of_succ_le hj)
    -- The distance has not run out, so nothing is in Exec1.
    have he : s.exec1 (k + j) = none := by
      have : (s.board (k + j)).core.latches.distance ≠ 0 := by omega
      rw [ne_eq, Latches.distance_eq_zero_iff] at this
      simpa [exec1] using this
    obtain ⟨hr', hc', hd'⟩ := turn_of_exec1_none (n := k + j) traced hr he
    refine ⟨hr', ?_, ?_⟩
    · rw [← Nat.add_assoc, hc', hc, Nat.add_assoc]
    · change (s.board (k + j + 1)).core.latches.distance + (j + 1) = _
      omega

theorem isSome_exec1_iff {k j : Nat} (traced : s.Traced (k + j))
    (running : (s.machine k).halted = false) (hj : j ≤ (s.board k).core.latches.distance) :
    s.cycle (k + j) = s.cycle k + j ∧
      ((s.exec1 (k + j)).isSome ↔ j = (s.board k).core.latches.distance) := by
  obtain ⟨_, hc, hd⟩ := countdown traced running hj
  refine ⟨hc, ?_⟩
  rw [exec1, ← Latches.distance_eq_zero_iff]
  omega

/-! ## The law -/

theorem distance_of_retired {x : Retired} (traced : s.Traced (n + 1))
    (h : s.retired n = some x) :
    (s.board (n + 1)).core.latches.distance =
        (s.stalled n).toNat + 2 * (s.misfetched n).toNat + 5 * (s.flushed n).toNat ∧
      (s.stalled n).toNat + (s.misfetched n).toNat + (s.flushed n).toNat ≤ 1 := by
  have goes := (cycle_of_retired h).1
  rcases he : s.exec1 n with _ | e
  · rw [(costs_of_exec1_none traced goes he).1] at h
    cases h
  · obtain ⟨_, h2, h3, h4⟩ := costs_of_exec1 traced goes he
    rw [h2, h3, h4, (turn_of_goes traced goes).1]
    exact ⟨Core.distance_next_of_exec1 _ _ goes.no_trap (s.spaced_board n) he,
      Core.costs_exclude (s.spaced_board n) he⟩

theorem running_of_retired {x : Retired} (traced : s.Traced (n + 1))
    (h : s.retired n = some x) (hx : x.inst.opcode ≠ .hlt) :
    (s.machine (n + 1)).halted = false := by
  obtain ⟨_, hr, hh⟩ := turn_of_goes traced (cycle_of_retired h).1
  rw [retired, hr, Board.report, Core.report, Core.retired, Option.map_eq_some_iff] at h
  obtain ⟨e, he, rfl⟩ := h
  rw [hh]
  have hne : (s.board n).core.effect e (s.board n).dmem.out ≠ .halt :=
    fun h => hx (Core.opcode_of_halt h)
  simp [Board.report, Core.report, Report.halts, Report.haltPc, Core.retired, he, Core.retire, hne]

theorem isSome_exec1_iff_due {x : Retired} {j : Nat} (traced : s.Traced j)
    (h : s.retired n = some x) (hx : x.inst.opcode ≠ .hlt) (hnj : n < j) (hj : j ≤ s.due n) :
    s.cycle j = j ∧ ((s.exec1 j).isSome ↔ j = s.due n) := by
  have traced' := traced.mono hnj
  have hd := (distance_of_retired traced' h).1
  have goes := (cycle_of_retired h).1
  have hc : s.cycle (n + 1) = n + 1 := by
    rw [cycle, (cycle_of_retired h).2.1]
    exact (Core.cycle_next ..).trans
      (congrArg (· + 1) (cycle_of_goes (traced'.mono (Nat.le_succ n)) goes))
  unfold due at hj ⊢
  obtain ⟨i, rfl⟩ : ∃ i, j = n + 1 + i := ⟨j - (n + 1), by omega⟩
  obtain ⟨hci, he⟩ := isSome_exec1_iff traced (running_of_retired traced' h hx)
    (show i ≤ (s.board (n + 1)).core.latches.distance by omega)
  refine ⟨by rw [hci, hc], he.trans ?_⟩
  omega

/-- The first instruction comes to Exec1 in cycle 5. Behind one that retires, the next
comes one cycle later, and as many more as it costs: one for a stall, two for a wrong
fetch, five for a flush, and only one of them. So Exec1 is never empty for more than five
cycles, and the cycle of an instruction counts those before it and their costs. -/
theorem retirement_is_timed_exactly (s : Setup) (n : Nat) (traced : s.Traced n) :
    (∀ k ≤ n, k ≤ 5 → s.cycle k = k ∧ ((s.exec1 k).isSome ↔ k = 5)) ∧
    (∀ k < n, ∀ x, s.retired k = some x → x.inst.opcode ≠ .hlt →
      s.cycle k = k ∧
      (s.stalled k).toNat + (s.misfetched k).toNat + (s.flushed k).toNat ≤ 1 ∧
      ∀ j ≤ n, k < j → j ≤ s.due k → s.cycle j = j ∧ ((s.exec1 j).isSome ↔ j = s.due k)) ∧
    (∀ k, k + 5 ≤ n → (s.machine k).halted = false → ∃ j ≤ 5, (s.exec1 (k + j)).isSome) ∧
    (∀ k ≤ n, (s.exec1 k).isSome →
      s.cycle k = 5 + (List.range k).countP (fun i => (s.retired i).isSome) +
        (List.range k).countP s.stalled + 2 * (List.range k).countP s.misfetched +
        5 * (List.range k).countP s.flushed) := by
  refine ⟨?_, ?_, ?_, ?_⟩
  · intro k hk h5
    obtain ⟨hc, he⟩ := isSome_exec1_iff (s := s) (k := 0) (j := k)
      (traced.mono (by omega)) rfl h5
    rw [Nat.zero_add] at hc he
    exact ⟨by rw [hc]; exact Nat.zero_add k, he⟩
  · intro k hk x hx hh
    have traced' := traced.mono hk
    refine ⟨cycle_of_goes (traced'.mono (Nat.le_succ k)) (cycle_of_retired hx).1,
      (distance_of_retired traced' hx).2, ?_⟩
    exact fun j hj hkj hdue => isSome_exec1_iff_due (traced.mono hj) hx hh hkj hdue
  · intro k hk running
    have hd := (s.board k).core.latches.distance_le
    refine ⟨_, hd, ?_⟩
    exact (isSome_exec1_iff (traced.mono (by omega)) running (Nat.le_refl _)).2.mpr rfl
  · intro k hk he
    have h := cycle_add_distance (traced.mono hk)
    rw [(Latches.distance_eq_zero_iff _).mpr he] at h
    exact h

/-- A load, the use of its word, a store, a taken JIN and a DMP behind it: the use waits for
a cycle, the JIN flushes, and the entry it leaves in the predictor misleads the DMP. -/
theorem small_run_is_timed_exactly :
    let s := small [0x10810007, 0x00d10001, 0x12190002, 0x28080005, 0x30000000, 0x17000000,
      0x30000000]
    s.Traced 20 ∧ (s.stalled 5 ∧ (s.exec1 7).isSome) ∧ (s.flushed 9 ∧ (s.exec1 15).isSome) ∧
      (s.misfetched 15 ∧ (s.exec1 18).isSome) ∧ s.cycle 18 = 18 := by
  intro s
  have traced : s.Traced 20 := by decide +kernel
  obtain ⟨_, law, _, _⟩ := retirement_is_timed_exactly s 20 traced
  have next : ∀ k < 20, (s.retired k).any (fun x => x.inst.opcode ≠ .hlt) = true →
      k < s.due k → s.due k ≤ 20 → s.cycle (s.due k) = s.due k ∧ (s.exec1 (s.due k)).isSome := by
    intro k hk hx hd h20
    obtain ⟨x, hx, hne⟩ := (Option.any_eq_true ..).mp hx
    obtain ⟨_, _, hj⟩ := law k hk x hx (by simpa using hne)
    obtain ⟨hc, he⟩ := hj (s.due k) h20 hd (Nat.le_refl _)
    exact ⟨hc, he.mpr rfl⟩
  have h5 := next 5 (by decide) (by decide +kernel) (by decide +kernel) (by decide +kernel)
  have h9 := next 9 (by decide) (by decide +kernel) (by decide +kernel) (by decide +kernel)
  have h15 := next 15 (by decide) (by decide +kernel) (by decide +kernel) (by decide +kernel)
  rw [show s.due 5 = 7 by decide +kernel] at h5
  rw [show s.due 9 = 15 by decide +kernel] at h9
  rw [show s.due 15 = 18 by decide +kernel] at h15
  exact ⟨traced, ⟨by decide +kernel, h5.2⟩, ⟨by decide +kernel, h9.2⟩, ⟨by decide +kernel, h15.2⟩,
    h15.1⟩

end Setup

end SixStage
