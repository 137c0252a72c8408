-- How long a copy takes. Each phase knows how many cycles are left if nothing
-- gets in the way. A cycle takes one off that number, or it stalls and takes
-- nothing off. So the cycles of a copy are those that its length asks for, and
-- one more for each stall.
import SixStage.Proofs.PortSchedule
import Mathlib.Data.Nat.Find

namespace SixStage.Dma

/-! ## One cycle -/

/-- The phases that wait for the port. In the other two the engine does not use it. -/
def Phase.needsPort : Phase → Bool
  | .readFirst | .doRead | .doWrite | .writeStalled | .writeLast => true
  | .idle | .single => false

namespace Block

variable {b : Block} {out : Word} {conflict : Bool}

/-- The cycles of a copy of `count` words that never stalls. -/
def duration (count : Nat) : Nat :=
  if count = 0 then 1 else if count = 1 then 4 else 2 * count + 1

/-- The cycles that are left to the copy, those that will stall not counted. -/
def left (b : Block) : Nat :=
  match b.phase with
  | .idle => if b.busy then duration b.remaining else 0
  | .readFirst => duration b.remaining - 1
  | .doRead => 2 * b.remaining - 1
  | .doWrite | .writeStalled => 2 * b.remaining - 2
  | .writeLast => 1
  | .single => 2

theorem stalled_step (b : Block) (out : Word) (conflict : Bool) :
    (b.step out conflict b).2.stalled = (conflict && b.phase.needsPort) := by
  unfold step Phase.needsPort
  cases b.phase with
  | idle =>
    simp only [Bool.and_false]
    split
    · split <;> rfl
    · rfl
  | single => simp [Activity.quiet]
  | _ => cases conflict <;> rfl

theorem left_afterWrite {b' : Block} (two : 2 ≤ b.remaining)
    (remaining : b'.remaining = b.remaining - 1) (phase : b'.phase = b.afterWrite) :
    b'.left + 1 = 2 * b.remaining - 2 := by
  unfold afterWrite at phase
  split at phase
  · next h2 =>
    simp only [left, phase]
    omega
  · next h2 =>
    simp only [left, phase, remaining]
    omega

/-- A cycle of a busy engine takes one off what is left, unless it stalls. -/
theorem left_step (h : b.Sound) (busy : b.busy = true) (out : Word) (conflict : Bool) :
    (b.step out conflict b).1.left + 1 =
      b.left + (b.step out conflict b).2.stalled.toNat := by
  obtain ⟨busy', src, dst, remaining, reg, shadow, pending, phase⟩ := b
  simp only at busy
  subst busy
  cases phase with
  | idle =>
    simp only [step, if_true]
    split
    · next h0 => simp [left, duration, h0, Activity.quiet]
    · next h0 =>
      have hd : 1 ≤ duration remaining := by
        unfold duration
        repeat' split
        all_goals omega
      simp only [left, if_true, Activity.quiet, Bool.toNat_false]
      omega
  | readFirst =>
    have hr : 1 ≤ remaining := h.2
    cases conflict
    · by_cases h1 : remaining = 1
      · simp [step, left, issueRead, duration, h1, Activity.reading]
      · have h0 : remaining ≠ 0 := by omega
        simp only [step, left, issueRead, duration, h0, h1, Activity.reading, if_false,
          Bool.false_eq_true, Bool.toNat_false]
        omega
    · simp [step, left, Activity.stall]
  | doRead =>
    have hr : 2 ≤ remaining := h.2
    cases conflict
    · simp only [step, left, issueRead, capture, Activity.reading, if_false, Bool.false_eq_true,
        Bool.toNat_false]
      omega
    · simp [step, left, capture, Activity.stall]
  | doWrite =>
    cases conflict
    · exact left_afterWrite h.2.1 rfl rfl
    · simp [step, left, Activity.stall]
  | writeStalled =>
    cases conflict
    · exact left_afterWrite h.2.1 rfl rfl
    · simp [step, left, Activity.stall]
  | writeLast => cases conflict <;> simp [step, left, Activity.stall, Activity.writing]
  | single => cases conflict <;> rfl

theorem left_of_free (h : b.Sound) (free : b.busy = false) : b.left = 0 := by
  have rests := (step_of_free h free 0 false b).1
  simp [left, rests, free]

theorem left_launch {b : Block} (free : b.busy = false) (rests : b.phase = .idle)
    (src dst len : Word) : (b.launch src dst len b).left = duration len.toInt.toNat := by
  rw [launch_of_free free rests]
  rfl

end Block

/-! ## Whole copies -/

namespace Bench

variable {t : Bench} {schedule : Nat → Option Access} {n d : Nat}

def stalls (t : Bench) (schedule : Nat → Option Access) (n : Nat) : Nat :=
  (List.range n).countP fun k => (t.activity schedule k).stalled

/-- The engine is busy for `d` cycles, and then it is not. -/
structure BusyFor (t : Bench) (schedule : Nat → Option Access) (d : Nat) : Prop where
  busy : ∀ k < d, (t.after schedule k).block.busy = true
  free : (t.after schedule d).block.busy = false

theorem sound_after (sound : t.block.Sound) (n : Nat) : (t.after schedule n).block.Sound := by
  induction n with
  | zero => exact sound
  | succ n ih => exact Block.sound_step ih _ _

/-- Cycles and what is left make up the copy and its stalls, as long as the engine is
busy. -/
theorem left_after (sound : t.block.Sound)
    (busy : ∀ k < n, (t.after schedule k).block.busy = true) :
    (t.after schedule n).block.left + n = t.block.left + t.stalls schedule n := by
  induction n with
  | zero => rfl
  | succ n ih =>
    have ih := ih fun k hk => busy k (Nat.lt_succ_of_lt hk)
    -- A cycle takes one off what is left, or stalls and is counted.
    have hs : (t.after schedule (n + 1)).block.left + 1 =
        (t.after schedule n).block.left + (t.activity schedule n).stalled.toNat :=
      Block.left_step (sound_after sound n) (busy n (Nat.lt_succ_self n)) _ _
    have hc : t.stalls schedule (n + 1) =
        t.stalls schedule n + (t.activity schedule n).stalled.toNat := by
      unfold stalls
      rw [List.range_succ, countP_snoc]
    omega

theorem length_of_busyFor (sound : t.block.Sound) (h : t.BusyFor schedule d) :
    d = t.block.left + t.stalls schedule d := by
  have hl := left_after sound h.busy
  rw [Block.left_of_free (sound_after sound d) h.free] at hl
  omega

theorem free_after (sound : t.block.Sound) (free : (t.after schedule n).block.busy = false)
    (k : Nat) : (t.after schedule (n + k)).block.busy = false := by
  induction k with
  | zero => exact free
  | succ k ih =>
    have hs := (Block.step_of_free (sound_after sound (n + k)) ih
      (t.after schedule (n + k)).memory.out (schedule (n + k)).isSome
      (t.after schedule (n + k)).block).2
    rw [← Nat.add_assoc, after, next, turn, hs]
    exact ih

/-- The end is told in the last cycle that is busy, and in no other. -/
theorem finished_iff (sound : t.block.Sound) (h : t.BusyFor schedule d) (k : Nat) :
    (t.activity schedule k).finished = true ↔ k + 1 = d := by
  have hs : (t.after schedule (k + 1)).block.busy.toNat +
      (t.activity schedule k).finished.toNat = (t.after schedule k).block.busy.toNat :=
    Block.busy_step (sound_after sound k) _ _
  rcases Nat.lt_or_ge k d with hk | hk
  · rw [h.busy k hk] at hs
    rcases Nat.lt_or_ge (k + 1) d with hk' | hk'
    · rw [h.busy _ hk'] at hs
      have hf : (t.activity schedule k).finished = false := by
        simpa using hs
      simp only [hf, Bool.false_eq_true, false_iff]
      omega
    · obtain rfl : d = k + 1 := by omega
      rw [h.free] at hs
      simpa using hs
  · obtain ⟨j, rfl⟩ := Nat.exists_eq_add_of_le hk
    rw [free_after sound h.free j] at hs
    have hf : (t.activity schedule (d + j)).finished = false := by
      rcases hf : (t.activity schedule (d + j)).finished with _ | _
      · rfl
      · rw [hf] at hs
        simp at hs
    simp only [hf, Bool.false_eq_true, false_iff]
    omega

theorem exists_busyFor (sound : t.block.Sound) (calm : ∀ k, n ≤ k → schedule k = none) :
    ∃ d, t.BusyFor schedule d := by
  have hgo : (t.after schedule (n + t.block.toGo)).block.toGo ≤ _ :=
    toGo_after (sound_after sound) _
  -- Behind the last conflict there are as many free cycles as the engine needs at most.
  have hc : t.block.toGo ≤
      (List.range (n + t.block.toGo)).countP fun k => (schedule k).isNone := by
    have ht : (List.range t.block.toGo).countP (fun k => (schedule (n + k)).isNone) =
        t.block.toGo := by
      rw [List.countP_eq_length.mpr, List.length_range]
      intro k _
      rw [calm _ (Nat.le_add_right n k)]
      rfl
    rw [List.range_add, List.countP_append, List.countP_map]
    exact Nat.le_trans (Nat.le_of_eq ht.symm) (Nat.le_add_left _ _)
  have ends : ∃ k, (t.after schedule k).block.busy = false :=
    ⟨n + t.block.toGo, Block.free_of_toGo (sound_after sound _) (by omega)⟩
  refine ⟨Nat.find ends, fun k hk => ?_, Nat.find_spec ends⟩
  simpa using Nat.find_min ends hk

end Bench

/-- A copy takes as many cycles as its length asks for, and one more for each cycle that
stalls: one cycle if there is nothing to copy, 4 for one word, and twice the length and
one more for a longer copy. A cycle stalls exactly if the pipeline has the port and the phase
needs it. The end is told once, in the last cycle that is busy; it comes if the conflicts
come to an end. -/
theorem copy_takes_its_length_and_its_stalls (b : Block) (t : Bench) (src dst len : Word)
    (free : b.busy = false) (rests : b.phase = .idle) (launched : t.block = b.launch src dst len b)
    (schedule : Nat → Option Access) :
    (∀ d, t.BusyFor schedule d →
      (len.toInt ≤ 0 → d = 1) ∧
      (len.toInt = 1 → d = 4 + t.stalls schedule d) ∧
      (2 ≤ len.toInt → (d : Int) = 2 * len.toInt + 1 + t.stalls schedule d) ∧
      ∀ k, (t.activity schedule k).finished = true ↔ k + 1 = d) ∧
    (∀ k, (t.activity schedule k).stalled = true ↔
      (schedule k).isSome = true ∧ (t.after schedule k).block.phase ∈
        [Phase.readFirst, .doRead, .doWrite, .writeStalled, .writeLast]) ∧
    ∀ n, (∀ k, n ≤ k → schedule k = none) → ∃ d, t.BusyFor schedule d := by
  have sound : t.block.Sound := launched ▸ (progress_launch free rests src dst len 0).sound
  have hleft : t.block.left = Block.duration len.toInt.toNat := by
    rw [launched]
    exact Block.left_launch free rests src dst len
  refine ⟨fun d h => ?_, fun k => ?_, fun n calm => Bench.exists_busyFor sound calm⟩
  · have hd := Bench.length_of_busyFor sound h
    rw [hleft, Block.duration] at hd
    refine ⟨fun h0 => ?_, fun h1 => ?_, fun h2 => ?_, Bench.finished_iff sound h⟩
    · -- The engine finds nothing to copy in its first cycle.
      have hc : len.toInt.toNat = 0 := by omega
      have h1 : (t.after schedule 1).block.busy = false := by
        change (t.block.step _ _ t.block).1.busy = false
        rw [launched, Block.launch_of_free free rests]
        simp [Block.step, hc]
      rcases Nat.lt_or_ge 1 d with h2 | h2
      · cases (h.busy 1 h2).symm.trans h1
      · rw [hc, if_pos rfl] at hd
        omega
    · rw [h1] at hd
      exact hd
    · have hne : len.toInt.toNat ≠ 0 ∧ len.toInt.toNat ≠ 1 := by omega
      rw [if_neg hne.1, if_neg hne.2] at hd
      omega
  · have hs : (t.activity schedule k).stalled = _ := Block.stalled_step _ _ _
    rw [hs, Bool.and_eq_true]
    refine and_congr_right fun _ => ?_
    cases (t.after schedule k).block.phase <;> simp [Phase.needsPort]

/-- Three words, while the pipeline reads in cycles 2 and 4. The first read finds the engine about
to read, and the second one about to write. -/
theorem copy_of_three_with_two_stalls_takes_nine :
    let schedule : Nat → Option Access := fun k => if k = 2 ∨ k = 4 then some (.read 3) else none
    let t : Bench := ⟨Block.reset.launch 0 1 3 .reset, ⟨#[5, 6, 7, 8], by decide, none, none, 0⟩⟩
    t.BusyFor schedule 9 ∧ t.stalls schedule 9 = 2 ∧
      (t.after schedule 2).block.phase = .doRead ∧ (t.activity schedule 2).stalled = true ∧
      (t.after schedule 4).block.phase = .doWrite ∧ (t.activity schedule 4).stalled = true ∧
      ∀ k, (t.activity schedule k).finished = true ↔ k + 1 = 9 := by
  intro schedule t
  obtain ⟨takes, stalls, ends⟩ :=
    copy_takes_its_length_and_its_stalls .reset t 0 1 3 rfl rfl rfl schedule
  have nine : t.BusyFor schedule 9 := ⟨by decide +kernel, by decide +kernel⟩
  obtain ⟨_, _, long, finished⟩ := takes 9 nine
  have two : t.stalls schedule 9 = 2 := by
    have := long (by decide)
    have : (3 : Word).toInt = 3 := by decide
    omega
  have reads : (t.after schedule 2).block.phase = .doRead := by decide +kernel
  have writes : (t.after schedule 4).block.phase = .doWrite := by decide +kernel
  exact ⟨nine, two, reads, (stalls 2).mpr ⟨rfl, by simp [reads]⟩, writes,
    (stalls 4).mpr ⟨rfl, by simp [writes]⟩, finished⟩

end SixStage.Dma
