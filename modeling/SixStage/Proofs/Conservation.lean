-- What the counts of a run add up to. The counts are fed from the reports of
-- its cycles alone, yet they balance with what the machine holds: what the copy
-- engine was asked to write is what it has written and what it has left, and
-- every copy that was started has ended, except for one that still runs.
import SixStage.Proofs.Course

namespace SixStage

/-! ## Counts of reports -/

namespace Retired

/-- The words that a request asks for, if it is taken. -/
def ordered (x : Retired) : Nat := if x.effect = .dma true then x.b.toInt.toNat else 0

end Retired

namespace Report

/-- A request retires that the engine takes. -/
def launches (r : Report) : Bool := r.retired.any fun x => x.effect = .dma true

def ordered (r : Report) : Nat := r.retired.elim 0 Retired.ordered

def orderedIn (h : List Report) : Nat := h.foldl (fun n r => n + r.ordered) 0

theorem orderedIn_snoc (h : List Report) (r : Report) :
    orderedIn (h ++ [r]) = orderedIn h + r.ordered := List.foldl_append ..

end Report

namespace Statistics

/-- The counts are those of some cycles, given by their reports. -/
structure Tallies (t : Statistics) (h : List Report) : Prop where
  cycles : t.cycles = h.length
  retired : t.retired = t.alu + t.load + t.store + t.branch + t.dma + t.halt
  branch : t.branch = t.predictions + t.mispredictions
  dma : t.dma = t.dmaTransfers + t.dmaDropped
  stalls : t.stallsStructural + t.stallsLoadUse =
    h.countP fun r => r.signals.structural || r.signals.loadUse
  transfers : t.dmaTransfers = h.countP Report.launches
  words : t.dmaWords = h.countP fun r => r.dma.write.isSome
  halt : t.halt = h.countP Report.halts

theorem tallies_zero : zero.Tallies [] := ⟨rfl, rfl, rfl, rfl, rfl, rfl, rfl, rfl⟩

theorem stalls_count (structural loadUse : Bool) :
    structural.toNat + (loadUse && !structural).toNat = (structural || loadUse).toNat := by
  cases structural <;> cases loadUse <;> rfl

theorem tallies_record {t : Statistics} {h : List Report} (ht : t.Tallies h) (r : Report) :
    (t.record r).Tallies (h ++ [r]) := by
  obtain ⟨cycles, retired, branch, dma, stalls, transfers, words, halt⟩ := ht
  have hs := stalls_count r.signals.structural r.signals.loadUse
  -- What retires is counted under its effect, and the rest of the cycle as ever.
  rcases hr : r.retired with _ | x
  · have hl : r.launches = false := by simp [Report.launches, hr]
    have hh : r.halts = false := by simp [Report.halts, Report.haltPc, hr]
    constructor
    all_goals simp only [record, hr, one_eq_toNat, countP_snoc, List.length_append,
      List.length_singleton, hl, hh, Bool.toNat_false]
    all_goals omega
  · have hl : r.launches = decide (x.effect = .dma true) := by simp [Report.launches, hr]
    have hh : r.halts = decide (x.effect = .halt) := by
      simp only [Report.halts, Report.haltPc, hr]
      split <;> simp [*]
    rcases hx : x.effect with _ | _ | _ | (_ | _) | ⟨_, _ | _⟩ | _
    all_goals
      simp only [hx, Effect.dma.injEq, reduceCtorEq, decide_false, decide_true,
        Bool.false_eq_true] at hl hh
      constructor
    all_goals simp only [record, hr, hx, Effect.count, one_eq_toNat, countP_snoc,
      List.length_append, List.length_singleton, hl, hh, Bool.toNat_false, Bool.toNat_true,
      Bool.not_false, Bool.not_true]
    all_goals omega

end Statistics

/-! ## The copy engine's part -/

namespace Dma.Block

variable {b : Block} {out : Word} {conflict : Bool}

theorem remaining_step (h : b.Sound) (out : Word) (conflict : Bool) :
    (b.step out conflict b).1.remaining + (b.step out conflict b).2.write.isSome.toNat =
      b.remaining := by
  have hm := moves_step h out out conflict
  generalize (b.step out conflict b).1 = b' at hm
  generalize (b.step out conflict b).2 = act at hm
  cases hm with
  | keep _ write _ _ _ _ remaining => simp [write, remaining]
  | read _ _ write _ _ _ _ remaining => simp [write, remaining]
  | write _ _ _ write _ _ _ _ _ remaining => simp [write, remaining]

end Dma.Block

namespace Board

variable {b : Board}

/-- What one cycle makes of the engine: a copy that is started keeps it busy until it ends,
and the words that are ordered are written or left. -/
structure Balanced (b : Board) : Prop where
  copies : b.next.core.dma.busy.toNat + b.report.dma.finished.toNat =
    b.core.dma.busy.toNat + b.report.launches.toNat
  words : b.next.core.dma.remaining + b.report.dma.write.isSome.toNat =
    b.core.dma.remaining + b.report.ordered

/-- What Exec1 asks of the engine in a cycle without a fault: nothing that it takes, or a
copy. -/
inductive Orders (b : Board) : Prop
  | nothing (alone : b.core.dma.busy = true ∨ b.core.exec1Is .dma = false)
      (launches : b.report.launches = false) (ordered : b.report.ordered = 0)
  | copy (e : Exec1) (exec1 : b.core.latches.exec1 = some e) (dma : e.is .dma = true)
      (free : b.core.dma.busy = false) (launches : b.report.launches = true)
      (ordered : b.report.ordered = e.b.toInt.toNat)

theorem opcode_of_launch {e : Exec1} {launched : Bool}
    (h : b.core.effect e b.dmem.out = .dma launched) : e.inst.opcode = .dma := by
  have hv := b.core.retires e b.dmem.out
  rw [h] at hv
  cases hv with
  | copy dma => exact dma

theorem orders (trap : b.core.trap = none) : b.Orders := by
  rcases he : b.core.latches.exec1 with _ | e
  · have hr := retired_of_exec1_none he
    exact .nothing (.inr (by simp [Core.exec1Is, he])) (by simp [Report.launches, hr])
      (by simp [Report.ordered, hr])
  have hr := retired_of_exec1 he
  rw [Core.trap_of_exec1 he] at trap
  by_cases dma : e.inst.opcode = .dma
  · have heff : b.core.effect e b.dmem.out = .dma !b.core.dma.busy := by simp [Core.effect, dma]
    rcases free : b.core.dma.busy with _ | _
    · exact .copy e he (by simp [Dec1.is, trap, dma]) free
        (by simp [Report.launches, hr, Core.retire, heff, free])
        (by simp [Report.ordered, Retired.ordered, hr, Core.retire, heff, free])
    · exact .nothing (.inl free) (by simp [Report.launches, hr, Core.retire, heff, free])
        (by simp [Report.ordered, Retired.ordered, hr, Core.retire, heff, free])
  · have heff : b.core.effect e b.dmem.out ≠ .dma true := mt opcode_of_launch dma
    exact .nothing (.inr (by simp [Core.exec1Is, he, Dec1.is, dma]))
      (by simp [Report.launches, hr, Core.retire, heff])
      (by simp [Report.ordered, Retired.ordered, hr, Core.retire, heff])

theorem balanced_next (sound : b.core.dma.Sound) (trap : b.core.trap = none) : b.Balanced := by
  have hact : b.report.dma = (b.bench.turn b.core.portUse).2 := b.activity_eq
  cases orders trap with
  | nothing alone launches ordered =>
    constructor
    · rw [hact, dma_next_of_no_launch alone, launches]
      exact Dma.Block.busy_step sound ..
    · rw [hact, dma_next_of_no_launch alone, ordered]
      exact Dma.Block.remaining_step sound ..
  | copy e exec1 dma free launches ordered =>
    -- A free engine rests in the cycle of the request.
    obtain ⟨rests, hs⟩ := Dma.Block.step_of_free sound free b.dmem.out b.core.portUse.isSome
      b.core.dma
    have hq : b.report.dma = .quiet := hact.trans (congrArg Prod.snd hs)
    have hn := dma_next_of_launch sound free exec1 dma
    rw [Dma.Block.launch_of_free free rests] at hn
    have h0 := (Dma.Block.held_of_free sound free 0).2
    constructor
    · simp [hn, hq, free, launches, Dma.Activity.quiet]
    · simp [hn, hq, h0, ordered, Dma.Activity.quiet]

end Board

/-- What makes a load wait for a store is no load, so nothing waits for it. -/
theorem Core.loadUse_of_structural {c : Core} (h : c.structural = true) : c.loadUse = false := by
  simp only [structural, Bool.and_eq_true] at h
  obtain ⟨e, he, st⟩ := (Option.any_eq_true ..).mp h.2
  simp only [Dec1.is, Bool.and_eq_true, decide_eq_true_eq] at st
  have hd : e.loadDst = none := by simp [Exec1.loadDst, Dec1.is, st.2]
  simp [loadUse, Instruction.awaitsLoad, he, hd]

/-! ## Runs -/

/-- What the cycles so far, given by their reports, have made of the copy engine, of the count
of cycles and of the mark for a halted machine. -/
structure Board.Accounts (b : Board) (halted : Bool) (h : List Report) : Prop where
  sound : b.core.dma.Sound
  cycle : b.core.cycle = h.length
  launches : h.countP Report.launches =
    h.countP (fun r => r.dma.finished) + b.core.dma.busy.toNat
  words : h.countP (fun r => r.dma.write.isSome) + b.core.dma.remaining = Report.orderedIn h
  halts : h.countP Report.halts = halted.toNat

theorem Board.accounts_next {b : Board} {h : List Report} (ha : b.Accounts false h)
    (trap : b.core.trap = none) : b.next.Accounts b.report.halts (h ++ [b.report]) := by
  obtain ⟨sound, cycle, launches, words, halts⟩ := ha
  obtain ⟨copies, ordered⟩ := balanced_next sound trap
  constructor
  case sound => exact sound_next sound
  case cycle =>
    rw [List.length_append, ← cycle]
    exact Core.cycle_next ..
  case launches =>
    rw [countP_snoc, countP_snoc]
    omega
  case words =>
    rw [countP_snoc, Report.orderedIn_snoc]
    omega
  case halts =>
    rw [countP_snoc, halts]
    exact Nat.zero_add _

namespace Machine

variable {m : Machine}

theorem tallies_after (reset : m.AtReset) (n : Nat) :
    (m.after n).stats.Tallies (m.history n) :=
  holds_after (P := fun _ t _ h => t.Tallies h) reset.idle
    (reset.stats ▸ Statistics.tallies_zero) (fun _ _ _ h => Statistics.tallies_record h _) n

theorem accounts_after (reset : m.AtReset) (n : Nat) :
    (m.after n).board.Accounts (m.after n).halted (m.history n) := by
  refine holds_after (P := fun b _ halted h => b.Accounts halted h) reset.idle ?_
    (fun _ _ trap h => Board.accounts_next h trap) n
  rw [reset.halted]
  constructor
  case halts => rfl
  case sound =>
    rw [reset.core]
    exact fun _ => rfl
  all_goals
    rw [reset.core]
    rfl

theorem stall_of_history {n : Nat} {r : Report} (h : r ∈ m.history n) :
    r.signals.stall = (r.signals.structural || r.signals.loadUse) ∧
      (r.signals.structural = true → r.signals.loadUse = false) := by
  obtain ⟨k, _, hk⟩ := List.mem_filterMap.mp h
  split at hk
  · cases hk
    exact ⟨rfl, Core.loadUse_of_structural⟩
  · cases hk

/-- The counts of a machine balance after any number of ticks, whatever its traces do. They
are fed from the reports of the cycles that came about, and agree with these and with what
the core holds: the cycles with its counter, the instructions with their kinds, branches and
requests with what came of them, stalls with their two reasons, which never meet. Every copy
that was started has ended or still keeps the engine busy, every word that was ordered is
written or left, and HLT is counted once the machine has halted. -/
theorem statistics_are_conserved (m : Machine) (reset : m.AtReset) (n : Nat) :
    let t := (m.after n).stats
    let c := (m.after n).board.core
    let h := m.history n
    t.cycles = h.length ∧ c.cycle = h.length ∧
    t.retired = t.alu + t.load + t.store + t.branch + t.dma + t.halt ∧
    t.branch = t.predictions + t.mispredictions ∧
    t.dma = t.dmaTransfers + t.dmaDropped ∧
    t.stallsStructural + t.stallsLoadUse = h.countP (fun r => r.signals.stall) ∧
    (∀ r ∈ h, ¬ (r.signals.structural = true ∧ r.signals.loadUse = true)) ∧
    t.dmaTransfers = h.countP (fun r => r.dma.finished) + c.dma.busy.toNat ∧
    t.dmaWords + c.dma.remaining = Report.orderedIn h ∧
    t.halt = (m.after n).halted.toNat := by
  intro t c h
  have ht := tallies_after reset n
  have ha := accounts_after reset n
  refine ⟨ht.cycles, ha.cycle, ht.retired, ht.branch, ht.dma, ?_, ?_, ?_, ?_, ?_⟩
  · rw [ht.stalls]
    exact List.countP_congr fun r hr => by rw [(stall_of_history hr).1]
  · rintro r hr ⟨structural, loadUse⟩
    cases loadUse.symm.trans ((stall_of_history hr).2 structural)
  · rw [ht.transfers]
    exact ha.launches
  · rw [ht.words]
    exact ha.words
  · rw [ht.halt]
    exact ha.halts

/-- HLT retires in tick 12, when two words of a copy of four are written and a second request
has been dropped. -/
theorem counts_balance_during_a_copy :
    let m := (Setup.small [0x00880004, 0x14020004, 0x14020004, 0, 0, 0, 0, 0x30000000]).machine 0
    let t := (m.after 13).stats
    m.AtReset ∧ t.dmaTransfers = 0 + 1 ∧ t.dma = t.dmaTransfers + 1 ∧ t.dmaWords + 2 = 4 ∧
      t.halt = 1 := by
  intro m t
  have reset : m.AtReset := Setup.atReset _ rfl
  obtain ⟨_, _, _, _, dma, _, _, transfers, words, halt⟩ := statistics_are_conserved m reset 13
  have busy : (m.after 13).board.core.dma.busy = true := by decide +kernel
  have left : (m.after 13).board.core.dma.remaining = 2 := by decide +kernel
  have dropped : t.dmaDropped = 1 := by decide +kernel
  have ended : (m.history 13).countP (fun r => r.dma.finished) = 0 := by decide +kernel
  have ordered : Report.orderedIn (m.history 13) = 4 := by decide +kernel
  have halted : (m.after 13).halted = true := by decide +kernel
  rw [ended, busy] at transfers
  rw [left, ordered] at words
  rw [halted] at halt
  exact ⟨reset, transfers, dropped ▸ dma, words, halt⟩

end Machine

end SixStage
