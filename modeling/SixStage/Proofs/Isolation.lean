-- The copy engine and everything else. Two boards may differ in their engines and in
-- the places that these write. As long as the program neither asks the engine with DMP
-- nor loads from such a place, all else stays alike, cycle by cycle.
import SixStage.Proofs.Course

namespace SixStage

/-! ## Memories -/

namespace Sram

/-- The memories have the same words, except where `W` holds. -/
structure AgreesOff (W : Nat → Prop) (s t : Sram) : Prop where
  height : s.height = t.height
  words : ∀ i, ¬ W i → s.words[i]? = t.words[i]?

variable {W : Nat → Prop} {s t : Sram}

theorem AgreesOff.refl (W : Nat → Prop) (s : Sram) : s.AgreesOff W s := ⟨rfl, fun _ _ => rfl⟩

theorem AgreesOff.symm (h : s.AgreesOff W t) : t.AgreesOff W s :=
  ⟨h.height.symm, fun i hi => (h.words i hi).symm⟩

theorem AgreesOff.of_words {s' t' : Sram} (h : s.AgreesOff W t) (hs : s'.words = s.words)
    (ht : t'.words = t.words) : s'.AgreesOff W t' := by
  constructor
  · simp only [Sram.height, hs, ht]
    exact h.height
  · simp only [hs, ht]
    exact h.words

theorem AgreesOff.place (h : s.AgreesOff W t) (a : Addr) : s.place a = t.place a := by
  rw [Sram.place, Sram.place, h.height]

theorem AgreesOff.peek (h : s.AgreesOff W t) {a : Addr} (ha : ¬ W (s.place a)) :
    s.peek a = t.peek a := by
  have hw := h.words _ ha
  have hs : s.words[s.place a]? = some (s.peek a) := Array.getElem?_eq_getElem _
  have ht : t.words[t.place a]? = some (t.peek a) := Array.getElem?_eq_getElem _
  rw [hs, h.place a, ht] at hw
  exact Option.some.inj hw

theorem words_poke (s : Sram) (a : Addr) (w : Word) (i : Nat) :
    (s.poke a w).words[i]? = if s.place a = i then some w else s.words[i]? := by
  simp only [poke, Array.getElem?_set]
  rfl

theorem AgreesOff.poke (h : s.AgreesOff W t) (a : Addr) (w : Word) :
    (s.poke a w).AgreesOff W (t.poke a w) := by
  refine ⟨?_, fun i hi => ?_⟩
  · rw [height_poke, height_poke, h.height]
  · rw [words_poke, words_poke, h.place, h.words i hi]

/-- One of them is written where they may differ. -/
theorem AgreesOff.poke_left (h : s.AgreesOff W t) {a : Addr} (w : Word) (ha : W (s.place a)) :
    (s.poke a w).AgreesOff W t := by
  refine ⟨(height_poke ..).trans h.height, fun i hi => ?_⟩
  have hne : s.place a ≠ i := fun h => hi (h ▸ ha)
  rw [words_poke, if_neg hne, h.words i hi]

theorem AgreesOff.write_left (h : s.AgreesOff W t) (own : Option (Addr × Word))
    (ho : ∀ p ∈ own, W (s.place p.1)) : (s.writeAll own.toList).AgreesOff W t := by
  rcases own with _ | p
  · exact h
  · exact h.poke_left p.2 (ho p rfl)

theorem AgreesOff.write_both (h : s.AgreesOff W t) (use : Option (Addr × Word)) :
    (s.writeAll use.toList).AgreesOff W (t.writeAll use.toList) := by
  rcases use with _ | p
  · exact h
  · exact h.poke p.1 p.2

theorem place_write (s : Sram) (use : Option (Addr × Word)) (a : Addr) :
    (s.writeAll use.toList).place a = s.place a := by
  rcases use with _ | p
  · rfl
  · exact s.place_poke a p.1 p.2

/-- Both take a write, and then each takes one of its own where they may differ. -/
theorem AgreesOff.writeAll (h : s.AgreesOff W t) {use left right : Option (Addr × Word)}
    (hl : ∀ p ∈ left, W (s.place p.1)) (hr : ∀ p ∈ right, W (t.place p.1)) :
    (s.writeAll (use.toList ++ left.toList)).AgreesOff W
      (t.writeAll (use.toList ++ right.toList)) := by
  rw [writeAll_append, writeAll_append]
  have hb := h.write_both use
  have hbl := hb.write_left left fun p hp => by rw [place_write]; exact hl p hp
  exact (hbl.symm.write_left right fun p hp => by rw [place_write]; exact hr p hp).symm

end Sram

/-! ## Cores -/

namespace Effect

/-- What an effect is to the pipeline, which is not told if a copy has started. -/
def unlaunched : Effect → Effect
  | dma _ => dma false
  | eff => eff

theorem registers_unlaunched (pc : Addr) (regs : RegFile) (eff : Effect) :
    eff.unlaunched.registers pc regs = eff.registers pc regs := by
  cases eff <;> rfl

theorem predictor_unlaunched (pc : Addr) (p : Predictor) (eff : Effect) :
    eff.unlaunched.predictor pc p = eff.predictor pc p := by
  cases eff <;> rfl

end Effect

/-- The instruction without the word on whether it has started a copy. -/
def Retired.unlaunched (x : Retired) : Retired := { x with effect := x.effect.unlaunched }

/-- A report without what the copy engine did. -/
def Report.pipeline (r : Report) : Report :=
  { r with retired := r.retired.map Retired.unlaunched, dma := .quiet }

theorem Report.halts_pipeline (r : Report) : r.pipeline.halts = r.halts := by
  obtain ⟨signals, taken, squashed, _ | x, dma⟩ := r
  · rfl
  · rcases hx : x.effect with _ | _ | _ | _ | _ | _ <;>
      simp [halts, haltPc, pipeline, Retired.unlaunched, Effect.unlaunched, hx]

namespace Core

def withDma (c : Core) (d : Dma.Block) : Core := { c with dma := d }

/-- A load in Exec1 finds the same word in both output registers. -/
def Delivers (c : Core) (loaded loaded' : Word) : Prop :=
  c.exec1Is .ld = true → loaded = loaded'

variable {c : Core} {d : Dma.Block} {fetched loaded loaded' : Word}

theorem retired_withDma (d : Dma.Block) (trap : c.trap = none) (h : c.Delivers loaded loaded') :
    ((c.withDma d).retired loaded').map Retired.unlaunched =
      (c.retired loaded).map Retired.unlaunched := by
  rcases he : c.latches.exec1 with _ | e
  · simp [retired, withDma, he]
  rw [trap_of_exec1 he] at trap
  have heff : ((c.withDma d).effect e loaded').unlaunched = (c.effect e loaded).unlaunched := by
    unfold effect
    split
    · next ld => rw [h (by simp [exec1Is, he, Dec1.is, trap, ld])]
    all_goals rfl
  have he' : (c.withDma d).latches.exec1 = some e := he
  simp only [retired, he, he', Option.map_some, retire, Retired.unlaunched, heff]

/-- The registers after a cycle are told by what retires. -/
theorem regs_of_retired (c : Core) (fetched loaded : Word) :
    (c.next fetched loaded).regs = ((c.retired loaded).map Retired.unlaunched).elim c.regs
      fun x => x.effect.registers x.pc c.regs := by
  unfold next
  rcases c.retired loaded with _ | x
  · rfl
  · exact (x.effect.registers_unlaunched ..).symm

theorem predictor_of_retired (c : Core) (fetched loaded : Word) :
    (c.next fetched loaded).predictor =
      ((c.retired loaded).map Retired.unlaunched).elim c.predictor
        fun x => x.effect.predictor x.pc c.predictor := by
  unfold next
  rcases c.retired loaded with _ | x
  · rfl
  · exact (x.effect.predictor_unlaunched ..).symm

/-- The engine is seen by no stage but Exec0, where DMP asks it. -/
theorem moved_withDma (c : Core) (d : Dma.Block) (fetched : Word) :
    (c.withDma d).moved fetched =
      { c.moved fetched with exec1 := ((c.withDma d).moved fetched).exec1 } := by
  have stall : (c.withDma d).stall = c.stall := rfl
  have squasher : (c.withDma d).squasher = c.squasher := rfl
  unfold moved
  rw [stall, squasher]
  split
  · rfl
  · split <;> rfl

theorem exec1_moved (c : Core) (fetched : Word) :
    (c.moved fetched).exec1 = if c.stall then none else c.latches.exec0.map c.execute := by
  unfold moved
  split
  · rfl
  · split <;> rfl

theorem execute_withDma {e : Exec0} (silent : (c.execute e).is .dmp = false) :
    (c.withDma d).execute e = c.execute e := by
  have hops : (c.withDma d).exec0Operands e = c.exec0Operands e := rfl
  have hr : (c.withDma d).result e (c.exec0Operands e) = c.result e (c.exec0Operands e) := by
    unfold result
    split
    · rfl
    · next legal =>
      have hne : e.inst.opcode ≠ .dmp := by
        intro dmp
        simp only [execute, Dec1.is, dmp] at silent
        simp_all
      rw [if_neg hne, if_neg hne]
  simp only [execute, hops, hr]

theorem exec1_moved_withDma (d : Dma.Block)
    (silent : ∀ e, (c.moved fetched).exec1 = some e → e.is .dmp = false) :
    ((c.withDma d).moved fetched).exec1 = (c.moved fetched).exec1 := by
  have stall : (c.withDma d).stall = c.stall := rfl
  have exec0 : (c.withDma d).latches.exec0 = c.latches.exec0 := rfl
  rw [exec1_moved] at silent
  rw [exec1_moved, exec1_moved, stall, exec0]
  split
  · rfl
  · next go =>
    rw [if_neg go] at silent
    exact Option.map_congr fun e he => execute_withDma (silent _ (by rw [he]; rfl))

theorem exec1Is_of_loadDst {r : Reg} (h : c.loadDst = some r) : c.exec1Is .ld = true := by
  obtain ⟨e, he, hd⟩ := Option.bind_eq_some_iff.mp h
  unfold Exec1.loadDst at hd
  split at hd
  · next ld => simp [exec1Is, he, ld.1]
  · cases hd

theorem delivered_congr (h : c.Delivers loaded loaded') :
    c.delivered loaded' = c.delivered loaded := by
  rcases hd : c.loadDst with _ | r
  · simp [delivered, hd]
  · rw [h (exec1Is_of_loadDst hd)]

theorem latches_withDma (d : Dma.Block) (trap : c.trap = none) (h : c.Delivers loaded loaded')
    (silent : ∀ e, (c.next fetched loaded).latches.exec1 = some e → e.is .dmp = false) :
    ((c.withDma d).next fetched loaded').latches = (c.next fetched loaded).latches := by
  have trap' : (c.withDma d).trap = none := trap
  have redirect : (c.withDma d).redirect = c.redirect := rfl
  have delivered : (c.withDma d).delivered loaded' = c.delivered loaded := delivered_congr h
  rw [latches_next trap] at silent ⊢
  rw [latches_next trap', redirect, delivered, moved_withDma]
  rcases hr : c.redirect with _ | pc
  · simp only [hr] at silent ⊢
    rw [exec1_moved_withDma d silent]
  · -- A flush drops what comes to Exec1.
    rfl

/-- Up to the engine, the core after a cycle does not depend on the engine before it. -/
theorem next_withDma (d : Dma.Block) (trap : c.trap = none) (h : c.Delivers loaded loaded')
    (silent : ∀ e, (c.next fetched loaded).latches.exec1 = some e → e.is .dmp = false) :
    (c.withDma d).next fetched loaded' =
      (c.next fetched loaded).withDma ((c.withDma d).next fetched loaded').dma := by
  have regs : ((c.withDma d).next fetched loaded').regs = (c.next fetched loaded).regs := by
    rw [regs_of_retired, regs_of_retired, retired_withDma d trap h]
    rfl
  have predictor : ((c.withDma d).next fetched loaded').predictor =
      (c.next fetched loaded).predictor := by
    rw [predictor_of_retired, predictor_of_retired, retired_withDma d trap h]
    rfl
  have cycle : ((c.withDma d).next fetched loaded').cycle = (c.next fetched loaded).cycle := by
    rw [cycle_next, cycle_next]
    rfl
  have latches := latches_withDma d trap h silent
  generalize (c.withDma d).next fetched loaded' = c' at *
  obtain ⟨_, _, _, _, _⟩ := c'
  simp only [withDma] at *
  rw [regs, predictor, cycle, latches]

theorem report_withDma (d : Dma.Block) (trap : c.trap = none) (h : c.Delivers loaded loaded') :
    ((c.withDma d).report loaded').pipeline = (c.report loaded).pipeline := by
  simp only [Report.pipeline, report, retired_withDma d trap h]
  rfl

end Core

/-! ## Boards -/

namespace Board

/-- The boards are alike but for their copy engines and for the words where `W` holds. The
output registers of the data memories count only for a load that is about to take them. -/
structure Alike (W : Nat → Prop) (a b : Board) : Prop where
  core : b.core = a.core.withDma b.core.dma
  imem : b.imem = a.imem
  dmem : a.dmem.AgreesOff W b.dmem
  out : a.core.Delivers a.dmem.out b.dmem.out

/-- What is in Exec1 is no DMP, and no load of a word where `W` holds. -/
def LooksAway (W : Nat → Prop) (b : Board) : Prop :=
  ∀ e ∈ b.core.latches.exec1,
    e.is .dmp = false ∧ (e.is .ld = true → ¬ W (b.dmem.place e.result.addr))

/-- The engine's cycle writes where `W` holds, if it writes. -/
def CopiesInto (W : Nat → Prop) (b : Board) : Prop :=
  ∀ p ∈ b.report.dma.write, W (b.dmem.place p.1)

instance (W : Nat → Prop) [DecidablePred W] (b : Board) : Decidable (b.LooksAway W) :=
  Option.decidableForallMem b.core.latches.exec1

instance (W : Nat → Prop) [DecidablePred W] (b : Board) : Decidable (b.CopiesInto W) :=
  Option.decidableForallMem b.report.dma.write

variable {W : Nat → Prop} {a b : Board}

theorem trap_of_alike (h : Alike W a b) : b.core.trap = a.core.trap := by
  rw [h.core]
  rfl

theorem report_of_alike (trap : a.core.trap = none) (h : Alike W a b) :
    b.report.pipeline = a.report.pipeline := by
  rw [report, h.core]
  exact Core.report_withDma _ trap h.out

theorem alike_next (idle : a.dmem.Idle) (idle' : b.dmem.Idle) (trap : a.core.trap = none)
    (h : Alike W a b) (away : a.next.LooksAway W) (into : a.CopiesInto W)
    (into' : b.CopiesInto W) : Alike W a.next b.next := by
  have trap' : b.core.trap = none := (trap_of_alike h).trans trap
  have core : b.next.core = a.next.core.withDma b.next.core.dma := by
    simp only [next, commit]
    rw [h.core, h.imem]
    exact Core.next_withDma _ trap h.out fun e he => (away e he).1
  have dmem : a.next.dmem.AgreesOff W b.next.dmem := by
    have store : b.core.storeWrite = a.core.storeWrite := by
      rw [h.core]
      rfl
    refine Sram.AgreesOff.of_words ?_ (words_next trap idle) (words_next trap' idle')
    simp only [Report.writes, report, Core.report, Core.written_of_retired _ trap,
      Core.written_of_retired _ trap', store]
    exact h.dmem.writeAll into into'
  refine ⟨core, ?_, dmem, fun ld => ?_⟩
  · simp only [next, commit]
    rw [h.imem, h.core]
    rfl
  · -- Both loads have read their word in this cycle, and where they may not differ.
    obtain ⟨e, he, ld⟩ := (Option.any_eq_true ..).mp ld
    have he' : b.next.core.latches.exec1 = some e := by rw [core]; exact he
    rw [served_next trap idle e he ld, served_next trap' idle' e he' ld]
    exact dmem.peek ((away e he).2 ld)

/-- As long as the first run neither asks the engine nor loads where `W` holds, and neither
engine writes elsewhere, the second run lasts as long as the first and stays alike. -/
theorem alike_after (idle : a.Idle) (idle' : b.Idle) (alike : Alike W a b) {n : Nat}
    (away : ∀ k < n, a.Lasts (k + 1) → (a.after (k + 1)).LooksAway W)
    (into : ∀ k < n, a.Lasts (k + 1) → (a.after k).CopiesInto W)
    (into' : ∀ k < n, b.Lasts (k + 1) → (b.after k).CopiesInto W) {k : Nat} (hk : k ≤ n)
    (lasts : a.Lasts k) : b.Lasts k ∧ Alike W (a.after k) (b.after k) := by
  induction k with
  | zero => exact ⟨fun _ h => absurd h (Nat.not_lt_zero _), alike⟩
  | succ k ih =>
    obtain ⟨lasts', h⟩ := ih (Nat.le_of_succ_le hk) (lasts.mono (Nat.le_succ k))
    have trap := lasts k (Nat.lt_succ_self k)
    have lasts' := lasts_succ lasts' ((trap_of_alike h).trans trap)
    refine ⟨lasts', ?_⟩
    exact alike_next (idle_after idle k).dmem (idle_after idle' k).dmem trap h (away k hk lasts)
      (into k hk lasts) (into' k hk lasts')

/-- The copy engine is seen by DMP and in the words that it writes, and nowhere else. Of two
boards that are alike but for their engines and for the words where `W` holds, run both. If
no DMP and no load of such a word comes to Exec1 in the first run, and neither engine writes
another word, then after every cycle up to the `n`-th they are alike again. A fault comes in
both or in neither, and so does HLT, and their reports differ in what the engines did and in
whether a request was taken. -/
theorem copies_are_invisible_elsewhere (idle : a.Idle) (idle' : b.Idle) (alike : Alike W a b)
    (n : Nat) (away : ∀ k < n, a.Lasts (k + 1) → (a.after (k + 1)).LooksAway W)
    (into : ∀ k < n, a.Lasts (k + 1) → (a.after k).CopiesInto W)
    (into' : ∀ k < n, b.Lasts (k + 1) → (b.after k).CopiesInto W) :
    ∀ k ≤ n, (a.Lasts k ↔ b.Lasts k) ∧ (a.Lasts k →
      Alike W (a.after k) (b.after k) ∧ (b.after k).core.trap = (a.after k).core.trap ∧
      ((a.after k).core.trap = none →
        (b.after k).report.pipeline = (a.after k).report.pipeline ∧
        (b.after k).report.halts = (a.after k).report.halts)) := by
  have run := fun k (hk : k ≤ n) lasts => alike_after idle idle' alike away into into' hk lasts
  intro k hk
  refine ⟨⟨fun lasts => (run k hk lasts).1, fun lasts' => ?_⟩, fun lasts => ?_⟩
  · -- Up to the cycle before, the first run has lasted too, and shows the same fault.
    induction k with
    | zero => exact fun _ h => absurd h (Nat.not_lt_zero _)
    | succ k ih =>
      have lasts := ih (Nat.le_of_succ_le hk) (lasts'.mono (Nat.le_succ k))
      have same := trap_of_alike (run k (Nat.le_of_succ_le hk) lasts).2
      exact lasts_succ lasts (same ▸ lasts' k (Nat.lt_succ_self k))
  · have h := (run k hk lasts).2
    refine ⟨h, trap_of_alike h, fun trap => ?_⟩
    have same := report_of_alike trap h
    refine ⟨same, ?_⟩
    rw [← Report.halts_pipeline, same, Report.halts_pipeline]

/-- The board with another copy engine and with another word. -/
def disturb (b : Board) (d : Dma.Block) (a : Addr) (w : Word) : Board :=
  { b with core := b.core.withDma d, dmem := b.dmem.poke a w }

theorem idle_disturb (idle : b.Idle) (d : Dma.Block) (a : Addr) (w : Word) :
    (b.disturb d a w).Idle :=
  ⟨idle.imem, idle.dmem.no_read, idle.dmem.no_write⟩

theorem alike_disturb (b : Board) (d : Dma.Block) {a : Addr} (w : Word)
    (ha : W (b.dmem.place a)) : Alike W b (b.disturb d a w) :=
  ⟨rfl, rfl, ((Sram.AgreesOff.refl W b.dmem).poke_left w ha).symm, fun _ => rfl⟩

/-- A request for a copy of two words was taken in the cycle before. A load, an addition and a
store are behind it. -/
def copying : Board :=
  (Setup.small [0x00880002, 0x14020004, 0x10c10007, 0, 0x00d10001, 0, 0x12190002,
    0x30000000]).start.after 7

/-- HLT retires in the same cycle if there is no copy, and another word where it writes. -/
theorem halt_comes_with_and_without_a_copy :
    let W := fun i => i = 4 ∨ i = 5
    let a := copying
    let b := copying.disturb .reset 4 99
    a.Idle ∧ b.Idle ∧ Alike W a b ∧ (a.after 5).report.halts = true ∧
      (b.after 5).report.halts = true ∧ (a.after 5).dmem.words ≠ (b.after 5).dmem.words ∧
      Alike W (a.after 6) (b.after 6) := by
  intro W a b
  have idle : a.Idle := idle_after (Setup.idle_start _) 7
  have idle' : b.Idle := idle_disturb idle ..
  have alike : Alike W a b := alike_disturb a .reset 99 (.inl (by decide +kernel))
  have away : ∀ k < 6, (a.after (k + 1)).LooksAway W := by decide +kernel
  have into : ∀ k < 6, (a.after k).CopiesInto W := by decide +kernel
  have into' : ∀ k < 6, (b.after k).CopiesInto W := by decide +kernel
  have law := copies_are_invisible_elsewhere idle idle' alike 6 (fun k hk _ => away k hk)
    (fun k hk _ => into k hk) fun k hk _ => into' k hk
  have lasts : ∀ k < 6, (a.after k).core.trap = none := by decide +kernel
  have halts : (a.after 5).report.halts = true := by decide +kernel
  obtain ⟨_, _, reports⟩ := (law 5 (by decide)).2 (Lasts.mono lasts (by decide))
  have halts' : (b.after 5).report.halts = true :=
    (reports (lasts 5 (by decide))).2.trans halts
  exact ⟨idle, idle', alike, halts, halts', by decide +kernel, ((law 6 (by decide)).2 lasts).1⟩

end Board

end SixStage
