-- Operands are never stale. Whatever an instruction took along, was passed by
-- Exec1 or by a load, it ends with what the register file holds once all
-- older instructions are done. An operand that waits in Exec0 may be behind
-- only a load that has just come, and that load is still on offer.
import SixStage.Proofs.PipelineStep
import SixStage.Proofs.Run
import SixStage.Sequential

namespace SixStage

/-- An operand that is kept in Exec0: the immediate, or the word of its register as long
as no load has just brought a newer one. -/
def Kept (regs : RegFile) (loaded : Option Loaded) (imm : Word) : Option Reg → Word → Prop
  | none, w => w = imm
  | some r, w => (∀ l, loaded = some l → l.dst ≠ r) → w = regs.read r

namespace Core

/-- The operands in flight are up to date. `free` is what a DMP in Exec1 was told of the
copy engine. -/
structure Fresh (free : Bool) (c : Core) : Prop where
  loaded : ∀ l, c.latches.loaded = some l → c.regs.read l.dst = l.word
  exec0_a : ∀ e, c.latches.exec0 = some e →
    Kept c.regs c.latches.loaded e.inst.imm e.inst.operandA e.a
  exec0_b : ∀ e, c.latches.exec0 = some e →
    Kept c.regs c.latches.loaded e.inst.imm e.inst.operandB e.b
  exec1_a : ∀ e, c.latches.exec1 = some e → e.a = e.inst.valueA c.regs
  exec1_b : ∀ e, c.latches.exec1 = some e → e.b = e.inst.valueB c.regs
  exec1_result : ∀ e, c.latches.exec1 = some e → e.trap = none →
    e.result = e.inst.resultOf c.regs free

variable {c : Core} {fetched loaded imm latched : Word} {r : Option Reg} {free : Bool}

theorem read_next (trap : c.trap = none) (q : Reg) :
    (c.next fetched loaded).regs.read q =
      match c.forward with
      | some (d, v) => if d = q then v else c.regs.read q
      | none => if c.loadDst = some q then loaded else c.regs.read q := by
  rw [regs_next trap, written]
  rcases hf : c.forward with _ | ⟨d, v⟩
  · rcases hl : c.loadDst with _ | d
    · simp
    · simp [RegFile.read_write, isWritable_of_loadDst hl]
  · simp [RegFile.read_write, isWritable_of_forward hf]

/-- What Exec0 finds on offer of a load, or has kept, is in the register file. -/
theorem read_of_kept (h : c.Fresh free) {q : Reg}
    (hk : Kept c.regs c.latches.loaded imm (some q) latched) :
    (Operand.bypass none c.latches.loaded latched (some q)).value = c.regs.read q := by
  rcases hl : c.latches.loaded with _ | l
  · exact hk (by simp [hl])
  · simp only [Operand.bypass]
    split
    · next hd =>
      rw [← hd]
      exact (h.loaded l hl).symm
    · next hd =>
      apply hk
      intro l' hl'
      rw [hl] at hl'
      cases hl'
      exact hd

theorem loadDst_ne {q : Reg} (h : ∀ l, c.delivered loaded = some l → l.dst ≠ q) :
    c.loadDst ≠ some q :=
  fun hl => h ⟨q, loaded⟩ (by simp [delivered, hl]) rfl

theorem kept_bypass (trap : c.trap = none) (h : c.Fresh free)
    (hk : Kept c.regs c.latches.loaded imm r latched) :
    Kept (c.next fetched loaded).regs (c.delivered loaded) imm r
      (Operand.bypass c.forward c.latches.loaded latched r).value := by
  rcases r with _ | q
  · exact hk
  intro hd
  -- Only Exec1 can have something newer, and a load there would bring it later.
  have hkept := read_of_kept h hk
  rw [read_next trap]
  rcases hf : c.forward with _ | ⟨d, v⟩
  · simpa [loadDst_ne hd] using hkept
  · simp only [Operand.bypass]
    split
    · rfl
    · exact hkept

theorem kept_fetch (trap : c.trap = none) :
    Kept (c.next fetched loaded).regs (c.delivered loaded) imm r
      (Operand.fetch c.regs c.forward imm r).value := by
  rcases r with _ | q
  · rfl
  intro hd
  rw [read_next trap]
  rcases hf : c.forward with _ | ⟨d, v⟩
  · simp [Operand.fetch, loadDst_ne hd]
  · simp only [Operand.fetch]
    split <;> rfl

theorem eq_of_kept {regs : RegFile} (hk : Kept regs (c.delivered loaded) imm r latched)
    (hr : ∀ q, r = some q → c.loadDst ≠ some q) : latched = r.elim imm regs.read := by
  rcases r with _ | q
  · exact hk
  · apply hk
    intro l hl hq
    obtain ⟨d, hd, rfl⟩ := Option.map_eq_some_iff.mp hl
    exact hr q rfl (hq ▸ hd)

/-- What moves on to Exec1 reads no register that a load there writes. -/
theorem loadDst_ne_of_no_stall {e : Exec0} {q : Reg} (stall : c.stall = false)
    (he : c.latches.exec0 = some e) (hq : e.inst.operandA = some q ∨ e.inst.operandB = some q) :
    c.loadDst ≠ some q := by
  intro hd
  rw [loadDst] at hd
  have hl : c.loadUse = true := by
    simp [loadUse, he, Instruction.awaitsLoad, hd, Instruction.reads, hq]
  simp [Core.stall, hl] at stall

theorem execute_eq {e : Exec0} (fetched loaded : Word) (trap : c.trap = none) (h : c.Fresh free)
    (stall : c.stall = false) (he : c.latches.exec0 = some e) :
    (c.execute e).a = e.inst.valueA (c.next fetched loaded).regs ∧
      (c.execute e).b = e.inst.valueB (c.next fetched loaded).regs :=
  ⟨eq_of_kept (kept_bypass trap h (h.exec0_a e he))
      fun _ hq => loadDst_ne_of_no_stall stall he (.inl hq),
    eq_of_kept (kept_bypass trap h (h.exec0_b e he))
      fun _ hq => loadDst_ne_of_no_stall stall he (.inr hq)⟩

theorem result_execute {e : Exec0} (trap : c.trap = none) (h : c.Fresh free)
    (stall : c.stall = false) (he : c.latches.exec0 = some e) (legal : e.trap = none) :
    (c.execute e).result = e.inst.resultOf (c.next fetched loaded).regs c.dmaFree := by
  obtain ⟨ha, hb⟩ := execute_eq fetched loaded trap h stall he
  rw [Instruction.resultOf, ← ha, ← hb]
  simp [execute, result, legal]

theorem read_delivered (trap : c.trap = none) {l : Loaded} (h : c.delivered loaded = some l) :
    (c.next fetched loaded).regs.read l.dst = l.word := by
  obtain ⟨d, hd, rfl⟩ := Option.map_eq_some_iff.mp h
  rw [read_next trap, forward_of_loadDst hd]
  simp [hd]

theorem fresh_of_no_stall {l : Latches} (trap : c.trap = none) (h : c.Fresh free)
    (stall : c.stall = false) (hl : (c.next fetched loaded).latches = l)
    (h0 : l.exec0 = c.latches.dec1.map c.readOperands)
    (h1 : l.exec1 = c.latches.exec0.map c.execute) (hd : l.loaded = c.delivered loaded) :
    (c.next fetched loaded).Fresh c.dmaFree := by
  constructor
  all_goals simp only [hl, h0, h1, hd, Option.map_eq_some_iff]
  · exact fun l hl => read_delivered trap hl
  · rintro _ ⟨d, hd, rfl⟩
    exact kept_fetch trap
  · rintro _ ⟨d, hd, rfl⟩
    exact kept_fetch trap
  · rintro _ ⟨e, he, rfl⟩
    exact (execute_eq _ _ trap h stall he).1
  · rintro _ ⟨e, he, rfl⟩
    exact (execute_eq _ _ trap h stall he).2
  · rintro _ ⟨e, he, rfl⟩ legal
    exact result_execute trap h stall he legal

theorem fresh_next (trap : c.trap = none) (h : c.Fresh free) :
    (c.next fetched loaded).Fresh c.dmaFree := by
  have hc := cycled fetched loaded trap
  generalize hl : (c.next fetched loaded).latches = l at hc
  cases hc with
  | flush pc redirect => constructor <;> simp [hl]
  | hold redirect stall =>
    -- What waits in Exec0 keeps what it was offered, and Exec1 is empty.
    constructor
    all_goals simp only [hl, hold, Option.map_eq_some_iff]
    · exact fun l hl => read_delivered trap hl
    · rintro _ ⟨e, he, rfl⟩
      exact kept_bypass trap h (h.exec0_a e he)
    · rintro _ ⟨e, he, rfl⟩
      exact kept_bypass trap h (h.exec0_b e he)
    all_goals simp
  | squash d redirect stall squasher => exact fresh_of_no_stall trap h stall hl rfl rfl rfl
  | advance redirect stall squasher => exact fresh_of_no_stall trap h stall hl rfl rfl rfl

theorem read_of_forward {q : Reg} {w : Word} (trap : c.trap = none) (h : c.forward = some (q, w)) :
    (c.next fetched loaded).regs.read q = w := by
  rw [read_next trap, h]
  exact if_pos rfl

end Core

/-! ## Runs -/

namespace Setup

theorem exists_fresh (s : Setup) (n : Nat) : ∃ free, (s.board n).core.Fresh free := by
  -- What a DMP in Exec1 was told is another thing in every cycle, so it is left open.
  apply s.holds_board (P := fun b => ∃ free, b.core.Fresh free)
  · refine ⟨true, ?_⟩
    constructor <;> exact fun _ h => by cases h
  · rintro n goes ⟨free, h⟩
    exact ⟨_, Core.fresh_next goes.no_trap h⟩

/-- The bypasses are not to be noticed. A legal instruction in Exec1 has the operands that the
register file holds, and the result that they have; only DMP has its own from the copy engine.
In every tick that makes a cycle an instruction in Exec0 that is not held gets the operands that
the register file holds after the cycle, and what Exec1 passes on is what it then holds. What
a load has left on offer is in the register file, and what is kept in Exec0 is, unless a load
that is on offer has just brought something newer. -/
theorem operands_are_never_stale (s : Setup) (n : Nat) :
    let c := (s.board n).core
    (∀ e, c.latches.exec1 = some e → e.trap = none →
      e.a = e.inst.valueA c.regs ∧ e.b = e.inst.valueB c.regs ∧
        (e.inst.opcode ≠ .dmp → e.result = alu e.inst.opcode e.a e.b e.inst.imm)) ∧
    (s.cycle (n + 1) = s.cycle n + 1 →
      (∀ e, c.latches.exec0 = some e → c.signals.stall = false →
        ∃ ops, c.signals.exec0 = some ops ∧
          ops.a.value = e.inst.valueA (s.board (n + 1)).core.regs ∧
          ops.b.value = e.inst.valueB (s.board (n + 1)).core.regs) ∧
      ∀ r w, c.forward = some (r, w) → (s.board (n + 1)).core.regs.read r = w) ∧
    (∀ l, c.latches.loaded = some l → c.regs.read l.dst = l.word) ∧
    ∀ e, c.latches.exec0 = some e →
      Kept c.regs c.latches.loaded e.inst.imm e.inst.operandA e.a ∧
      Kept c.regs c.latches.loaded e.inst.imm e.inst.operandB e.b := by
  intro c
  obtain ⟨free, h⟩ := s.exists_fresh n
  refine ⟨fun e he legal => ?_, fun committed => ⟨fun e he stall => ?_, fun r w hf => ?_⟩,
    h.loaded, fun e he => ⟨h.exec0_a e he, h.exec0_b e he⟩⟩
  · have ha := h.exec1_a e he
    have hb := h.exec1_b e he
    refine ⟨ha, hb, fun notDmp => ?_⟩
    rw [h.exec1_result e he legal, Instruction.resultOf, if_neg notDmp, ha, hb]
  · obtain ⟨next, trap⟩ := board_of_cycle_succ committed
    obtain ⟨ha, hb⟩ := Core.execute_eq (s.board n).imem.out (s.board n).dmem.out trap h stall he
    rw [next]
    exact ⟨c.exec0Operands e, by simp [Core.signals, he], ha, hb⟩
  · obtain ⟨next, trap⟩ := board_of_cycle_succ committed
    rw [next]
    exact Core.read_of_forward trap hf

/-- In tick 7 an addition that has waited for a load is in Exec1, and behind it a store of the sum.
The register of the sum is still zero, and the store gets what it will be. -/
theorem store_gets_a_sum_ahead_of_its_register :
    let s := small [0x10810007, 0x00d10001, 0x12190002]
    let sum : Exec1 :=
      { pc := 1, expected := .straight, word := 0x00d10001, inst := ⟨.add, 3, 2, 1, 1⟩,
        trap := none, a := 8, b := 1, result := 9 }
    let store : Exec0 :=
      { pc := 2, expected := .straight, word := 0x12190002, inst := ⟨.st, 0, 3, 1, 2⟩,
        trap := none, a := 0, b := 2 }
    ((s.board 7).core.latches.exec1 = some sum ∧
      sum.a = sum.inst.valueA (s.board 7).core.regs ∧ sum.result = alu .add sum.a sum.b 1) ∧
    ((s.board 7).core.latches.exec0 = some store ∧ (s.board 7).core.signals.stall = false ∧
      s.cycle 8 = s.cycle 7 + 1) ∧
    (s.board 7).core.regs.read 3 = 0 ∧ (s.board 8).core.regs.read 3 = 9 ∧
      ∃ ops, (s.board 7).core.signals.exec0 = some ops ∧
        ops.a.value = store.inst.valueA (s.board 8).core.regs := by
  intro s sum store
  obtain ⟨exec1, committed, _⟩ := operands_are_never_stale s 7
  rw [show 7 + 1 = 8 from rfl] at committed
  have he1 : (s.board 7).core.latches.exec1 = some sum := by decide +kernel
  have he0 : (s.board 7).core.latches.exec0 = some store := by decide +kernel
  have goes : s.cycle 8 = s.cycle 7 + 1 := by decide +kernel
  have stall : (s.board 7).core.signals.stall = false := by decide +kernel
  obtain ⟨ha, _, result⟩ := exec1 sum he1 rfl
  obtain ⟨exec0, passed⟩ := committed goes
  obtain ⟨ops, hops, hops_a, _⟩ := exec0 store he0 stall
  exact ⟨⟨he1, ha, result (by decide)⟩, ⟨he0, stall, goes⟩, by decide +kernel,
    passed 3 9 (by decide +kernel), ops, hops, hops_a⟩

end Setup

end SixStage
