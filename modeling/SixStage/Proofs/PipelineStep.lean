-- What one cycle does to the core, said once. The latches move in one of four
-- ways, and the register file takes at most one word. All that is proved of
-- the pipeline takes these cases apart and opens no stage again.
import SixStage.Pipeline.Cycle

namespace SixStage

/-- What was fetched behind the record is squashed as it leaves Dec0: it was
predicted to be a taken branch, and is no branch. -/
def Dec1.squashes (d : Dec1) : Bool := d.expected.taken && !d.isBranch

/-- The effect empties the pipeline. -/
def Effect.flushes : Effect → Bool
  | branch _ flushed => flushed
  | _ => false

/-- The address of a branch and the way it went. Of anything else there is none. -/
def Retired.outcome (x : Retired) : Option (Addr × Direction) :=
  if x.inst.opcode.isBranch then some (x.pc, x.inst.direction x.result x.a) else none

namespace Core

variable {c : Core} {fetched loaded : Word}

/-! ## What Exec1 does -/

/-- The effect of a legal instruction, by the kind of its operation. -/
inductive Retires (c : Core) (e : Exec1) (loaded : Word) : Effect → Prop
  | write (alu : e.inst.opcode.isAlu = true) : Retires c e loaded (.reg e.inst.dst e.result)
  | load (ld : e.inst.opcode = .ld) :
      Retires c e loaded (.load e.inst.dst e.result.addr loaded)
  | store (st : e.inst.opcode = .st) : Retires c e loaded (.store e.result.addr e.a)
  | copy (dma : e.inst.opcode = .dma) : Retires c e loaded (.dma !c.dma.busy)
  | jump (branch : e.inst.opcode.isBranch = true) :
      Retires c e loaded (.branch (e.inst.direction e.result e.a)
        ((e.inst.direction e.result e.a).contradicts e.expected))
  | halt (hlt : e.inst.opcode = .hlt) : Retires c e loaded .halt

theorem retires (c : Core) (e : Exec1) (loaded : Word) :
    Retires c e loaded (c.effect e loaded) := by
  unfold effect
  split
  · next h => exact .load h
  · next h => exact .store h
  · next h => exact .copy h
  · next h => exact .jump (by rw [h]; rfl)
  · next h => exact .jump (by rw [h]; rfl)
  · next h => exact .jump (by rw [h]; rfl)
  · next h => exact .jump (by rw [h]; rfl)
  · next h => exact .jump (by rw [h]; rfl)
  · next h => exact .halt h
  · refine .write ?_
    cases h : e.inst.opcode <;> simp_all [Opcode.isAlu]

theorem opcode_of_halt {e : Exec1} (h : c.effect e loaded = .halt) : e.inst.opcode = .hlt := by
  have hv := c.retires e loaded
  rw [h] at hv
  cases hv with
  | halt hlt => exact hlt

/-- Where fetching goes on after a branch in Exec1 that went the unexpected way. -/
def redirect (c : Core) : Option Addr :=
  c.latches.exec1.bind fun e =>
    let d := e.inst.direction e.result e.a
    if e.isBranch ∧ d.contradicts e.expected then some (d.nextPc e.pc) else none

def loadDst (c : Core) : Option Reg := c.latches.exec1.bind Exec1.loadDst

/-- What a load in Exec1 leaves for the instruction in Exec0. -/
def delivered (c : Core) (loaded : Word) : Option Loaded := c.loadDst.map fun r => ⟨r, loaded⟩

def written (c : Core) (loaded : Word) : Option (Reg × Word) :=
  c.forward.or (c.loadDst.map fun r => (r, loaded))

theorem isBranch_of_redirect {e : Exec1} {pc : Addr} (h : c.redirect = some pc)
    (he : c.latches.exec1 = some e) : e.isBranch = true := by
  simp only [redirect, he, Option.bind_some] at h
  split at h
  · next hb => exact hb.1
  · cases h

theorem trap_of_exec1 {e : Exec1} (h : c.latches.exec1 = some e) : c.trap = e.trap := by
  simp [trap, h]

theorem opcode_of_isAlu {o : Opcode} (h : o.isAlu = true) : o.isBranch = false ∧ o ≠ .ld := by
  cases o <;> simp_all [Opcode.isAlu, Opcode.isBranch]

theorem opcode_of_isBranch {o : Opcode} (h : o.isBranch = true) : o.isAlu = false ∧ o ≠ .ld := by
  cases o <;> simp_all [Opcode.isAlu, Opcode.isBranch]

theorem flushes_effect {e : Exec1} (trap : e.trap = none) (he : c.latches.exec1 = some e) :
    (c.effect e loaded).flushes = c.redirect.isSome := by
  have hv := c.retires e loaded
  simp only [redirect, he, Option.bind_some, Dec1.isBranch, trap, Option.isNone_none,
    Bool.true_and]
  generalize c.effect e loaded = eff at hv
  cases hv with
  | write alu => simp [Effect.flushes, opcode_of_isAlu alu]
  | load ld => simp [Effect.flushes, ld, Opcode.isBranch]
  | store st => simp [Effect.flushes, st, Opcode.isBranch]
  | copy dma => simp [Effect.flushes, dma, Opcode.isBranch]
  | jump branch =>
    cases hc : (e.inst.direction e.result e.a).contradicts e.expected <;>
      simp [Effect.flushes, branch]
  | halt hlt => simp [Effect.flushes, hlt, Opcode.isBranch]

theorem regs_next (trap : c.trap = none) :
    (c.next fetched loaded).regs =
      (c.written loaded).elim c.regs fun p => c.regs.write p.1 p.2 := by
  rcases he : c.latches.exec1 with _ | e
  · simp [next, retired, written, forward, loadDst, he]
  rw [trap_of_exec1 he] at trap
  have hv := c.retires e loaded
  simp only [next, retired, he, Option.map_some, retire, written, forward, loadDst,
    Option.bind_some, Exec1.forward, Exec1.loadDst, Dec1.is, trap, Option.isSome_none,
    Option.isNone_none, Bool.false_eq_true, if_false, Bool.true_and]
  generalize c.effect e loaded = eff at hv
  cases hv with
  | write alu =>
    cases hw : e.inst.dst.isWritable <;>
      simp [Effect.registers, alu, hw, RegFile.write, (opcode_of_isAlu alu).2]
  | load ld =>
    cases hw : e.inst.dst.isWritable <;>
      simp [Effect.registers, ld, hw, RegFile.write, Opcode.isAlu, Opcode.isBranch]
  | store st => simp [Effect.registers, st, Opcode.isAlu, Opcode.isBranch]
  | copy dma => simp [Effect.registers, dma, Opcode.isAlu, Opcode.isBranch]
  | jump branch =>
    obtain ⟨halu, hld⟩ := opcode_of_isBranch branch
    simp [Effect.registers, branch, halu, hld, Instruction.direction]
    split <;> rfl
  | halt hlt => simp [Effect.registers, hlt, Opcode.isAlu, Opcode.isBranch]

theorem predictor_next (c : Core) (fetched loaded : Word) :
    (c.next fetched loaded).predictor =
      ((c.retired loaded).bind Retired.outcome).elim c.predictor
        fun p => c.predictor.update p.1 p.2 := by
  rcases he : c.latches.exec1 with _ | e
  · simp [next, retired, he]
  have hv := c.retires e loaded
  simp only [next, retired, he, Option.map_some, Option.bind_some, retire, Retired.outcome]
  generalize c.effect e loaded = eff at hv
  cases hv with
  | write alu => simp [Effect.predictor, opcode_of_isAlu alu]
  | load ld => simp [Effect.predictor, ld, Opcode.isBranch]
  | store st => simp [Effect.predictor, st, Opcode.isBranch]
  | copy dma => simp [Effect.predictor, dma, Opcode.isBranch]
  | jump branch => simp [Effect.predictor, branch]
  | halt hlt => simp [Effect.predictor, hlt, Opcode.isBranch]

theorem dma_next (c : Core) (fetched loaded : Word) :
    (c.next fetched loaded).dma = (c.dmaStep loaded).1 := by
  unfold next
  split <;> rfl

theorem requested_of_no_launch (h : c.dma.busy = true ∨ c.exec1Is .dma = false) :
    c.requested = c.dma := by
  unfold requested
  split
  · next e he =>
    rcases h with busy | none
    · simp [Dma.Block.launch, busy]
    · simp [exec1Is, he] at none
      simp [none]
  · rfl

theorem isWritable_of_loadDst {r : Reg} (h : c.loadDst = some r) : r.isWritable = true := by
  simp only [loadDst, Option.bind_eq_some_iff, Exec1.loadDst] at h
  obtain ⟨e, _, h⟩ := h
  split at h
  · next hd =>
    cases h
    exact hd.2
  · cases h

theorem isWritable_of_forward {r : Reg} {w : Word} (h : c.forward = some (r, w)) :
    r.isWritable = true := by
  simp only [forward, Option.bind_eq_some_iff, Exec1.forward] at h
  obtain ⟨e, _, h⟩ := h
  split at h
  · cases h
  split at h
  · split at h
    · next hd =>
      cases h
      exact hd
    · cases h
  split at h
  · cases h
    rfl
  · cases h

/-- A load has nothing ready before its word comes. -/
theorem forward_of_loadDst {r : Reg} (h : c.loadDst = some r) : c.forward = none := by
  simp only [loadDst, Option.bind_eq_some_iff, Exec1.loadDst] at h
  obtain ⟨e, he, h⟩ := h
  split at h
  · next hd =>
    simp only [Dec1.is, Bool.and_eq_true, decide_eq_true_eq] at hd
    simp [forward, he, Exec1.forward, hd.1.2, Opcode.isAlu, Opcode.isBranch]
  · cases h

/-! ## How the latches move -/

theorem expected_decoded (d : Dec0) : d.decoded.expected = d.expected := by
  unfold Dec0.decoded
  split <;> rfl

theorem squasher_eq (stall : c.stall = false) :
    c.squasher = c.latches.dec0.filter fun d => d.decoded.squashes := by
  simp only [squasher, stall, Bool.false_eq_true, if_false, Dec1.squashes, expected_decoded]

/-- The record in Dec0 that squashes what is behind it. -/
theorem squashes_of_squasher {d : Dec0} (stall : c.stall = false) (h : c.squasher = some d) :
    c.latches.dec0 = some d ∧ d.decoded.squashes = true := by
  rw [squasher_eq stall] at h
  exact Option.filter_eq_some_iff.mp h

theorem not_squashes_of_squasher {d : Dec0} (stall : c.stall = false) (h : c.squasher = none)
    (hd : c.latches.dec0 = some d) : d.decoded.squashes = false := by
  rw [squasher_eq stall, hd] at h
  simpa using h

/-- Without an instruction in Exec1 nothing has to wait. -/
theorem stall_of_exec1_none (h : c.latches.exec1 = none) : c.stall = false := by
  rcases he : c.latches.exec0 with _ | e <;>
    simp [stall, structural, loadUse, exec0Is, exec1Is, Instruction.awaitsLoad, h, he]

theorem stall_of_exec0_none (h : c.latches.exec0 = none) : c.stall = false := by
  simp [stall, structural, loadUse, exec0Is, h]

/-- Only a load or a store makes the instruction behind it wait. -/
theorem redirect_of_stall (h : c.stall = true) : c.redirect = none := by
  rcases he : c.latches.exec1 with _ | e
  · simp [redirect, he]
  cases hb : e.isBranch
  · simp [redirect, he, hb]
  simp only [Dec1.isBranch, Bool.and_eq_true] at hb
  have hst : e.inst.opcode ≠ .st := by
    intro h
    simp [h, Opcode.isBranch] at hb
  rcases h0 : c.latches.exec0 with _ | e0 <;>
    simp [stall, structural, loadUse, exec0Is, exec1Is, Instruction.awaitsLoad, Exec1.loadDst,
      Dec1.is, he, h0, hst, opcode_of_isBranch hb.2] at h

theorem loaded_moved : (c.moved fetched).loaded = none := by
  unfold moved
  split
  · rfl
  · split <;> rfl

theorem latches_next (trap : c.trap = none) :
    (c.next fetched loaded).latches =
      match c.redirect with
      | some pc => { (c.moved fetched).flush with fetchPc := pc }
      | none => { c.moved fetched with loaded := c.delivered loaded } := by
  have hm : (c.moved fetched).loaded = none := loaded_moved
  generalize hM : c.moved fetched = m at hm
  obtain ⟨pc, f1, saved, d0, d1, e0, e1, ld⟩ := m
  simp only at hm
  subst hm
  rcases he : c.latches.exec1 with _ | e
  · simp [next, retired, redirect, delivered, loadDst, he, hM]
  rw [trap_of_exec1 he] at trap
  have hv := c.retires e loaded
  simp only [next, retired, he, Option.map_some, retire, redirect, delivered, loadDst, hM,
    Option.bind_some, Exec1.loadDst, Dec1.is, Dec1.isBranch, trap, Option.isNone_none,
    Bool.true_and]
  generalize c.effect e loaded = eff at hv
  cases hv with
  | write alu => simp [Effect.latches, opcode_of_isAlu alu]
  | load ld =>
    cases hw : e.inst.dst.isWritable <;> simp [Effect.latches, ld, hw, Opcode.isBranch]
  | store st => simp [Effect.latches, st, Opcode.isBranch]
  | copy dma => simp [Effect.latches, dma, Opcode.isBranch]
  | jump branch =>
    cases (e.inst.direction e.result e.a).contradicts e.expected <;>
      simp [Effect.latches, branch, opcode_of_isBranch branch]
  | halt hlt => simp [Effect.latches, hlt, Opcode.isBranch]

/-- What one cycle does to the latches. -/
inductive Cycled (c : Core) (fetched loaded : Word) : Latches → Prop
  /-- A branch in Exec1 went the unexpected way. Nothing is left but the address to
  fetch. -/
  | flush (pc : Addr) (redirect : c.redirect = some pc) :
      Cycled c fetched loaded ⟨pc, none, none, none, none, none, none, none⟩
  /-- Everything up to Exec0 holds. -/
  | hold (redirect : c.redirect = none) (stall : c.stall = true) :
      Cycled c fetched loaded { c.hold fetched with loaded := c.delivered loaded }
  /-- What is no branch leaves Dec0 with a taken prediction. -/
  | squash (d : Dec0) (redirect : c.redirect = none) (stall : c.stall = false)
      (squasher : c.squasher = some d) :
      Cycled c fetched loaded
        { (c.advance fetched).squash d.pc.next with loaded := c.delivered loaded }
  | advance (redirect : c.redirect = none) (stall : c.stall = false)
      (squasher : c.squasher = none) :
      Cycled c fetched loaded { c.advance fetched with loaded := c.delivered loaded }

theorem cycled (fetched loaded : Word) (trap : c.trap = none) :
    Cycled c fetched loaded (c.next fetched loaded).latches := by
  have hl : (c.moved fetched).loaded = none := loaded_moved
  rw [latches_next trap]
  rcases hr : c.redirect with _ | pc
  · simp only [moved]
    rcases hs : c.stall with _ | _
    · rcases hq : c.squasher with _ | d
      · exact .advance hr hs hq
      · exact .squash d hr hs hq
    · exact .hold hr hs
  · simp only [Latches.flush, hl]
    exact .flush pc hr

/-- What comes to Exec1 was in Exec0, and the cycle did not stall. -/
theorem exec0_of_exec1_next {e : Exec1} (trap : c.trap = none)
    (he : (c.next fetched loaded).latches.exec1 = some e) :
    c.stall = false ∧ ∃ e0, c.latches.exec0 = some e0 ∧ c.execute e0 = e := by
  have hc := cycled fetched loaded trap
  generalize (c.next fetched loaded).latches = l at hc he
  cases hc with
  | flush => cases he
  | hold => cases he
  | squash d _ stall => exact ⟨stall, Option.map_eq_some_iff.mp he⟩
  | advance _ stall => exact ⟨stall, Option.map_eq_some_iff.mp he⟩

end Core

end SixStage
