-- What one cycle can change, whatever the core holds when it starts. All stages
-- and the copy engine work on the same next core, one after the other, and yet a
-- register, an entry of the predictor, a word of the memory and a request for a copy
-- change only by what retires, and a stall keeps what it holds up.
import SixStage.Proofs.Arbitration

namespace SixStage

/-- The register that an instruction writes as it retires, and its word. `loaded` is the output
register of the data memory. -/
def Retired.writes (x : Retired) (loaded : Word) : Option (Reg × Word) :=
  if x.inst.opcode.isAlu then some (x.inst.dst, x.result)
  else if x.inst.opcode = .ld then some (x.inst.dst, loaded)
  else if x.inst.opcode.isBranch ∧ (x.inst.direction x.result x.a).taken then
    some (Reg.link, x.pc.word)
  else none

/-! ## Tables, memories and the engine -/

theorem Predictor.entry_update_of_ne (p : Predictor) {pc : Addr} (d : Direction) {i : Nat}
    (h : i ≠ pc.toNat % p.size) : (p.update pc d).entries[i]? = p.entries[i]? := by
  unfold update
  exact Array.getElem?_set_ne (p.slot pc).isLt (Ne.symm h)

namespace Sram

/-- What is scheduled to be written is among the accesses, for there is one at most. -/
theorem writeReq_issueAll {s : Sram} (idle : s.Idle) {l : List Access} (one : l.length ≤ 1)
    (p : Addr × Word) : (s.issueAll l).writeReq = some p ↔ Access.write p.1 p.2 ∈ l := by
  match l with
  | [] => simp [issueAll, idle.no_write]
  | [.read a] => simp [issueAll, issue, idle.no_write]
  | [.write a w] =>
    obtain ⟨b, v⟩ := p
    simp [issueAll, issue, eq_comm]
  | _ :: _ :: _ => simp at one

end Sram

theorem Dma.Activity.write_mem_accesses (act : Dma.Activity) (p : Addr × Word) :
    Access.write p.1 p.2 ∈ act.accesses ↔ act.write = some p := by
  obtain ⟨b, v⟩ := p
  rcases hr : act.read with _ | a <;> rcases hw : act.write with _ | ⟨a', w⟩ <;>
    simp [accesses, hr, hw, eq_comm]

namespace Dma.Block

/-- A field of the block after a step is as the step alone would leave it, or as it was
in the block that the step goes on from. -/
theorem fields_step (b next : Block) (out : Word) (conflict : Bool) :
    let after := (b.step out conflict next).1
    let own := (b.step out conflict b).1
    (after.src = own.src ∨ after.src = next.src) ∧ (after.dst = own.dst ∨ after.dst = next.dst) ∧
      (after.remaining = own.remaining ∨ after.remaining = next.remaining) := by
  unfold step
  cases b.phase <;> cases conflict <;> simp [issueRead, issueWrite, capture]
  all_goals
    split
    · split <;> simp
    · simp

theorem launch_of_not_busy {b : Block} (free : b.busy = false) (src dst len : Word) :
    (b.launch src dst len b).src = src.addr ∧ (b.launch src dst len b).dst = dst.addr ∧
      (b.launch src dst len b).remaining = len.toInt.toNat := by
  simp [launch, free]

end Dma.Block

namespace Core

variable {c : Core} {fetched loaded : Word} {x : Retired}

/-! ## What retires -/

theorem exec1_of_retired (h : c.retired loaded = some x) :
    ∃ e, c.latches.exec1 = some e ∧ c.retire e loaded = x := Option.map_eq_some_iff.mp h

theorem regs_of_writes (c : Core) (fetched loaded : Word) :
    (c.next fetched loaded).regs =
      ((c.retired loaded).bind fun x => x.writes loaded).elim c.regs
        fun p => c.regs.write p.1 p.2 := by
  rcases he : c.latches.exec1 with _ | e
  · simp [next, retired, he]
  have hv := c.retires e loaded
  simp only [next, retired, he, Option.map_some, Option.bind_some, retire, Retired.writes]
  generalize c.effect e loaded = eff at hv
  cases hv with
  | write alu => simp [Effect.registers, alu]
  | load ld => simp [Effect.registers, ld, Opcode.isAlu]
  | store st => simp [Effect.registers, st, Opcode.isAlu, Opcode.isBranch]
  | copy dma => simp [Effect.registers, dma, Opcode.isAlu, Opcode.isBranch]
  | jump branch =>
    obtain ⟨alu, ld⟩ := opcode_of_isBranch branch
    by_cases taken : (e.inst.direction e.result e.a).taken = true
    · simp [Effect.registers, branch, alu, ld, taken]
    · simp [Effect.registers, branch, alu, ld, taken]
  | halt hlt => simp [Effect.registers, hlt, Opcode.isAlu, Opcode.isBranch]

theorem storeWrite_eq_some_iff (loaded : Word) (trap : c.trap = none) (p : Addr × Word) :
    c.storeWrite = some p ↔
      ∃ x, c.retired loaded = some x ∧ x.inst.opcode = .st ∧ p = (x.result.addr, x.a) := by
  rcases he : c.latches.exec1 with _ | e
  · simp [storeWrite, retired, he]
  rw [trap_of_exec1 he] at trap
  simp only [storeWrite, retired, he, Option.bind_some, Option.map_some, Dec1.is, trap,
    Option.isNone_none, Bool.true_and, decide_eq_true_eq, Option.some.injEq, exists_eq_left',
    retire]
  by_cases st : e.inst.opcode = .st
  · simp [st, eq_comm]
  · simp [st]

theorem write_mem_dataAccesses (loaded : Word) (trap : c.trap = none) (p : Addr × Word) :
    Access.write p.1 p.2 ∈ c.dataAccesses loaded ↔
      c.storeWrite = some p ∨ (c.report loaded).dma.write = some p := by
  have hp : Access.write p.1 p.2 ∈ c.pipelineAccesses loaded ↔ c.storeWrite = some p := by
    rw [pipelineAccesses_eq, ← written_portUse]
    rcases c.portUse with _ | _ | ⟨a, w⟩
    · simp
    · simp [Access.written]
    · obtain ⟨b, v⟩ := p
      simp [Access.written, eq_comm]
  have hd : Access.write p.1 p.2 ∈ c.dmaAccesses loaded ↔
      (c.report loaded).dma.write = some p := by
    simp only [dmaAccesses, trap, Option.isSome_none, Bool.false_eq_true, if_false]
    exact Dma.Activity.write_mem_accesses _ p
  rw [dataAccesses, List.mem_append, hp, hd]

/-! ## The copy engine -/

def ownDma (c : Core) (loaded : Word) : Dma.Block :=
  (c.dma.step loaded c.dmaConflict c.dma).1

theorem dma_of_no_request (h : c.dma.busy = true ∨ c.exec1Is .dma = false) :
    (c.next fetched loaded).dma = c.ownDma loaded := by
  rw [dma_next, dmaStep, requested_of_no_launch h, ownDma]

theorem exec1Is_of_retired {o : Opcode} (h : c.exec1Is o = true) (loaded : Word) :
    ∃ x, c.retired loaded = some x ∧ x.inst.opcode = o := by
  obtain ⟨e, he, ho⟩ := (Option.any_eq_true ..).mp h
  simp only [Dec1.is, Bool.and_eq_true, decide_eq_true_eq] at ho
  exact ⟨c.retire e loaded, by simp [retired, he], ho.2⟩

/-- A request that a free engine gets meets the step of the engine alone, and neither
undoes more of the other than a field. -/
theorem dma_of_request (trap : c.trap = none) (h : c.retired loaded = some x)
    (dma : x.inst.opcode = .dma) (free : c.dma.busy = false) :
    let after := (c.next fetched loaded).dma
    let own := c.ownDma loaded
    (after.src = own.src ∨ after.src = x.a.addr) ∧
      (after.dst = own.dst ∨ after.dst = x.result.addr) ∧
      (after.remaining = own.remaining ∨ after.remaining = x.b.toInt.toNat) ∧
      (c.dma.phase = .idle → after.src = x.a.addr ∧ after.dst = x.result.addr ∧
        after.remaining = x.b.toInt.toNat) := by
  intro after own
  obtain ⟨e, he, rfl⟩ := exec1_of_retired h
  rw [trap_of_exec1 he] at trap
  -- The step goes on from the block with the request in it.
  have dma : e.inst.opcode = .dma := dma
  have hr : c.requested = c.dma.launch e.a e.result e.b c.dma := by
    simp [requested, he, Dec1.is, trap, dma]
  have ha : after = (c.dma.step loaded c.dmaConflict c.requested).1 := c.dma_next ..
  obtain ⟨src, dst, remaining⟩ :=
    Dma.Block.fields_step c.dma c.requested loaded c.dmaConflict
  obtain ⟨hsrc, hdst, hrem⟩ := Dma.Block.launch_of_not_busy free e.a e.result e.b
  rw [← hr] at hsrc hdst hrem
  rw [← ha, hsrc] at src
  rw [← ha, hdst] at dst
  rw [← ha, hrem] at remaining
  refine ⟨src, dst, remaining, fun rests => ?_⟩
  have hs : after = c.requested := by simp [ha, Dma.Block.step, rests, free]
  rw [hs]
  exact ⟨hsrc, hdst, hrem⟩

/-! ## The latches -/

/-- A stall keeps all but the operands in Exec0, which it may bypass. -/
theorem latches_of_stall (trap : c.trap = none) (stall : c.stall = true) :
    let l := (c.next fetched loaded).latches
    l.fetchPc = c.latches.fetchPc ∧ l.fetch1 = c.latches.fetch1 ∧ l.dec0 = c.latches.dec0 ∧
      l.dec1 = c.latches.dec1 ∧
      l.exec0.map Exec0.toDec1 = c.latches.exec0.map Exec0.toDec1 ∧ l.exec1 = none := by
  intro l
  have hc := cycled fetched loaded trap
  change Cycled c fetched loaded l at hc
  generalize l = l at hc
  cases hc with
  | flush pc redirect =>
    rw [redirect_of_stall stall] at redirect
    cases redirect
  | hold redirect _ =>
    refine ⟨rfl, rfl, rfl, rfl, ?_, rfl⟩
    rcases he : c.latches.exec0 with _ | e
    · simp [hold, he]
    · simp [hold, he, wait]
  | squash d _ running => cases running.symm.trans stall
  | advance _ running => cases running.symm.trans stall

theorem loaded_next (trap : c.trap = none) :
    (c.next fetched loaded).latches.loaded = c.delivered loaded := by
  have hc := cycled fetched loaded trap
  generalize (c.next fetched loaded).latches = l at hc
  cases hc with
  | flush pc redirect =>
    rcases he : c.latches.exec1 with _ | e
    · simp [delivered, loadDst, he]
    · have hb := isBranch_of_redirect redirect he
      simp only [Dec1.isBranch, Bool.and_eq_true] at hb
      simp [delivered, loadDst, he, Exec1.loadDst, Dec1.is, opcode_of_isBranch hb.2]
  | hold => rfl
  | squash => rfl
  | advance => rfl

theorem delivered_eq_some_iff (trap : c.trap = none) (l : Loaded) :
    c.delivered loaded = some l ↔
      ∃ x, c.retired loaded = some x ∧ x.inst.opcode = .ld ∧ x.inst.dst.isWritable = true ∧
        l = ⟨x.inst.dst, loaded⟩ := by
  rcases he : c.latches.exec1 with _ | e
  · simp [delivered, loadDst, retired, he]
  rw [trap_of_exec1 he] at trap
  simp only [delivered, loadDst, retired, he, Option.bind_some, Option.map_some,
    Option.some.injEq, exists_eq_left', retire, Exec1.loadDst, Dec1.is, trap, Option.isNone_none,
    Bool.true_and, decide_eq_true_eq]
  by_cases h : e.inst.opcode = .ld ∧ e.inst.dst.isWritable = true
  · simp [h.1, h.2, eq_comm]
  · rw [if_neg h]
    simp only [Option.map_none, reduceCtorEq, false_iff]
    rintro ⟨ld, writable, _⟩
    exact h ⟨ld, writable⟩

end Core

/-! ## The frame of a cycle -/

/-- What a cycle may change, of the core and of what is scheduled on the data memory. -/
structure Board.Confined (b : Board) (next : Core) (report : Report) : Prop where
  fixed : ∀ q : Reg, q = Reg.zero ∨ q = Reg.imm → next.regs.cell q = b.core.regs.cell q
  one : ∀ p q : Reg, next.regs.cell p ≠ b.core.regs.cell p →
    next.regs.cell q ≠ b.core.regs.cell q → p = q
  /-- A register that changes is written by what retires, and gets its word. -/
  changed : ∀ q : Reg, next.regs.cell q ≠ b.core.regs.cell q → ∃ x, report.retired = some x ∧
    x.writes b.dmem.out = some (q, next.regs.cell q)
  written : ∀ x q w, report.retired = some x → x.writes b.dmem.out = some (q, w) →
    q.isWritable = true → next.regs.cell q = w
  predictor_size : next.predictor.size = b.core.predictor.size
  /-- An entry of the predictor changes only as a branch retires that falls on it. -/
  predictor : ∀ i : Nat, next.predictor.entries[i]? ≠ b.core.predictor.entries[i]? →
    ∃ x, report.retired = some x ∧ x.inst.opcode.isBranch = true ∧
      i = x.pc.toNat % b.core.predictor.size
  /-- A write is scheduled by the store that retires, or by the engine. -/
  store : ∀ p, b.schedule.dmem.writeReq = some p ↔
    (∃ x, report.retired = some x ∧ x.inst.opcode = .st ∧ p = (x.result.addr, x.a)) ∨
      report.dma.write = some p
  own : b.core.dma.busy = true ∨ (∀ x, report.retired = some x → x.inst.opcode ≠ .dma) →
    next.dma = b.core.ownDma b.dmem.out
  /-- A request to an engine that is not busy sets what the engine's own step does not. -/
  request : ∀ x, report.retired = some x → x.inst.opcode = .dma → b.core.dma.busy = false →
    (next.dma.src = (b.core.ownDma b.dmem.out).src ∨ next.dma.src = x.a.addr) ∧
    (next.dma.dst = (b.core.ownDma b.dmem.out).dst ∨ next.dma.dst = x.result.addr) ∧
    (next.dma.remaining = (b.core.ownDma b.dmem.out).remaining ∨
      next.dma.remaining = x.b.toInt.toNat) ∧
    (b.core.dma.phase = .idle → next.dma.src = x.a.addr ∧ next.dma.dst = x.result.addr ∧
      next.dma.remaining = x.b.toInt.toNat)
  /-- A stall keeps what it holds up, and lets nothing come to Exec1. -/
  stall : report.signals.stall = true →
    next.latches.fetchPc = b.core.latches.fetchPc ∧
    next.latches.fetch1 = b.core.latches.fetch1 ∧ next.latches.dec0 = b.core.latches.dec0 ∧
    next.latches.dec1 = b.core.latches.dec1 ∧
    next.latches.exec0.map Exec0.toDec1 = b.core.latches.exec0.map Exec0.toDec1 ∧
    next.latches.exec1 = none
  /-- The word of a load goes on offer exactly if it is written to a register. -/
  loaded : ∀ l, next.latches.loaded = some l ↔
    ∃ x, report.retired = some x ∧ x.inst.opcode = .ld ∧ x.inst.dst.isWritable = true ∧
      l = ⟨x.inst.dst, b.dmem.out⟩

namespace Board

variable {b : Board} {next : Core} {report : Report}

theorem eq_of_clock (h : b.clock = .ok (next, report)) :
    b.core.trap = none ∧ next = b.core.next b.imem.out b.dmem.out ∧ report = b.report := by
  rcases trap : b.core.trap with _ | t
  · rw [clock_of_no_trap trap] at h
    cases h
    exact ⟨rfl, rfl, rfl⟩
  · rw [clock_of_trap trap] at h
    cases h

theorem cell_of_clock (h : b.clock = .ok (next, report)) (q : Reg) :
    next.regs.cell q = (report.retired.bind fun x => x.writes b.dmem.out).elim
      (b.core.regs.cell q)
      fun p => if p.1 = q ∧ p.1.isWritable = true then p.2 else b.core.regs.cell q := by
  obtain ⟨trap, rfl, rfl⟩ := eq_of_clock h
  rw [Core.regs_of_writes]
  change _ = ((b.core.retired b.dmem.out).bind _).elim _ _
  rcases (b.core.retired b.dmem.out).bind fun x => x.writes b.dmem.out with _ | p
  · rfl
  · exact RegFile.cell_write ..

theorem writes_of_changed (h : b.clock = .ok (next, report)) {q : Reg}
    (changed : next.regs.cell q ≠ b.core.regs.cell q) :
    q.isWritable = true ∧
      (report.retired.bind fun x => x.writes b.dmem.out) = some (q, next.regs.cell q) := by
  have hq := cell_of_clock h q
  rcases hw : report.retired.bind fun x => x.writes b.dmem.out with _ | ⟨r, w⟩
  · rw [hw] at hq
    exact absurd hq changed
  · simp only [hw, Option.elim_some] at hq
    by_cases hr : r = q ∧ r.isWritable = true
    · rw [if_pos hr] at hq
      obtain ⟨rfl, writable⟩ := hr
      exact ⟨writable, by rw [hq]⟩
    · rw [if_neg hr] at hq
      exact absurd hq changed

theorem entry_of_clock (h : b.clock = .ok (next, report)) :
    next.predictor.size = b.core.predictor.size ∧
    ∀ i : Nat, next.predictor.entries[i]? ≠ b.core.predictor.entries[i]? →
      ∃ x, report.retired = some x ∧ x.inst.opcode.isBranch = true ∧
        i = x.pc.toNat % b.core.predictor.size := by
  obtain ⟨trap, rfl, rfl⟩ := eq_of_clock h
  rw [Core.predictor_next]
  rcases hx : b.core.retired b.dmem.out with _ | x
  · exact ⟨rfl, fun i changed => absurd rfl changed⟩
  by_cases hb : x.inst.opcode.isBranch = true
  · have ho : x.outcome = some (x.pc, x.inst.direction x.result x.a) := by
      simp [Retired.outcome, hb]
    rw [Option.bind_some, ho, Option.elim_some]
    refine ⟨Predictor.size_update .., fun i changed => ⟨x, hx, hb, ?_⟩⟩
    refine Decidable.byContradiction fun hi => ?_
    exact changed (Predictor.entry_update_of_ne _ _ hi)
  · have ho : x.outcome = none := by simp [Retired.outcome, hb]
    rw [Option.bind_some, ho, Option.elim_none]
    exact ⟨rfl, fun i changed => absurd rfl changed⟩

end Board

/-- A cycle changes what it should and nothing else, whatever the core holds. -/
theorem one_cycle_is_confined (b : Board) (idle : b.Idle) (next : Core) (report : Report)
    (h : b.clock = .ok (next, report)) : b.Confined next report := by
  have hcell := Board.cell_of_clock h
  have hchanged : ∀ {q : Reg}, next.regs.cell q ≠ b.core.regs.cell q → _ :=
    fun {q} => Board.writes_of_changed h (q := q)
  obtain ⟨hsize, hentry⟩ := Board.entry_of_clock h
  obtain ⟨trap, hnext, hreport⟩ := Board.eq_of_clock h
  have hret : report.retired = b.core.retired b.dmem.out := by rw [hreport]; rfl
  constructor
  case fixed =>
    intro q hq
    refine Decidable.byContradiction fun changed => ?_
    have writable := (hchanged changed).1
    rcases hq with rfl | rfl <;> cases writable
  case one =>
    intro p q hp hq
    have hpq := (hchanged hp).2.symm.trans (hchanged hq).2
    exact (Prod.mk.inj (Option.some.inj hpq)).1
  case changed => exact fun q hq => Option.bind_eq_some_iff.mp (hchanged hq).2
  case written =>
    intro x q w hx hw writable
    rw [hcell q, hx, Option.bind_some, hw, Option.elim_some, if_pos ⟨rfl, writable⟩]
  case predictor_size => exact hsize
  case predictor => exact hentry
  case store =>
    intro p
    have hs := Sram.writeReq_issueAll idle.dmem (b.core.length_dataAccesses b.dmem.out) p
    rw [Core.write_mem_dataAccesses b.dmem.out trap,
      Core.storeWrite_eq_some_iff b.dmem.out trap] at hs
    rw [hret, hreport]
    exact hs
  case own =>
    intro alone
    rw [hnext]
    refine Core.dma_of_no_request (alone.imp_right fun none => ?_)
    rw [Bool.eq_false_iff]
    intro dma
    obtain ⟨x, hx, ho⟩ := Core.exec1Is_of_retired dma b.dmem.out
    exact none x (hret.trans hx) ho
  case request =>
    intro x hx dma free
    rw [hnext]
    exact Core.dma_of_request trap (hret.symm.trans hx) dma free
  case stall =>
    intro stall
    rw [hnext]
    rw [hreport] at stall
    exact Core.latches_of_stall trap stall
  case loaded =>
    intro l
    rw [hnext, hret, Core.loaded_next trap]
    exact Core.delivered_eq_some_iff trap l

/-- A load into `r2` is in Exec1, and the instruction that reads `r2` is in Exec0. The load is
written and goes on offer, and the rest of the pipeline waits. -/
theorem stalled_load_is_confined :
    let b := (Setup.small [0x10810007, 0x00d10001, 0x12190002, 0x30000000]).board 5
    ∃ next report, b.clock = .ok (next, report) ∧ report.signals.stall = true ∧
      next.regs.cell 2 = 8 ∧ (∀ q : Reg, q ≠ 2 → next.regs.cell q = b.core.regs.cell q) ∧
      next.latches.fetchPc = b.core.latches.fetchPc ∧ next.latches.exec1 = none ∧
      next.latches.loaded = some ⟨2, 8⟩ ∧ next.dma = b.core.ownDma b.dmem.out := by
  intro b
  have idle : b.Idle := Setup.idle_board _ 5
  have trap : b.core.trap = none := by decide +kernel
  have h := Board.clock_of_no_trap trap
  have confined := one_cycle_is_confined b idle _ _ h
  obtain ⟨x, hx, hv⟩ := Option.map_eq_some_iff.mp
    (show b.report.retired.map (fun x => (x.inst.opcode, x.inst.dst)) = some (.ld, 2) by
      decide +kernel)
  obtain ⟨ld, dst⟩ := Prod.mk.inj hv
  have out : b.dmem.out = 8 := by decide +kernel
  have word : (b.core.next b.imem.out b.dmem.out).regs.cell 2 = 8 := by
    refine confined.written x 2 8 hx ?_ rfl
    simp [Retired.writes, ld, Opcode.isAlu, dst, out]
  have stall : b.report.signals.stall = true := by decide +kernel
  obtain ⟨fetchPc, _, _, _, _, exec1⟩ := confined.stall stall
  refine ⟨_, _, h, stall, word, fun q hq => ?_, fetchPc, exec1, ?_, ?_⟩
  · refine Decidable.byContradiction fun changed => hq ?_
    refine confined.one q 2 changed ?_
    rw [word]
    decide +kernel
  · refine (confined.loaded ⟨2, 8⟩).mpr ⟨x, hx, ld, ?_, ?_⟩
    · rw [dst]
      rfl
    · rw [dst, out]
  · refine confined.own (.inr fun y hy => ?_)
    obtain rfl := Option.some.inj (hx.symm.trans hy)
    rw [ld]
    decide

end SixStage
