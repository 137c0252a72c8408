-- The pipeline runs the program in order. What has retired is what the machine
-- without a pipeline executes from reset, one instruction at a time, with the
-- same operands and results, and between cycles both have the same registers.
import SixStage.Proofs.Bypass
import SixStage.Proofs.Course
import SixStage.Proofs.FetchPath

namespace SixStage

/-! ## The record of an instruction -/

/-- What a retired instruction asked for. -/
def Retired.action (x : Retired) : Action :=
  match x.effect with
  | .reg dst value => .write dst value
  | .load dst addr _ => .load dst addr
  | .store addr word => .store addr word
  | .dma _ => .copy x.a x.result x.b
  | .branch direction _ => .jump direction
  | .halt => .halt

namespace Sequential

/-- The machine executes one instruction, and `x` is its record. -/
structure Executes (code : Addr → Word) (e : Surroundings) (s : Sequential) (x : Retired)
    (s' : Sequential) : Prop where
  pc : x.pc = s.pc
  word : x.word = code s.pc
  inst : Instruction.decode x.word = .ok x.inst
  a : x.a = x.inst.valueA s.regs
  b : x.b = x.inst.valueB s.regs
  result : x.result = x.inst.resultOf s.regs e.dmaFree
  load : x.effect.LoadsFrom e.data
  step : step code e s = .ok (s', x.action)

theorem action_of_executes {code : Addr → Word} {e : Surroundings} {s s' : Sequential}
    {x : Retired} (h : Executes code e s x s') :
    s.after e.data x.action = s' ∧ x.inst.action s.regs e.dmaFree = x.action := by
  have hd : Instruction.decode (code s.pc) = .ok x.inst := by
    rw [← h.word]
    exact h.inst
  have hs := h.step
  simp only [step, hd, Except.ok.injEq, Prod.mk.injEq] at hs
  obtain ⟨after, action⟩ := hs
  exact ⟨action ▸ after, action⟩

/-- The machine executes instructions one after the other, none of them behind a HLT. -/
inductive Runs (code : Addr → Word) :
    Sequential → List (Surroundings × Retired) → Sequential → Prop
  | done (s : Sequential) : Runs code s [] s
  | more {s s' s'' : Sequential} {l : List (Surroundings × Retired)} {e : Surroundings}
      {x : Retired} (first : Runs code s l s') (running : ∀ p ∈ l, p.2.effect ≠ .halt)
      (last : Executes code e s' x s'') : Runs code s (l ++ [(e, x)]) s''

end Sequential

/-! ## One cycle -/

theorem Instruction.action_of_isAlu {i : Instruction} (h : i.opcode.isAlu = true)
    (regs : RegFile) (free : Bool) :
    i.action regs free = .write i.dst (i.resultOf regs free) := by
  unfold action
  cases ho : i.opcode <;> simp [ho, Opcode.isAlu] at h ⊢

theorem Instruction.action_of_isBranch {i : Instruction} (h : i.opcode.isBranch = true)
    (regs : RegFile) (free : Bool) :
    i.action regs free = .jump (i.direction (i.resultOf regs free) (i.valueA regs)) := by
  unfold action
  cases ho : i.opcode <;> simp [ho, Opcode.isBranch] at h ⊢

theorem Direction.nextPc_of_not_contradicts {d expected : Direction}
    (h : d.contradicts expected = false) (pc : Addr) : expected.nextPc pc = d.nextPc pc := by
  simp only [contradicts, ne_eq, decide_eq_false_iff_not, not_or, not_and, Decidable.not_not] at h
  obtain ⟨ht, hp⟩ := h
  simp only [nextPc, ← ht]
  split
  · next h => exact (hp h).symm
  · rfl

namespace Core

variable {c : Core} {loaded : Word} {pc : Addr}

theorem oldest_of_exec1 {e : Exec1} (trap : e.trap = none) (he : c.latches.exec1 = some e) :
    c.oldest pc =
      if e.inst.opcode.isBranch then (e.inst.direction e.result e.a).nextPc e.pc
      else e.pc.next := by
  simp only [oldest, redirect, he, Option.bind_some, Option.elim_some, Dec1.hop, Dec1.isBranch,
    trap, Option.isNone_none, Bool.true_and]
  cases hb : e.inst.opcode.isBranch
  · simp
  · cases hc : (e.inst.direction e.result e.a).contradicts e.expected
    · simp [Direction.nextPc_of_not_contradicts hc]
    · simp

theorem oldest_of_exec1_none (he : c.latches.exec1 = none) : c.oldest pc = pc := by
  simp [oldest, redirect, he]

theorem action_retire {e : Exec1} {regs : RegFile} {free : Bool} (ha : e.a = e.inst.valueA regs)
    (hb : e.b = e.inst.valueB regs) (hr : e.result = e.inst.resultOf regs free) :
    (c.retire e loaded).action = e.inst.action regs free := by
  have hv := c.retires e loaded
  simp only [retire, Retired.action]
  generalize c.effect e loaded = eff at hv
  cases hv with
  | write alu => rw [Instruction.action_of_isAlu alu, ← hr]
  | load ld => simp only [Instruction.action, ld, ← hr]
  | store st => simp only [Instruction.action, st, ← hr, ← ha]
  | copy dma => simp only [Instruction.action, dma, ← hr, ← ha, ← hb]
  | jump branch => rw [Instruction.action_of_isBranch branch, ← hr, ← ha]
  | halt hlt => simp only [Instruction.action, hlt]

theorem after_retire (pc : Addr) {e : Exec1} {data : Addr → Word} (trap : e.trap = none)
    (he : c.latches.exec1 = some e) (load : (c.effect e loaded).LoadsFrom data) :
    Sequential.after ⟨e.pc, c.regs⟩ data (c.retire e loaded).action =
      ⟨c.oldest pc, (c.effect e loaded).registers e.pc c.regs⟩ := by
  rw [oldest_of_exec1 trap he]
  have hv := c.retires e loaded
  simp only [retire, Retired.action]
  generalize c.effect e loaded = eff at hv load
  cases hv with
  | write alu =>
    rw [(opcode_of_isAlu alu).1]
    rfl
  | load ld =>
    simp only [Effect.LoadsFrom] at load
    simp [Sequential.after, Effect.registers, ld, Opcode.isBranch, load]
  | store st => simp [Sequential.after, Effect.registers, st, Opcode.isBranch]
  | copy dma => simp [Sequential.after, Effect.registers, dma, Opcode.isBranch]
  | jump branch =>
    rw [branch]
    rfl
  | halt hlt => simp [Sequential.after, Effect.registers, hlt, Opcode.isBranch]

end Core

namespace Board

variable {b : Board} {code : Addr → Word} {free : Bool} {s : Sequential} {pc : Addr}

theorem regs_next_of_exec1_none (he : b.core.latches.exec1 = none) :
    b.next.core.regs = b.core.regs := by
  simp [next, commit, Core.next, Core.retired, he]

theorem pc_of_exec1 {e : Exec1} (path : Linked pc b.core.latches.path b.core.latches.fetchPc)
    (he : b.core.latches.exec1 = some e) : pc = e.pc := by
  simp only [Latches.path, he, Option.map_some, Option.toList_some, List.singleton_append] at path
  exact path.1

/-- The board stands where the machine without a pipeline does: it has the registers, and what is
in flight is what the machine executes next, with the operands that it has then. `free` is
what a DMP in Exec1 was told of the copy engine. -/
structure Holds (code : Addr → Word) (free : Bool) (s : Sequential) (b : Board) : Prop where
  idle : b.Idle
  path : Linked s.pc b.core.latches.path b.core.latches.fetchPc
  regs : b.core.regs = s.regs
  faithful : b.Faithful code
  fresh : b.core.Fresh free
  served : b.Served

theorem holds_next (h : b.Holds code free s) (trap : b.core.trap = none) :
    b.next.Holds code b.core.dmaFree ⟨b.core.oldest s.pc, b.next.core.regs⟩ := by
  constructor
  case idle => exact idle_next b
  case path => exact Core.linked_next trap h.path
  case regs => rfl
  case faithful => exact faithful_next h.idle.imem trap h.faithful
  case fresh => exact Core.fresh_next trap h.fresh
  case served => exact served_next trap h.idle.dmem

theorem holds_next_of_exec1_none (h : b.Holds code free s) (he : b.core.latches.exec1 = none) :
    b.next.Holds code b.core.dmaFree s := by
  have next := holds_next h (by simp [Core.trap, he])
  rwa [Core.oldest_of_exec1_none he, regs_next_of_exec1_none he, h.regs] at next

/-- What is in Exec1 is the next instruction of the machine, and retiring it is
executing it. -/
theorem executes_of_exec1 {e : Exec1} (h : b.Holds code free s) (trap : b.core.trap = none)
    (he : b.core.latches.exec1 = some e) :
    Sequential.Executes code ⟨b.dmem.peek, free⟩ s (b.core.retire e b.dmem.out)
      ⟨b.core.oldest s.pc, b.next.core.regs⟩ := by
  obtain ⟨pc, regs⟩ := s
  obtain rfl : b.core.regs = regs := h.regs
  rw [Core.trap_of_exec1 he] at trap
  obtain rfl : pc = e.pc := pc_of_exec1 h.path he
  -- The record has the word of the program, decoded, and the operands of the registers.
  have genuine := h.faithful.exec1 e he
  have hword := genuine.word
  have hinst : Instruction.decode e.word = .ok e.inst := by
    rcases decode_of_genuine genuine with ⟨hinst, _⟩ | ⟨_, _, fault⟩
    · exact hinst
    · cases trap.symm.trans fault
  have ha := h.fresh.exec1_a e he
  have hb := h.fresh.exec1_b e he
  have hr := h.fresh.exec1_result e he trap
  have hload := loadsFrom_of_served h.served trap he
  have hregs : b.next.core.regs =
      (b.core.effect e b.dmem.out).registers e.pc b.core.regs := by
    simp [next, commit, Core.next, Core.retired, he, Core.retire]
  refine ⟨rfl, hword, hinst, ha, hb, hr, hload, ?_⟩
  have hafter := Core.after_retire e.pc trap he hload
  rw [Core.action_retire ha hb hr] at hafter ⊢
  simp only [Sequential.step, ← hword, hinst, hafter, hregs]

theorem faults_of_exec1 {t : Trap}
    (path : Linked pc b.core.latches.path b.core.latches.fetchPc) (faithful : b.Faithful code)
    (trap : b.core.trap = some t) (env : Surroundings) (regs : RegFile) :
    Sequential.step code env ⟨pc, regs⟩ = .error t := by
  obtain ⟨e, he, ht⟩ := Option.bind_eq_some_iff.mp trap
  obtain rfl := pc_of_exec1 path he
  have genuine := faithful.exec1 e he
  rcases decode_of_genuine genuine with ⟨_, legal⟩ | ⟨c, hd, fault⟩
  · cases ht.symm.trans legal
  · obtain rfl := Option.some.inj (fault.symm.trans ht)
    rw [genuine.word] at hd ⊢
    simp only [Sequential.step, hd]

end Board

/-! ## Runs -/

namespace Setup

variable {s : Setup} {n : Nat}

/-- What the instruction that retires in tick `n` finds outside: the data memory as the
tick starts, and of the copy engine what was to be seen a cycle before, when the instruction
left Exec0. -/
def surroundings (s : Setup) (n : Nat) : Surroundings :=
  ⟨(s.board n).dmem.peek, (s.board (n - 1)).core.dmaFree⟩

/-- What has retired in the first `n` ticks, the first instruction first. -/
def retirements (s : Setup) (n : Nat) : List (Surroundings × Retired) :=
  (List.range n).filterMap fun k => (s.retired k).map fun x => (s.surroundings k, x)

theorem retirements_succ (s : Setup) (n : Nat) :
    s.retirements (n + 1) =
      s.retirements n ++ ((s.retired n).map fun x => (s.surroundings n, x)).toList :=
  filterMap_range_succ ..

theorem fresh_board (traced : s.Traced n) (goes : s.Goes n) :
    (s.board n).core.Fresh (s.surroundings n).dmaFree := by
  induction n with
  | zero => constructor <;> exact fun _ h => by cases h
  | succ n ih =>
    have hg := reaches_of_goes traced goes n (Nat.lt_succ_self n)
    have h := ih (traced.mono (Nat.le_succ n)) hg
    rw [(turn_of_goes traced hg).1]
    exact Core.fresh_next hg.no_trap h

theorem running_of_goes (traced : s.Traced n) (goes : s.Goes n) :
    ∀ p ∈ s.retirements n, p.2.effect ≠ .halt := by
  induction n with
  | zero => exact fun p hp => by cases hp
  | succ n ih =>
    have hg := reaches_of_goes traced goes n (Nat.lt_succ_self n)
    obtain ⟨_, hr, hh⟩ := turn_of_goes traced hg
    intro p hp
    rw [retirements_succ, List.mem_append] at hp
    rcases hp with hp | hp
    · exact ih (traced.mono (Nat.le_succ n)) hg p hp
    · rw [Option.mem_toList, Option.map_eq_some_iff] at hp
      obtain ⟨x, hx, rfl⟩ := hp
      intro halt
      rw [retired, hr] at hx
      simp only at halt
      have := hh.symm.trans goes.running
      simp [Report.halts, Report.haltPc, hx, halt] at this

/-- The pipeline is in step with the machine: the records in flight start at the address
of the machine, which has executed what has retired. -/
theorem runs_in_step (traced : s.Traced n) :
    ∃ pc, Sequential.Runs s.code .reset (s.retirements n) ⟨pc, (s.board n).core.regs⟩ ∧
      Linked pc (s.board n).core.latches.path (s.board n).core.latches.fetchPc := by
  induction n with
  | zero => exact ⟨0, .done _, rfl⟩
  | succ n ih =>
    have traced' := traced.mono (Nat.le_succ n)
    obtain ⟨pc, hruns, hpath⟩ := ih traced'
    by_cases goes : s.Goes n
    · obtain ⟨hb, hr, _⟩ := turn_of_goes traced goes
      refine ⟨(s.board n).core.oldest pc, ?_, ?_⟩
      · rw [retirements_succ, hb, retired, hr, Board.report, Core.report, Core.retired]
        -- With nothing in Exec1 the path alone goes on, and the machine stays where it is.
        rcases he : (s.board n).core.latches.exec1 with _ | e
        · rw [Core.oldest_of_exec1_none he, Board.regs_next_of_exec1_none he]
          simpa using hruns
        · have holds : (s.board n).Holds s.code _ ⟨pc, (s.board n).core.regs⟩ :=
            ⟨s.idle_board n, hpath, rfl, s.faithful_board n, fresh_board traced' goes,
              s.served_board n⟩
          exact .more hruns (running_of_goes traced' goes)
            (Board.executes_of_exec1 holds goes.no_trap he)
      · rw [hb]
        exact Core.linked_next goes.no_trap hpath
    · obtain ⟨hb, hr, _⟩ := turn_of_not_goes goes
      refine ⟨pc, ?_, by rw [hb]; exact hpath⟩
      rw [retirements_succ, hb, retired, hr]
      simpa [Report.quiet] using hruns

/-- What the pipeline has retired after any number of ticks is what the machine without
one executes, in its order and with its operands and results, and the registers are those
of that machine. A tick that fails with an illegal instruction fails with the one that
the machine meets next. The data memory that loads read changes by the stores that
retire and by the copy engine only. -/
theorem pipeline_runs_the_program_in_order (s : Setup) (n : Nat) (traced : s.Traced n) :
    (∃ pc, Sequential.Runs s.code .reset (s.retirements n) ⟨pc, (s.board n).core.regs⟩ ∧
      ∀ t, (s.machine n).tick.2 = .error (.illegalOpcode t) →
        ∀ e, Sequential.step s.code e ⟨pc, (s.board n).core.regs⟩ = .error t) ∧
    ∀ k < n, (s.board (k + 1)).dmem.words =
      ((s.board k).dmem.writeAll (s.report k).writes).words := by
  obtain ⟨pc, hruns, hpath⟩ := runs_in_step traced
  refine ⟨⟨pc, hruns, fun t ht e => ?_⟩, fun k hk =>
    Course.words_step (s.idle_board k) (step_of_traced (traced.mono hk))⟩
  exact Board.faults_of_exec1 hpath (s.faithful_board n) (Machine.trap_of_fault ht).2 e _

/-- A load, the use of its word, a store, a taken JIN, a DMP and HLT retire in order in
spite of a stall, a flush and a wrong fetch. -/
theorem small_run_is_in_order :
    let s := small [0x10810007, 0x00d10001, 0x12190002, 0x28080005, 0x30000000, 0x17000000,
      0x30000000]
    s.Traced 20 ∧ (s.retirements 20).map (fun p => p.2.pc) = [0, 1, 2, 3, 5, 6] ∧
      (∃ pc, Sequential.Runs s.code .reset (s.retirements 20) ⟨pc, (s.board 20).core.regs⟩) ∧
      (s.board 20).core.regs.toList = [0, 0, 8, 9, 1, 0, 0, 3] := by
  intro s
  have traced : s.Traced 20 := by decide +kernel
  obtain ⟨⟨pc, hruns, _⟩, _⟩ := pipeline_runs_the_program_in_order s 20 traced
  exact ⟨traced, by decide +kernel, ⟨pc, hruns⟩, by decide +kernel⟩

end Setup

end SixStage
