-- The predictor and the results of a program. Two machines may expect anything of
-- their branches, fetch down wrong paths, squash, flush and be delayed. As long as
-- no request for a copy retires, both track the machine without a pipeline, so they
-- retire the same instructions and end in the same way.
import SixStage.Proofs.RetirementTiming
import SixStage.Proofs.Solo
import SixStage.Proofs.Tracing

namespace SixStage

theorem Retired.isHalt_settled (x : Retired) : x.settled.isHalt = x.isHalt := by
  rcases hx : x.effect with _ | _ | _ | _ | _ | _ <;>
    simp [isHalt, settled, Effect.settled, hx]

theorem any_isHalt_settled (l : List Retired) :
    (l.map Retired.settled).any Retired.isHalt = l.any Retired.isHalt := by
  rw [List.any_map]
  exact congrArg l.any (funext Retired.isHalt_settled)

theorem Report.halts_eq (r : Report) : r.halts = r.retired.any Retired.isHalt := by
  rcases hr : r.retired with _ | x
  · simp [halts, haltPc, hr]
  · simp only [halts, haltPc, hr, Option.any_some, Retired.isHalt]
    split <;> simp [*]

namespace Machine

variable {m : Machine} {n : Nat} {code : Addr → Word} {s : Solo}

/-- What has retired in the first `n` ticks, the first instruction first. -/
def retirements (m : Machine) (n : Nat) : List Retired := (m.history n).filterMap Report.retired

/-- No request for a copy has retired in the first `n` ticks. -/
def Alone (m : Machine) (n : Nat) : Prop := ∀ x ∈ m.retirements n, x.inst.opcode ≠ .dma

theorem retired_snoc (h : List Report) (r : Report) :
    (h ++ [r]).filterMap Report.retired = h.filterMap Report.retired ++ r.retired.toList := by
  rw [List.filterMap_append]
  cases hr : r.retired <;> simp [hr]

theorem retirements_of_commits (h : (m.after n).commits = true) :
    m.retirements (n + 1) = m.retirements n ++ (m.after n).board.report.retired.toList := by
  rw [retirements, history_succ, if_pos h]
  exact retired_snoc ..

theorem retirements_of_not_commits (h : (m.after n).commits = false) :
    m.retirements (n + 1) = m.retirements n := by
  simp [retirements, history_succ, h]

/-- After the instructions `l`, a board is in step with the machine without a pipeline that
has come from `s` to `t`. -/
structure Follows (code : Addr → Word) (s : Solo) (b : Board) (halted : Bool) (l : List Retired)
    (t : Solo) : Prop where
  run : s.run code l.length = some (l.map Retired.settled, t)
  tracks : b.Tracks code t
  halted : halted = l.any Retired.isHalt

theorem follows_next {b : Board} {l : List Retired} {t : Solo} (h : Follows code s b false l t)
    (trap : b.core.trap = none) (alone : ∀ x ∈ b.report.retired, x.inst.opcode ≠ .dma) :
    ∃ t', Follows code s b.next b.report.halts (l ++ b.report.retired.toList) t' := by
  rw [Report.halts_eq]
  rcases he : b.core.latches.exec1 with _ | e
  · rw [Board.retired_of_exec1_none he, Option.toList_none, List.append_nil]
    exact ⟨t, h.run, (Board.tracks_next_of_exec1_none h.tracks he).2, h.halted⟩
  · rw [Board.retired_of_exec1 he] at alone ⊢
    obtain ⟨t', hs, tracks⟩ := Board.tracks_next_of_exec1 h.tracks trap he (alone _ rfl)
    generalize b.core.retire e b.dmem.out = x at hs
    rw [Option.toList_some]
    refine ⟨t', ?_, tracks, ?_⟩
    · rw [List.length_append, List.map_append]
      exact Solo.run_succ h.run ((any_isHalt_settled l).trans h.halted.symm) hs
    · simp [← h.halted]

theorem follows_after (start : m.board.Tracks code s) (running : m.halted = false) {n : Nat}
    (alone : m.Alone n) :
    ∃ t, Follows code s (m.after n).board (m.after n).halted (m.retirements n) t := by
  refine holds_after (m := m) (P := fun b _ halted h =>
    (∀ x ∈ h.filterMap Report.retired, x.inst.opcode ≠ .dma) →
      ∃ t, Follows code s b halted (h.filterMap Report.retired) t) start.idle ?_ ?_ n alone
  · exact fun _ => ⟨s, rfl, start, running⟩
  · intro n _ trap ih alone
    rw [retired_snoc] at alone ⊢
    obtain ⟨t, follows⟩ := ih fun x hx => alone x (List.mem_append_left _ hx)
    exact follows_next follows trap fun x hx =>
      alone x (List.mem_append_right _ (Option.mem_toList.mpr hx))

/-! ## Progress -/

theorem faults_tick (m : Machine) : m.tick.1.tracer.faults ≤ m.tracer.faults := by
  refine tracer_tick (P := fun t => t.faults ≤ m.tracer.faults) (Nat.le_refl _) ?_ ?_
  · intro t ht
    have := t.faults_record m.board.core m.board.report
    omega
  · intro t ht
    have := t.faults_flush
    omega

/-- A tick of a machine that runs makes a cycle, or tells the fault in Exec1, or uses up a fault
of the traces. -/
theorem tick_of_running (idle : m.board.Idle) (running : m.halted = false) :
    m.commits = true ∨
    (∃ t, m.board.core.trap = some t ∧ m.tick.2 = .error (.illegalOpcode t)) ∨
    m.commits = false ∧ m.tick.1.board = m.board ∧ m.tick.1.halted = false ∧
      m.tick.1.tracer.faults < m.tracer.faults := by
  have hd : m.board.discard = m.board := Board.discard_of_idle idle
  have record := m.tracer.faults_record m.board.core m.board.report
  have flush := m.tracer.faults_flush
  rw [Tracer.record_snd] at record
  have does := m.does
  generalize m.tick = r at does ⊢
  cases does with
  | rest halted => cases running.symm.trans halted
  | fault _ t trap =>
    right
    rcases flushed : m.tracer.flush.2 with _ | _
    · rw [flushed] at flush
      exact .inr ⟨by simp [commits, trap], hd, running, Nat.lt_of_succ_le flush⟩
    · exact .inl ⟨t, trap, rfl⟩
  | untraced _ _ broken =>
    rw [broken] at record
    exact .inr (.inr ⟨by simp [commits, broken], hd, running,
      Nat.lt_of_succ_le (Nat.le_of_eq record)⟩)
  | commit _ trap traced => exact .inl (commits_iff.mpr ⟨running, trap, traced⟩)
  | stop _ stops => exact .inl (commits_iff.mpr ⟨running, stops.no_trap, stops.traced⟩)

/-- Tick `n` finds an instruction in Exec1, and retires it or tells its fault. -/
structure Arrives (m : Machine) (n : Nat) (e : Exec1) : Prop where
  running : (m.after n).halted = false
  exec1 : (m.after n).board.core.latches.exec1 = some e
  outcome : (m.after n).commits = true ∨
    ∃ t, (m.after n).board.core.trap = some t ∧ (m.after n).tick.2 = .error (.illegalOpcode t)

/-- In a machine that runs, the next instruction comes to Exec1, however often it is kept
waiting. -/
theorem exists_arrival (idle : m.board.Idle) (n : Nat) (running : (m.after n).halted = false) :
    ∃ k e, m.retirements k = m.retirements n ∧ m.Arrives k e := by
  -- Every tick before takes one off the distance, or uses up a fault.
  induction hp : (m.after n).board.core.latches.distance + (m.after n).tracer.faults
    using Nat.strongRecOn generalizing n with
  | ind p ih =>
    have later : (m.after (n + 1)).halted = false →
        m.retirements (n + 1) = m.retirements n →
        (m.after (n + 1)).board.core.latches.distance + (m.after (n + 1)).tracer.faults < p →
        ∃ k e, m.retirements k = m.retirements n ∧ m.Arrives k e := by
      intro running' same fewer
      obtain ⟨k, e, hk, arrives⟩ := ih _ fewer (n + 1) running' rfl
      exact ⟨k, e, hk.trans same, arrives⟩
    rcases tick_of_running (idle_after idle n) running with commits | ⟨t, trap, fails⟩ | stuck
    · rcases he : (m.after n).board.core.latches.exec1 with _ | e
      · obtain ⟨board, _, halted⟩ := tick_of_commits commits
        have empty := Board.retired_of_exec1_none he
        have same := retirements_of_commits commits
        rw [empty, Option.toList_none, List.append_nil] at same
        rw [Report.halts_eq, empty] at halted
        refine later halted same ?_
        have nearer : (m.after n).board.next.core.latches.distance + 1 =
            (m.after n).board.core.latches.distance := Core.distance_next_of_exec1_none he
        have := (m.after n).faults_tick
        simp only [after, board]
        omega
      · exact ⟨n, e, rfl, running, he, .inl commits⟩
    · obtain ⟨e, he, _⟩ := Option.bind_eq_some_iff.mp trap
      exact ⟨n, e, rfl, running, he, .inr ⟨t, trap, fails⟩⟩
    · obtain ⟨commits, board, running', fewer⟩ := stuck
      refine later running' (retirements_of_not_commits commits) ?_
      simp only [after, board]
      omega

/-! ## What comes of a program -/

/-- At reset every pipeline tracks the machine without one. -/
theorem tracks_of_atReset (reset : m.AtReset) (program : ∀ a, m.board.imem.peek a = code a)
    (seq : s.seq = .reset) (data : m.board.dmem.words = s.data.words) :
    m.board.Tracks code s := by
  have core := reset.core
  have latches : m.board.core.latches = .empty := by
    rw [core]
    rfl
  have dma : m.board.core.dma = .reset := by
    rw [core]
    rfl
  constructor
  case toHolds =>
    constructor
    case idle => exact reset.idle
    case path =>
      rw [latches, seq]
      rfl
    case regs =>
      rw [core, seq]
      rfl
    case faithful =>
      constructor
      · exact program
      all_goals rw [latches]; exact fun _ h => by cases h
    case fresh =>
      constructor
      all_goals rw [latches]; exact fun _ h => by cases h
    case served =>
      unfold Board.Served
      rw [latches]
      exact fun _ h => by cases h
  case words => exact data
  case sound =>
    rw [dma]
    exact fun _ => rfl
  case free =>
    rw [dma]
    rfl

/-- After `i` instructions, none of them a request for a copy, a tick fails with this fault. -/
def Raises (m : Machine) (i : Nat) (t : Trap) : Prop :=
  ∃ n, m.Alone n ∧ (m.retirements n).length = i ∧ (m.after n).tick.2 = .error (.illegalOpcode t)

/-- After `i` instructions, none of them a request for a copy, the machine has halted. -/
def HaltsAfter (m : Machine) (i : Nat) : Prop :=
  ∃ n, m.Alone n ∧ (m.retirements n).length = i ∧ (m.after n).halted = true

/-- The machine in step is the one that the run of the other leads to. -/
theorem follows_of_run {i : Nat} {l : List Retired} {t : Solo} (start : m.board.Tracks code s)
    (running : m.halted = false) (hr : s.run code i = some (l, t)) (alone : m.Alone n)
    (length : (m.retirements n).length = i) :
    (m.retirements n).map Retired.settled = l ∧
      Follows code s (m.after n).board (m.after n).halted (m.retirements n) t := by
  obtain ⟨t', h⟩ := follows_after start running alone
  have same := h.run
  rw [length, hr] at same
  cases same
  exact ⟨rfl, h⟩

theorem alone_iff {l : List Retired} (h : (m.retirements n).map Retired.settled = l) :
    m.Alone n ↔ ∀ x ∈ l, x.inst.opcode ≠ .dma := by
  rw [← h, List.forall_mem_map]
  rfl

theorem exists_arrival_of_run {i : Nat} {l : List Retired} {t : Solo}
    (start : m.board.Tracks code s) (running : m.halted = false)
    (hr : s.run code i = some (l, t)) (goes : l.any Retired.isHalt = false) (alone : m.Alone n)
    (length : (m.retirements n).length = i) :
    ∃ k e, m.Alone k ∧ (m.retirements k).length = i ∧ m.Arrives k e ∧
      (m.after k).board.Tracks code t := by
  obtain ⟨same, h⟩ := follows_of_run start running hr alone length
  have still : (m.after n).halted = false := by
    rw [h.halted, ← any_isHalt_settled, same]
    exact goes
  obtain ⟨k, e, hk, arrives⟩ := exists_arrival start.idle n still
  have alone' : m.Alone k := by
    rw [Alone, hk]
    exact alone
  have length' : (m.retirements k).length = i := by rw [hk, length]
  exact ⟨k, e, alone', length', arrives,
    (follows_of_run start running hr alone' length').2.tracks⟩

theorem exists_retirements {i : Nat} {l : List Retired} {t : Solo}
    (start : m.board.Tracks code s) (running : m.halted = false)
    (hr : s.run code i = some (l, t)) (unasked : ∀ x ∈ l, x.inst.opcode ≠ .dma) :
    ∃ n, m.Alone n ∧ (m.retirements n).length = i := by
  induction i generalizing l t with
  | zero => exact ⟨0, List.forall_mem_nil _, rfl⟩
  | succ i ih =>
    obtain ⟨l', t', x, hr', goes, hs, rfl⟩ := Solo.of_run_succ hr
    obtain ⟨n, alone, length⟩ := ih hr' fun x hx => unasked x (List.mem_append_left _ hx)
    obtain ⟨k, e, alone, length, arrives, tracks⟩ :=
      exists_arrival_of_run start running hr' goes alone length
    rcases arrives.outcome with commits | ⟨trap, ht, _⟩
    · have trap := (commits_iff.mp commits).2.1
      obtain ⟨_, rfl⟩ := Prod.mk.inj
        (Except.ok.inj ((Board.step_of_exec1 tracks trap arrives.exec1).symm.trans hs))
      have hk := retirements_of_commits commits
      rw [Board.retired_of_exec1 arrives.exec1, Option.toList_some] at hk
      refine ⟨k + 1, ?_, by rw [hk, List.length_append, length]; rfl⟩
      rw [Alone, hk]
      rintro y hy
      rcases List.mem_append.mp hy with hy | hy
      · exact alone y hy
      · cases List.mem_singleton.mp hy
        exact unasked (Retired.settled _) (List.mem_append_right _ (List.mem_singleton_self _))
    · cases (Board.step_of_trap tracks ht).symm.trans hs

theorem raises_iff (start : m.board.Tracks code s) (running : m.halted = false) {i : Nat}
    {t : Trap} : m.Raises i t ↔ ∃ l s', s.run code i = some (l, s') ∧
      (∀ x ∈ l, x.inst.opcode ≠ .dma) ∧ l.any Retired.isHalt = false ∧
      s'.step code = .error t := by
  constructor
  · rintro ⟨n, alone, length, fails⟩
    obtain ⟨goes, trap⟩ := trap_of_fault fails
    obtain ⟨s', h⟩ := follows_after start running alone
    refine ⟨_, s', length ▸ h.run, (alone_iff rfl).mp alone, ?_, Board.step_of_trap h.tracks trap⟩
    rw [any_isHalt_settled, ← h.halted]
    exact goes
  · rintro ⟨l, s', hr, unasked, goes, hs⟩
    obtain ⟨n, alone, length⟩ := exists_retirements start running hr unasked
    obtain ⟨k, e, alone, length, arrives, tracks⟩ :=
      exists_arrival_of_run start running hr goes alone length
    rcases arrives.outcome with commits | ⟨t', ht, fails⟩
    · have trap := (commits_iff.mp commits).2.1
      cases (Board.step_of_exec1 tracks trap arrives.exec1).symm.trans hs
    · cases (Board.step_of_trap tracks ht).symm.trans hs
      exact ⟨k, alone, length, fails⟩

theorem haltsAfter_iff (start : m.board.Tracks code s) (running : m.halted = false) {i : Nat} :
    m.HaltsAfter i ↔ ∃ l s', s.run code i = some (l, s') ∧
      (∀ x ∈ l, x.inst.opcode ≠ .dma) ∧ l.any Retired.isHalt = true := by
  constructor
  · rintro ⟨n, alone, length, halted⟩
    obtain ⟨s', h⟩ := follows_after start running alone
    refine ⟨_, s', length ▸ h.run, (alone_iff rfl).mp alone, ?_⟩
    rw [any_isHalt_settled, ← h.halted]
    exact halted
  · rintro ⟨l, s', hr, unasked, halted⟩
    obtain ⟨n, alone, length⟩ := exists_retirements start running hr unasked
    obtain ⟨same, h⟩ := follows_of_run start running hr alone length
    refine ⟨n, alone, length, ?_⟩
    rw [h.halted, ← any_isHalt_settled, same]
    exact halted

theorem getElem?_of_isPrefix {l l' : List Retired} (h : l <+: l') {k : Nat} {x : Retired}
    (hx : l[k]? = some x) : l'[k]? = some x := by
  obtain ⟨hk, rfl⟩ := List.getElem?_eq_some_iff.mp hx
  exact List.prefix_iff_getElem?.mp h k hk

section Pair

variable {b c : Board} {halted halted' : Bool} {l l' : List Retired} {t t' : Solo}

theorem settled_eq (hb : Follows code s b halted l t) (hc : Follows code s c halted' l' t')
    {k : Nat} {x y : Retired} (hx : l[k]? = some x) (hy : l'[k]? = some y) :
    x.settled = y.settled := by
  have hx' : (l.map Retired.settled)[k]? = some x.settled := by simp [hx]
  have hy' : (l'.map Retired.settled)[k]? = some y.settled := by simp [hy]
  rcases Solo.isPrefix_or_isPrefix hb.run hc.run with h | h
  · exact Option.some.inj (hx'.symm.trans (getElem?_of_isPrefix h hy'))
  · exact Option.some.inj ((getElem?_of_isPrefix h hx').symm.trans hy')

theorem eq_of_halted (hb : Follows code s b true l t) (hc : Follows code s c true l' t') :
    t = t' := by
  have halts := (any_isHalt_settled l).trans hb.halted.symm
  have halts' := (any_isHalt_settled l').trans hc.halted.symm
  have length := Nat.le_antisymm (Solo.le_of_halted hc.run halts' hb.run)
    (Solo.le_of_halted hb.run halts hc.run)
  have same := hb.run
  rw [length, hc.run] at same
  exact (Prod.mk.inj (Option.some.inj same)).2.symm

end Pair

/-- The predictor changes no result. Take two machines at reset with the same program and the
same data, and with predictors of any sizes that expect anything. As long as no request for a
copy retires, the instructions that retire in one place of both runs are the same, up to
whether they flushed the pipeline. A fault is told after so many instructions in one run
exactly if it is in the other, and so is HLT met; and if both machines have halted, they have
the same registers and words. -/
theorem predictor_changes_no_result {a b : Machine} (ra : a.AtReset) (rb : b.AtReset)
    (program : b.board.imem.words = a.board.imem.words)
    (data : b.board.dmem.words = a.board.dmem.words) :
    (∀ m n, a.Alone m → b.Alone n → ∀ (i : Nat) (x y : Retired),
      (a.retirements m)[i]? = some x → (b.retirements n)[i]? = some y →
        x.settled = y.settled) ∧
    (∀ i t, a.Raises i t ↔ b.Raises i t) ∧
    (∀ i, a.HaltsAfter i ↔ b.HaltsAfter i) ∧
    ∀ m n, a.Alone m → b.Alone n → (a.after m).halted = true → (b.after n).halted = true →
      (a.after m).board.core.regs = (b.after n).board.core.regs ∧
      (a.after m).board.dmem.words = (b.after n).board.dmem.words := by
  -- Both are compared with the machine that runs the program without a pipeline.
  let s : Solo := ⟨.reset, a.board.dmem⟩
  have ta : a.board.Tracks a.board.imem.peek s := tracks_of_atReset ra (fun _ => rfl) rfl rfl
  have tb : b.board.Tracks a.board.imem.peek s :=
    tracks_of_atReset rb (Sram.peek_congr program) rfl data
  refine ⟨?_, ?_, ?_, ?_⟩
  · intro m n alone alone' i x y hx hy
    obtain ⟨_, ha⟩ := follows_after ta ra.halted alone
    obtain ⟨_, hb⟩ := follows_after tb rb.halted alone'
    exact settled_eq ha hb hx hy
  · intro i t
    rw [raises_iff ta ra.halted, raises_iff tb rb.halted]
  · intro i
    rw [haltsAfter_iff ta ra.halted, haltsAfter_iff tb rb.halted]
  · intro m n alone alone' halted halted'
    obtain ⟨_, ha⟩ := follows_after ta ra.halted alone
    obtain ⟨_, hb⟩ := follows_after tb rb.halted alone'
    rw [halted] at ha
    rw [halted'] at hb
    obtain rfl := eq_of_halted ha hb
    exact ⟨ha.tracks.regs.trans hb.tracks.regs.symm, ha.tracks.words.trans hb.tracks.words.symm⟩

def withPredictor (m : Machine) (p : Predictor) : Machine :=
  { m with board := { m.board with core := { m.board.core with predictor := p } } }

theorem atReset_withPredictor (reset : m.AtReset) (p : Predictor) :
    (m.withPredictor p).AtReset := by
  have idle := reset.idle
  refine ⟨?_, ⟨idle.imem, idle.dmem⟩, reset.stats, reset.halted, reset.instructions⟩
  simp only [withPredictor]
  rw [reset.core]

/-- A load, the use of its word, a store, a taken JIN, a DMP and HLT. A predictor that expects
branches where there are none keeps HLT waiting for a cycle, and changes nothing else. -/
theorem misled_run_ends_alike :
    let a := (Setup.small [0x10810007, 0x00d10001, 0x12190002, 0x28080005, 0x30000000,
      0x17000000, 0x30000000]).machine 0
    let b := a.withPredictor ⟨#[⟨true, 3⟩, ⟨true, 7⟩, ⟨false, 1⟩], by decide⟩
    a.AtReset ∧ b.AtReset ∧ (b.after 19).halted ≠ (a.after 19).halted ∧
      a.HaltsAfter 6 ∧ b.HaltsAfter 6 ∧
      (a.after 19).board.core.regs = (b.after 20).board.core.regs := by
  intro a b
  have reset : a.AtReset := Setup.atReset _ rfl
  have reset' : b.AtReset := atReset_withPredictor reset _
  obtain ⟨_, _, halts, ends⟩ := predictor_changes_no_result reset reset' rfl rfl
  have alone : ∀ x ∈ a.retirements 19, x.inst.opcode ≠ .dma := by decide +kernel
  have alone' : ∀ x ∈ b.retirements 20, x.inst.opcode ≠ .dma := by decide +kernel
  have halted : (a.after 19).halted = true := by decide +kernel
  have halted' : (b.after 20).halted = true := by decide +kernel
  have here : a.HaltsAfter 6 := ⟨19, alone, by decide +kernel, halted⟩
  exact ⟨reset, reset', by decide +kernel, here, (halts 6).mp here,
    (ends 19 20 alone alone' halted halted').1⟩

end Machine

end SixStage
