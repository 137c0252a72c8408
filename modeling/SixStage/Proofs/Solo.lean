-- The machine without a pipeline, with a data memory of its own and a copy engine that
-- rests. It needs nobody to tell it what it finds, so it runs a program in one way. A
-- pipeline tracks it, whatever its predictor expects, until a request for a copy
-- retires.
import SixStage.Proofs.Conservation
import SixStage.Proofs.InOrder

namespace SixStage

/-! ## Records -/

/-- An effect without the word on whether it flushed the pipeline. -/
def Effect.settled : Effect → Effect
  | branch d _ => branch d false
  | eff => eff

/-- The instruction without what the predictor made of it. -/
def Retired.settled (x : Retired) : Retired := { x with effect := x.effect.settled }

theorem Effect.written_settled (eff : Effect) : eff.settled.written = eff.written := by
  cases eff <;> rfl

def Retired.isHalt (x : Retired) : Bool := x.effect = .halt

/-- What comes of an action if loads find `data` and the copy engine is free. -/
def Action.effect (data : Addr → Word) : Action → Effect
  | .write dst value => .reg dst value
  | .load dst addr => .load dst addr (data addr)
  | .store addr word => .store addr word
  | .copy _ _ _ => .dma true
  | .jump d => .branch d false
  | .halt => .halt

structure Solo where
  seq : Sequential
  data : Sram

namespace Solo

/-- The record of an instruction at the machine's address. -/
def record (code : Addr → Word) (s : Solo) (i : Instruction) : Retired where
  pc := s.seq.pc
  word := code s.seq.pc
  inst := i
  a := i.valueA s.seq.regs
  b := i.valueB s.seq.regs
  result := i.resultOf s.seq.regs true
  effect := (i.action s.seq.regs true).effect s.data.peek

def step (code : Addr → Word) (s : Solo) : Except Trap (Solo × Retired) :=
  match Instruction.decode (code s.seq.pc) with
  | .error opcode => .error ⟨s.seq.pc, opcode, code s.seq.pc⟩
  | .ok i =>
    let x := s.record code i
    .ok (⟨s.seq.after s.data.peek (i.action s.seq.regs true),
      s.data.writeAll x.effect.written.toList⟩, x)

/-- The first `n` instructions and the machine behind them, if it comes so far: no fault
stops it, and none but the last is HLT. -/
def run (code : Addr → Word) (s : Solo) : Nat → Option (List Retired × Solo)
  | 0 => some ([], s)
  | n + 1 =>
    (s.run code n).bind fun (l, t) =>
      if l.any Retired.isHalt then none
      else
        match t.step code with
        | .error _ => none
        | .ok (t', x) => some (l ++ [x], t')

variable {code : Addr → Word} {s t : Solo} {l : List Retired} {n : Nat}

theorem run_succ {t' : Solo} {x : Retired} (h : s.run code n = some (l, t))
    (running : l.any Retired.isHalt = false) (hs : t.step code = .ok (t', x)) :
    s.run code (n + 1) = some (l ++ [x], t') := by
  simp only [run, h, Option.bind_some, running, hs]
  rfl

theorem of_run_succ (h : s.run code (n + 1) = some (l, t)) :
    ∃ l' t' x, s.run code n = some (l', t') ∧ l'.any Retired.isHalt = false ∧
      t'.step code = .ok (t, x) ∧ l = l' ++ [x] := by
  obtain ⟨⟨l', t'⟩, hr, h⟩ := Option.bind_eq_some_iff.mp h
  simp only at h
  split at h
  · cases h
  · next running =>
    split at h
    · cases h
    · next t'' x hs =>
      cases h
      exact ⟨l', t', x, hr, Bool.eq_false_iff.mpr running, hs, rfl⟩

theorem run_of_le {m : Nat} (h : s.run code n = some (l, t)) (hm : m ≤ n) :
    ∃ l' t', s.run code m = some (l', t') ∧ l' <+: l := by
  induction n generalizing l t with
  | zero =>
    obtain rfl := Nat.le_zero.mp hm
    exact ⟨l, t, h, List.prefix_rfl⟩
  | succ n ih =>
    rcases Nat.le_succ_iff.mp hm with hm | rfl
    · obtain ⟨l₁, t₁, x, hr, _, _, rfl⟩ := of_run_succ h
      obtain ⟨l', t', hr', hp⟩ := ih hr hm
      exact ⟨l', t', hr', hp.trans (List.prefix_append ..)⟩
    · exact ⟨l, t, h, List.prefix_rfl⟩

theorem isPrefix_or_isPrefix {m : Nat} {l' : List Retired} {t' : Solo}
    (h : s.run code n = some (l, t)) (h' : s.run code m = some (l', t')) :
    l' <+: l ∨ l <+: l' := by
  rcases Nat.le_total m n with hm | hm
  · obtain ⟨_, _, hr, hp⟩ := run_of_le h hm
    cases hr.symm.trans h'
    exact .inl hp
  · obtain ⟨_, _, hr, hp⟩ := run_of_le h' hm
    cases hr.symm.trans h
    exact .inr hp

theorem le_of_halted {m : Nat} {l' : List Retired} {t' : Solo} (h : s.run code n = some (l, t))
    (halted : l.any Retired.isHalt = true) (h' : s.run code m = some (l', t')) : m ≤ n := by
  apply Nat.le_of_not_lt
  intro hm
  -- A longer run would go on behind the HLT.
  obtain ⟨_, _, hr, _⟩ := run_of_le h' hm
  obtain ⟨_, _, _, hn, running, _⟩ := of_run_succ hr
  cases hn.symm.trans h
  cases halted.symm.trans running

end Solo

/-! ## Tracking -/

theorem Retired.settled_effect {x : Retired} {data : Addr → Word} (load : x.effect.LoadsFrom data)
    (request : x.effect ≠ .dma false) : x.effect.settled = x.action.effect data := by
  rcases hx : x.effect with _ | _ | _ | (_ | _) | _ | _
  · simp [Retired.action, Action.effect, Effect.settled, hx]
  · rw [hx] at load
    simp only [Effect.LoadsFrom] at load
    simp [Retired.action, Action.effect, Effect.settled, hx, load]
  · simp [Retired.action, Action.effect, Effect.settled, hx]
  · exact absurd hx request
  · simp [Retired.action, Action.effect, Effect.settled, hx]
  · simp [Retired.action, Action.effect, Effect.settled, hx]
  · simp [Retired.action, Action.effect, Effect.settled, hx]

/-- What the sequential machine executes beside an engine that rests is a step. -/
theorem Solo.step_of_executes {code : Addr → Word} {s : Solo} {x : Retired} {s' : Sequential}
    (h : Sequential.Executes code ⟨s.data.peek, true⟩ s.seq x s')
    (request : x.effect ≠ .dma false) :
    s.step code = .ok (⟨s', s.data.writeAll x.effect.written.toList⟩, x.settled) := by
  have hd : Instruction.decode (code s.seq.pc) = .ok x.inst := by
    rw [← h.word]
    exact h.inst
  obtain ⟨after, action⟩ := Sequential.action_of_executes h
  rw [← action] at after
  have heff : x.effect.settled = (x.inst.action s.seq.regs true).effect s.data.peek := by
    rw [action]
    exact Retired.settled_effect h.load request
  have hr : s.record code x.inst = x.settled := by
    simp only [record, Retired.settled, heff, h.pc, h.word, h.a, h.b, h.result]
  simp only [step, hd, hr, after, Retired.settled, Effect.written_settled]

namespace Board

/-- The pipeline stands where the machine does, words included, and the copy engine rests. -/
structure Tracks (code : Addr → Word) (s : Solo) (b : Board) : Prop extends
    Holds code true s.seq b where
  words : b.dmem.words = s.data.words
  sound : b.core.dma.Sound
  free : b.core.dma.busy = false

variable {code : Addr → Word} {s : Solo} {b : Board}

theorem step_of_trap {t : Trap} (h : b.Tracks code s) (trap : b.core.trap = some t) :
    s.step code = .error t := by
  have hs := faults_of_exec1 h.path h.faithful trap ⟨s.data.peek, true⟩ s.seq.regs
  unfold Sequential.step at hs
  unfold Solo.step
  split at hs
  · next opcode hd =>
    simp only [hd]
    cases hs
    rfl
  · cases hs

theorem executes_of_tracks {e : Exec1} (h : b.Tracks code s) (trap : b.core.trap = none)
    (he : b.core.latches.exec1 = some e) :
    Sequential.Executes code ⟨s.data.peek, true⟩ s.seq (b.core.retire e b.dmem.out)
      ⟨b.core.oldest s.seq.pc, b.next.core.regs⟩ := by
  have data : s.data.peek = b.dmem.peek := funext fun a => (Sram.peek_congr h.words a).symm
  rw [data]
  exact executes_of_exec1 h.toHolds trap he

theorem step_of_exec1 {e : Exec1} (h : b.Tracks code s) (trap : b.core.trap = none)
    (he : b.core.latches.exec1 = some e) :
    s.step code = .ok (⟨⟨b.core.oldest s.seq.pc, b.next.core.regs⟩,
      s.data.writeAll b.core.storeWrite.toList⟩, (b.core.retire e b.dmem.out).settled) := by
  have request : b.core.effect e b.dmem.out ≠ .dma false := fun request => by
    have dma := opcode_of_launch request
    simp [Core.effect, dma, h.free] at request
  have store : (b.core.effect e b.dmem.out).written = b.core.storeWrite := by
    rw [← Core.written_of_retired b.dmem.out trap, Core.retired, he]
    rfl
  rw [← store]
  exact Solo.step_of_executes (executes_of_tracks h trap he) request

/-- A cycle in which no request retires keeps the pipeline in step. -/
theorem tracks_next {s' : Solo} (h : b.Tracks code s) (trap : b.core.trap = none)
    (unasked : b.core.exec1Is .dma = false)
    (seq : s'.seq = ⟨b.core.oldest s.seq.pc, b.next.core.regs⟩)
    (words : s'.data.words = (s.data.writeAll b.core.storeWrite.toList).words) :
    b.next.Tracks code s' := by
  have rests :=
    (Dma.Block.step_of_free h.sound h.free b.dmem.out b.core.portUse.isSome b.core.dma).2
  have free : b.core.dmaFree = true := by simp [Core.dmaFree, h.free, unasked]
  have write : b.report.dma.write = none := by
    have hact : b.report.dma = (b.bench.turn b.core.portUse).2 := b.activity_eq
    rw [hact, Dma.Bench.turn, bench, rests]
    rfl
  constructor
  case toHolds =>
    rw [seq, ← free]
    exact holds_next h.toHolds trap
  case words =>
    rw [words_next trap h.idle.dmem, words, Report.writes, write]
    simp only [report, Core.report, Core.written_of_retired _ trap, Option.toList_none,
      List.append_nil]
    exact Sram.writeAll_congr h.words _
  case sound => exact sound_next h.sound
  case free =>
    rw [dma_next_of_no_launch (.inr unasked), Dma.Bench.next, Dma.Bench.turn, bench, rests]
    exact h.free

theorem tracks_next_of_exec1_none (h : b.Tracks code s) (he : b.core.latches.exec1 = none) :
    b.core.trap = none ∧ b.next.Tracks code s := by
  have trap : b.core.trap = none := by simp [Core.trap, he]
  refine ⟨trap, tracks_next h trap (by simp [Core.exec1Is, he]) ?_ ?_⟩
  · rw [Core.oldest_of_exec1_none he, regs_next_of_exec1_none he, h.regs]
  · simp [Core.storeWrite, he, Sram.writeAll]

theorem tracks_next_of_exec1 {e : Exec1} (h : b.Tracks code s) (trap : b.core.trap = none)
    (he : b.core.latches.exec1 = some e) (unasked : e.inst.opcode ≠ .dma) :
    ∃ s', s.step code = .ok (s', (b.core.retire e b.dmem.out).settled) ∧ b.next.Tracks code s' :=
  ⟨_, step_of_exec1 h trap he,
    tracks_next h trap (by simp [Core.exec1Is, he, Dec1.is, unasked]) rfl rfl⟩

end Board

end SixStage
