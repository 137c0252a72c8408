-- Ticks that fail. Nearly all of them are as if they had not been: only the
-- traces have changed, and a tick with traces that work does the cycle. The
-- exception is the tick that stops the machine. Its cycle is committed before
-- the traces are flushed and the memories dumped, so a failure there comes too late.
import SixStage.Proofs.Run
import SixStage.Proofs.Sinks

namespace SixStage

/-! ## Traces that work -/

/-- The sink refuses nothing from now on. -/
structure Sink.Works (s : Sink) : Prop where
  writes : s.writeFaults = []
  flushes : s.flushFaults = []

/-- None of the sinks refuses anything from now on. -/
structure Tracer.Works (t : Tracer) : Prop where
  inst : ∀ s ∈ t.inst, s.Works
  cycle : ∀ s ∈ t.cycle, s.Works
  dma : ∀ s ∈ t.dma, s.Works

theorem Sink.works_write (s : Sink) (text : String) (h : s.Works) : (s.write text).1.Works :=
  ⟨s.writeFaults_write text h.writes, s.flushFaults_write text h.flushes⟩

namespace Tracer

variable {t : Tracer}

theorem all_of_works (h : t.Works) : t.All Sink.Works := ⟨h.inst, h.cycle, h.dma⟩

theorem record_of_works (h : t.Works) (c : Core) (r : Report) :
    (t.record c r).1.Works ∧ (t.record c r).2 = true := by
  obtain ⟨inst, cycle, dma⟩ := all_record Sink.works_write (all_of_works h) c r
  refine ⟨⟨inst, cycle, dma⟩, ?_⟩
  rw [record_snd]
  exact admits_of_all ((all_of_works h).mono fun _ hs => hs.writes) c r

theorem flush_of_works (h : t.Works) : t.flush.2 = true :=
  flush_of_all ((all_of_works h).mono fun _ hs => hs.flushes)

end Tracer

namespace Machine

variable {m : Machine}

def withTracer (m : Machine) (t : Tracer) : Machine := { m with tracer := t }

/-- What comes of the next cycle itself: the fault in Exec1, or a cycle that is committed,
counted and reported. Only a dump of the memories may still fail then. -/
inductive Performs (m : Machine) : Machine × Except Fault Report → Prop
  | fault (m' : Machine) (t : Trap) (trap : m.board.core.trap = some t)
      (board : m'.board = m.board) (stats : m'.stats = m.stats) (halted : m'.halted = false) :
      Performs m (m', .error (.illegalOpcode t))
  | cycle (m' : Machine) (out : Except Fault Report) (trap : m.board.core.trap = none)
      (board : m'.board = m.board.next) (stats : m'.stats = m.stats.record m.board.report)
      (halted : m'.halted = m.board.report.halts)
      (outcome : out = .ok m.board.report ∨ m.board.report.halts = true ∧
        (m.config.trace.enabled && m.config.trace.dumpMemory) = true ∧ ∃ e, out = .error (.io e)) :
      Performs m (m', out)

/-! ## Ticks whose traces work -/

theorem stop_of_works (works : m.tracer.Works) :
    m.stop.2 = none ∨ (m.config.trace.enabled && m.config.trace.dumpMemory) = true := by
  have hf := Tracer.flush_of_works works
  rcases hd : m.config.trace.enabled && m.config.trace.dumpMemory with _ | _
  · left
    simp [stop, hf, hd]
  · exact .inr rfl

theorem performs_of_works (running : m.halted = false) (idle : m.board.Idle)
    (works : m.tracer.Works) : m.Performs m.tick := by
  rcases ht : m.board.core.trap with _ | t
  · obtain ⟨hw, traced⟩ := Tracer.record_of_works works m.board.core m.board.report
    rw [Tracer.record_snd] at traced
    rw [tick_of_traced running ht traced]
    split
    · next halts =>
      -- The flush of working traces succeeds, so only a dump is left to fail.
      obtain ⟨hb, hh⟩ := stop_board m.committed
      refine .cycle _ _ ht hb (stats_stop _) (hh.trans halts.symm) ?_
      rcases hs : m.committed.stop.2 with _ | e
      · exact .inl rfl
      · rcases stop_of_works (m := m.committed) hw with h | h
        · cases hs.symm.trans h
        · exact .inr ⟨halts, h, e, rfl⟩
    · next halts =>
      have goes := running.trans (Bool.eq_false_iff.mpr halts).symm
      exact .cycle m.committed _ ht rfl rfl goes (.inl rfl)
  · rw [tick_of_trap running ht, Tracer.flush_of_works works]
    exact .fault _ t ht (Board.discard_of_idle idle) rfl running

/-! ## Failures -/

theorem running_of_failed {e : Fault} (failed : m.tick.2 = .error e) : m.halted = false := by
  rw [Bool.eq_false_iff]
  intro halted
  rw [tick_of_halted halted] at failed
  cases failed

/-- A tick that fails and does not stop the machine changes its traces alone. -/
theorem discarded_of_failed (idle : m.board.Idle) {e : Fault} (failed : m.tick.2 = .error e)
    (stops : ¬ m.Stops) : m.tick.1 = m.withTracer m.tick.1.tracer := by
  have hd : m.board.discard = m.board := Board.discard_of_idle idle
  have h := m.does
  generalize m.tick = r at h failed ⊢
  -- A fault in Exec1 and a trace that breaks off come before the commit.
  cases h with
  | rest => cases failed
  | fault =>
    rw [hd]
    rfl
  | untraced =>
    rw [hd]
    rfl
  | commit => cases failed
  | stop _ stops' => exact absurd stops' stops

theorem committed_of_failed {e : Fault} (failed : m.tick.2 = .error e) (stops : m.Stops) :
    m.tick.1.board = m.board.next ∧ m.tick.1.stats = m.stats.record m.board.report ∧
      m.tick.1.halted = true ∧ ∃ c, e = .io c := by
  have running := running_of_failed failed
  have htick := tick_of_traced running stops.no_trap stops.traced
  rw [if_pos stops.halts] at htick
  rw [htick] at failed ⊢
  obtain ⟨hb, hh⟩ := stop_board m.committed
  refine ⟨hb, stats_stop _, hh, ?_⟩
  rcases hs : m.committed.stop.2 with _ | c
  · rw [hs] at failed
    cases failed
  · rw [hs] at failed
    exact ⟨c, by cases failed; rfl⟩

end Machine

namespace Setup

/-- A tick that fails is as if it had not been, but for the traces: trying it again with any
others is the tick that they would have made of it, and with traces that work it does the
cycle. Only a tick that stops the machine is not taken back. It fails once its cycle has been
committed and counted, and every later one does nothing. -/
theorem failed_tick_is_discarded_unless_it_stops (s : Setup) (n : Nat) (writers : Tracer)
    (e : Fault) (failed : ((s.machine n).withTracer writers).tick.2 = .error e) :
    let m := (s.machine n).withTracer writers
    let m' := m.tick.1
    (¬ m.Stops →
      m' = m.withTracer m'.tracer ∧ m'.board.Idle ∧
      ∀ t : Tracer, (m'.withTracer t).tick = (m.withTracer t).tick ∧
        (t.Works → (m.withTracer t).Performs (m'.withTracer t).tick)) ∧
    (m.Stops →
      m'.board = m.board.next ∧ m'.stats = m.stats.record m.board.report ∧ m'.halted = true ∧
      (∃ c, e = .io c) ∧ ∀ t : Tracer, (m'.withTracer t).tick = (m'.withTracer t, .ok .quiet)) := by
  intro m m'
  have idle : m.board.Idle := s.idle_board n
  have running : m.halted = false := Machine.running_of_failed failed
  constructor
  · intro stops
    have same : m' = m.withTracer m'.tracer := Machine.discarded_of_failed idle failed stops
    have again : ∀ t, m'.withTracer t = m.withTracer t := fun t => by rw [same]; rfl
    refine ⟨same, ?_, fun t => ⟨by rw [again], fun works => ?_⟩⟩
    · rw [same]
      exact idle
    · rw [again]
      exact Machine.performs_of_works running idle works
  · intro stops
    obtain ⟨board, stats, halted, io⟩ := Machine.committed_of_failed failed stops
    exact ⟨board, stats, halted, io, fun t => Machine.tick_of_halted halted⟩

/-- A small run with a trace of its instructions whose first flush fails. -/
def refusing (image : List Word) : Setup :=
  { small image with tracer := ⟨some ⟨"", [], [true], 0⟩, none, none, 0⟩ }

/-- An illegal word is in Exec1 in tick 5, and the flush fails. Nothing else has happened then,
and tick 6 tells the fault. -/
theorem failed_flush_hides_the_trap_once :
    let s := refusing [0x1a000000]
    Machine.broken (s.machine 5).tick.2 = true ∧ s.board 6 = s.board 5 ∧
      (s.machine 6).stats = (s.machine 5).stats ∧ (s.machine 6).halted = false ∧
      ∃ t, (s.board 5).core.trap = some t ∧ (s.machine 6).tick.2 = .error (.illegalOpcode t) := by
  -- The run is kept closed: what is needed of it is evaluated here, fact by fact.
  generalize hs : refusing [0x1a000000] = s
  dsimp only
  have broken : Machine.broken (s.machine 5).tick.2 = true := by rw [← hs]; decide +kernel
  have trap : (s.board 5).core.trap.isSome := by rw [← hs]; decide +kernel
  have inst : (s.machine 6).tracer.inst.map (fun k => (k.writeFaults, k.flushFaults)) =
      some ([], []) := by rw [← hs]; decide +kernel
  have others : (s.machine 6).tracer.cycle = none ∧ (s.machine 6).tracer.dma = none := by
    rw [← hs]; decide +kernel
  obtain ⟨c, failed⟩ := Machine.io_of_broken broken
  obtain ⟨t, ht⟩ := Option.isSome_iff_exists.mp trap
  obtain ⟨discarded, _⟩ :=
    failed_tick_is_discarded_unless_it_stops s 5 (s.machine 5).tracer (.io c) failed
  obtain ⟨same, _, again⟩ := discarded fun stops => by cases ht.symm.trans stops.no_trap
  change s.machine 6 = (s.machine 5).withTracer (s.machine 6).tracer at same
  have works : (s.machine 6).tracer.Works := by
    obtain ⟨k, hk, faults⟩ := Option.map_eq_some_iff.mp inst
    obtain ⟨writes, flushes⟩ := Prod.mk.inj faults
    refine ⟨?_, by simp [others.1], by simp [others.2]⟩
    rw [hk]
    rintro _ ⟨⟩
    exact ⟨writes, flushes⟩
  have retried : ((s.machine 5).withTracer (s.machine 6).tracer).Performs (s.machine 6).tick :=
    (again (s.machine 6).tracer).2 works
  have running : (s.machine 5).halted = false := Machine.running_of_failed failed
  refine ⟨broken, (congrArg Machine.board same).trans rfl, (congrArg Machine.stats same).trans rfl,
    (congrArg Machine.halted same).trans running, t, ht, ?_⟩
  generalize (s.machine 6).tick = r at retried
  cases retried with
  | fault _ t' trap' => rw [Option.some.inj (ht.symm.trans trap')]
  | cycle _ _ trap' => cases ht.symm.trans trap'

/-- The flush at the halt fails in tick 5. Yet the cycle has been committed and counted and the
machine has halted, and tick 6 does not do it again. -/
theorem failed_flush_leaves_the_machine_halted :
    let s := refusing [0x30000000]
    Machine.broken (s.machine 5).tick.2 = true ∧ s.board 6 ≠ s.board 5 ∧
      (s.machine 6).stats ≠ (s.machine 5).stats ∧ (s.machine 6).halted ≠ (s.machine 5).halted ∧
      s.board 7 = s.board 6 ∧ s.report 6 ≠ (s.board 5).report := by
  decide +kernel

end Setup

end SixStage
