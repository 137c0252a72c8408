-- The traces of a run: up to three sinks, and the number of instructions
-- traced so far, which counts on where there is no sink for them.
import SixStage.Trace.Record
import SixStage.Trace.Sink

namespace SixStage

structure Tracer where
  inst : Option Sink
  cycle : Option Sink
  dma : Option Sink
  /-- Instructions traced so far. -/
  instructions : Nat
  deriving DecidableEq, Repr, Inhabited

namespace Tracer

/-- No trace is wanted. -/
def disabled : Tracer := ⟨none, none, none, 0⟩

/-- Writes to a sink, if there is one. -/
def writeTo (sink : Option Sink) (record : Unit → String) : Option Sink × Bool :=
  match sink with
  | none => (none, true)
  | some s =>
    let (s, ok) := s.write (record ())
    (some s, ok)

/-- A record comes through whole to a sink, if there is one. -/
def admitsTo (sink : Option Sink) (record : Unit → String) : Bool :=
  sink.all fun s => s.admits (record ())

-- The writers take the tracer apart before they write, so that the text of a
-- trace grows in place.

def writeCycle (t : Tracer) (c : Core) (r : Report) : Tracer × Bool :=
  match t with
  | ⟨inst, cycle, dma, n⟩ =>
    let (cycle, ok) := writeTo cycle fun _ => Trace.cycleRecord n c r
    (⟨inst, cycle, dma, n⟩, ok)

def writeDma (t : Tracer) (c : Core) (r : Report) : Tracer × Bool :=
  match t with
  | ⟨inst, cycle, dma, n⟩ =>
    let (dma, ok) := writeTo dma fun _ => Trace.dmaRecord c r.dma
    (⟨inst, cycle, dma, n⟩, ok)

/-- Traces the instruction that retires. It counts once its record is written. -/
def writeInstruction (t : Tracer) (c : Core) (r : Report) : Tracer × Bool :=
  match r.retired with
  | none => (t, true)
  | some x =>
    match t with
    | ⟨inst, cycle, dma, n⟩ =>
      let (inst, ok) := writeTo inst fun _ => Trace.instructionRecord n c.regs x
      (⟨inst, cycle, dma, if ok then n + 1 else n⟩, ok)

/-- Traces a cycle that starts from `c`, up to the first record that breaks off,
and says if none did. -/
def record (t : Tracer) (c : Core) (r : Report) : Tracer × Bool :=
  match t.writeCycle c r with
  | (t, false) => (t, false)
  | (t, true) =>
    match t.writeDma c r with
    | (t, false) => (t, false)
    | (t, true) => t.writeInstruction c r

/-- No record of a cycle that starts from `c` would break off. -/
def admits (t : Tracer) (c : Core) (r : Report) : Bool :=
  admitsTo t.cycle (fun _ => Trace.cycleRecord t.instructions c r) &&
    admitsTo t.dma (fun _ => Trace.dmaRecord c r.dma) &&
    r.retired.all fun x =>
      admitsTo t.inst fun _ => Trace.instructionRecord t.instructions c.regs x

theorem writeTo_snd (sink : Option Sink) (record : Unit → String) :
    (writeTo sink record).2 = admitsTo sink record := by
  cases sink with
  | none => rfl
  | some s => simp [writeTo, admitsTo, Sink.write_snd]

theorem writeCycle_snd (t : Tracer) (c : Core) (r : Report) :
    (t.writeCycle c r).2 = admitsTo t.cycle fun _ => Trace.cycleRecord t.instructions c r := by
  simp only [writeCycle, writeTo_snd]

theorem writeDma_snd (t : Tracer) (c : Core) (r : Report) :
    (t.writeDma c r).2 = admitsTo t.dma fun _ => Trace.dmaRecord c r.dma := by
  simp only [writeDma, writeTo_snd]

theorem writeInstruction_snd (t : Tracer) (c : Core) (r : Report) :
    (t.writeInstruction c r).2 =
      r.retired.all fun x =>
        admitsTo t.inst fun _ => Trace.instructionRecord t.instructions c.regs x := by
  unfold writeInstruction
  cases r.retired with
  | none => rfl
  | some x => simp only [writeTo_snd, Option.all_some]

/-- What `record` says is what `admits` foretells. -/
theorem record_snd (t : Tracer) (c : Core) (r : Report) : (t.record c r).2 = t.admits c r := by
  have cycle := t.writeCycle_snd c r
  have dma := (t.writeCycle c r).1.writeDma_snd c r
  have inst := ((t.writeCycle c r).1.writeDma c r).1.writeInstruction_snd c r
  rw [show (t.writeCycle c r).1.dma = t.dma from rfl] at dma
  rw [show ((t.writeCycle c r).1.writeDma c r).1.inst = t.inst from rfl,
    show ((t.writeCycle c r).1.writeDma c r).1.instructions = t.instructions from rfl] at inst
  rw [admits, ← cycle, ← dma, ← inst]
  unfold record
  split
  · next h => rw [h]; rfl
  · next h =>
    rw [h]
    split
    · next h => rw [h]; rfl
    · next h => rw [h]; rfl

def flushOne (sink : Option Sink) : Option Sink × Bool :=
  match sink with
  | none => (none, true)
  | some s =>
    let (s, ok) := s.flush
    (some s, ok)

/-- Flushes the sinks for instructions, cycles and copies, up to the first that
fails, and says if none did. -/
def flush (t : Tracer) : Tracer × Bool :=
  match flushOne t.inst with
  | (s, false) => ({ t with inst := s }, false)
  | (s, true) =>
    let t := { t with inst := s }
    match flushOne t.cycle with
    | (s, false) => ({ t with cycle := s }, false)
    | (s, true) =>
      let t := { t with cycle := s }
      let (s, ok) := flushOne t.dma
      ({ t with dma := s }, ok)

/-- The tracer in one line: which sinks there are, and the count. -/
def summary (t : Tracer) : String :=
  let fields :=
    s!"inst: {t.inst.isSome}, cycle: {t.cycle.isSome}, dma: {t.dma.isSome}, instructions: {t.instructions}"
  "TraceContext \x7b " ++ fields ++ " \x7d"

end Tracer

end SixStage
