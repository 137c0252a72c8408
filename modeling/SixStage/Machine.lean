-- The machine: a board with its settings, traces and counts, and the files
-- that it leaves. A tick is one cycle. It either happens as a whole or, when
-- it meets a fault or cannot be traced, leaves the board as it was.
import SixStage.Board
import SixStage.Fault
import SixStage.FileTree
import SixStage.Log
import SixStage.Statistics
import SixStage.Trace.Tracer

namespace SixStage

structure Machine where
  config : Config
  board : Board
  tracer : Tracer
  stats : Statistics
  /-- HLT has retired. -/
  halted : Bool
  /-- The files around the run. Open traces are not written to them before the
  machine is closed. -/
  files : FileTree
  deriving DecidableEq, Inhabited

namespace Machine

/-- A machine at reset. The settings are taken as they are. -/
def build (config : Config) (image : List Word) (tracer : Tracer) (files : FileTree) :
    Machine where
  config := config
  board := Board.reset config.predictorSize config.memoryHeight image
  tracer := tracer
  stats := Statistics.zero
  halted := false
  files := files

/-! ## One cycle -/

/-- Dumps a memory to a file. -/
def dumpTo (files : FileTree) (path : String) (memory : Sram) : FileTree × Option IoFault :=
  files.write path memory.dump.toUTF8

/-- Dumps both memories, the instructions first. -/
def dump (m : Machine) : Machine × Option IoFault :=
  match dumpTo m.files m.config.trace.imemPath m.board.imem with
  | (files, some e) => ({ m with files := files }, some e)
  | (files, none) =>
    let (files, fault) := dumpTo files m.config.trace.dmemPath m.board.dmem
    ({ m with files := files }, fault)

/-- Stops a machine whose last cycle has been committed: flushes the traces and
dumps the memories if that is wanted. -/
def stop (m : Machine) : Machine × Option IoFault :=
  let (tracer, ok) := m.tracer.flush
  let m := { m with halted := true, tracer := tracer }
  if !ok then (m, some .refused)
  else if m.config.trace.enabled && m.config.trace.dumpMemory then m.dump
  else (m, none)

/-- Ends a cycle that met no fault. It is traced first; if all of that came
through, it is committed and counted, and else what it has scheduled is dropped. -/
def finish (m : Machine) (next : Core) (report : Report) : Machine × Except Fault Report :=
  match m with
  | ⟨config, board, tracer, stats, halted, files⟩ =>
    match tracer.record board.core report with
    | (tracer, false) =>
      (⟨config, board.schedule.discard, tracer, stats, halted, files⟩, .error (.io .refused))
    | (tracer, true) =>
      let m : Machine := ⟨config, board.commit next, tracer, stats.record report, halted, files⟩
      if report.halts then
        match m.stop with
        | (m, some e) => (m, .error (.io e))
        | (m, none) => (m, .ok report)
      else (m, .ok report)

/-- Ends a cycle in which an illegal instruction reached the last stage. What it has
scheduled is dropped. -/
def abort (m : Machine) (trap : Trap) : Machine × Except Fault Report :=
  let (tracer, ok) := m.tracer.flush
  ({ m with board := m.board.schedule.discard, tracer := tracer },
    .error (if ok then .illegalOpcode trap else .io .refused))

/-- One cycle. A machine that has halted does nothing more. -/
def tick (m : Machine) : Machine × Except Fault Report :=
  if m.halted then (m, .ok .quiet)
  else
    match m.board.clock with
    | .error trap => m.abort trap
    | .ok (next, report) => m.finish next report

/-! ## Runs -/

/-- The limit of cycles has been reached. -/
def outOfCycles (m : Machine) : Bool :=
  m.config.maxCycles.any fun limit => limit ≤ m.board.core.cycle

/-- Ends a run at its limit of cycles. -/
def expire (m : Machine) (limit : Nat) : Machine × Fault :=
  let (tracer, ok) := m.tracer.flush
  ({ m with tracer := tracer }, if ok then .cycleLimit limit else .io .refused)

/-- What a run does next: it is over, with or without a fault, or goes on. -/
inductive Progress where
  | done
  | failed (fault : Fault)
  | running
  deriving DecidableEq, Repr, Inhabited

/-- One cycle of a run. -/
def advance (m : Machine) : Machine × Progress :=
  if m.halted then (m, .done)
  else if m.outOfCycles then
    let (m, fault) := m.expire (m.config.maxCycles.getD 0)
    (m, .failed fault)
  else
    match m.tick with
    | (m, .error fault) => (m, .failed fault)
    | (m, .ok _) => (m, .running)

/-- Runs until the program halts, a fault ends it, or the given number of cycles
has passed. -/
def run : Nat → Machine → Machine × Progress
  | 0, m => (m, .running)
  | n + 1, m =>
    match m.advance with
    | (m, .running) => run n m
    | (m, progress) => (m, progress)

/-- More cycles than any run lasts. -/
def forever : Nat := Nat.pow 2 62

/-! ## The log -/

/-- What there is to tell of the next tick, in order. -/
def tickEvents (m : Machine) : List Event :=
  if m.halted then []
  else
    let c := m.board.core
    c.events m.board.dmem.out ++
      match m.board.clock with
      | .error trap => [.stopped c.cycle trap]
      | .ok (next, report) =>
        if m.tracer.admits c report then
          match report.haltPc with
          | some pc => [.halted pc next.cycle (m.stats.record report).retired]
          | none => []
        else [.traceFailed c.cycle .refused]

/-- What there is to tell of the next cycle of a run. -/
def advanceEvents (m : Machine) : List Event := if m.outOfCycles then [] else m.tickEvents

/-- A run, and its events behind those of `log`. -/
def runLogged : Nat → Machine → Array Event → (Machine × Progress) × Array Event
  | 0, m, log => ((m, .running), log)
  | n + 1, m, log =>
    let log := log.appendList m.advanceEvents
    match m.advance with
    | (m, .running) => runLogged n m log
    | (m, progress) => ((m, progress), log)

/-! ## Files -/

/-- Makes an empty file for a trace, if it is wanted. -/
def openTrace (files : FileTree) (wanted : Bool) (path : String) :
    FileTree × Except IoFault (Option Sink) :=
  if wanted then
    match files.write path .empty with
    | (files, some e) => (files, .error e)
    | (files, none) => (files, .ok (some .empty))
  else (files, .ok none)

/-- Opens the traces that are wanted. -/
def openTraces (files : FileTree) (t : TraceConfig) : FileTree × Except IoFault Tracer :=
  if !t.enabled then (files, .ok .disabled)
  else
    match files.makeDirectories t.outputDir with
    | (files, some e) => (files, .error e)
    | (files, none) =>
      match openTrace files t.instructions t.instPath with
      | (files, .error e) => (files, .error e)
      | (files, .ok inst) =>
        match openTrace files t.cycles t.cyclePath with
        | (files, .error e) => (files, .error e)
        | (files, .ok cycle) =>
          match openTrace files t.dma t.dmaPath with
          | (files, .error e) => (files, .error e)
          | (files, .ok dma) => (files, .ok ⟨inst, cycle, dma, 0⟩)

/-- A machine whose settings are checked and whose traces go to files. If there
is none, the files are still as the attempt left them. -/
def new (config : Config) (image : List Word) (files : FileTree) :
    FileTree × Except Fault Machine :=
  match config.fault? with
  | some e => (files, .error (.config e))
  | none =>
    match openTraces files config.trace with
    | (files, .error e) => (files, .error (.io e))
    | (files, .ok tracer) => (files, .ok (build config image tracer files))

/-- Reads an image from a file. -/
def loadImage (files : FileTree) (path : String) (capacity : Nat) : Except Fault Image :=
  match files.read path with
  | .error e => .error (.imageOpen path e)
  | .ok bytes =>
    match Image.parse bytes.toList capacity with
    | .error .notText => .error (.imageOpen path .notText)
    | .error (.malformed line text) => .error (.imageFormat line text)
    | .ok image => .ok image

/-- The events of reading an image. -/
def loadEvents (files : FileTree) (path : String) (capacity : Nat) : List Event :=
  match loadImage files path capacity with
  | .error _ => []
  | .ok image =>
    (if image.truncated then [Event.truncating capacity] else []) ++
      [.loaded path image.words.length]

/-- A machine for the image in a file. -/
def ofFile (config : Config) (path : String) (files : FileTree) :
    FileTree × Except Fault Machine :=
  match loadImage files path config.memoryHeight with
  | .error e => (files, .error e)
  | .ok image => new config image.words files

/-- Writes what a trace holds to its file, if it is open. -/
def closeTrace (files : FileTree) (path : String) : Option Sink → FileTree
  | none => files
  | some sink => (files.write path sink.text.toUTF8).1

/-- The files once the machine is closed. -/
def close (m : Machine) : FileTree :=
  let t := m.config.trace
  let files := closeTrace m.files t.instPath m.tracer.inst
  let files := closeTrace files t.cyclePath m.tracer.cycle
  closeTrace files t.dmaPath m.tracer.dma

end Machine

end SixStage
