-- One clock cycle of the core, as a function of the core and of the output
-- registers of the two memories. What it asks of the memories is told apart
-- from the core that it leads to, so that a cycle can be dropped.
import SixStage.Pipeline.Commit

namespace SixStage

/-- All that can be seen of one cycle. -/
structure Report where
  signals : Signals
  /-- Fetch0 followed a prediction to be taken. -/
  predictedTaken : Bool
  /-- Fetched instructions were squashed behind one that is no branch. -/
  squashed : Bool
  retired : Option Retired
  dma : Dma.Activity
  deriving DecidableEq, Repr, Inhabited

namespace Report

/-- The report of a cycle in which nothing happens. -/
def quiet : Report := ⟨.quiet, false, false, none, .quiet⟩

/-- Where the HLT stands that retired, if one did. -/
def haltPc (r : Report) : Option Addr :=
  match r.retired with
  | none => none
  | some x => if x.effect = .halt then some x.pc else none

def halts (r : Report) : Bool := r.haltPc.isSome

end Report

namespace Core

/-- The copy engine's cycle: it runs after the pipeline, and sees its request. -/
def dmaStep (c : Core) (loaded : Word) : Dma.Block × Dma.Activity :=
  c.dma.step loaded c.dmaConflict c.requested

/-- The core after a cycle without a fault. -/
def next (c : Core) (fetched loaded : Word) : Core :=
  let moved : Core :=
    { c with cycle := c.cycle + 1, latches := c.moved fetched, dma := (c.dmaStep loaded).1 }
  match c.retired loaded with
  | none => moved
  | some r =>
    { moved with
      regs := r.effect.registers r.pc c.regs
      predictor := r.effect.predictor r.pc c.predictor
      latches := r.effect.latches r.pc moved.latches }

def report (c : Core) (loaded : Word) : Report where
  signals := c.signals
  predictedTaken := !c.stall && c.prediction.taken
  squashed := c.squasher.isSome
  retired := c.retired loaded
  dma := (c.dmaStep loaded).2

/-- One cycle, unless an illegal instruction has reached Exec1. `fetched` and
`loaded` are the output registers of the instruction and the data memory. -/
def clock (c : Core) (fetched loaded : Word) : Except Trap (Core × Report) :=
  match c.trap with
  | some t => .error t
  | none => .ok (c.next fetched loaded, c.report loaded)

/-! ## The memory ports -/

/-- What the pipeline asks of the data memory, also in a cycle with a fault. -/
def pipelineAccesses (c : Core) (loaded : Word) : List Access :=
  c.loadAccesses ++ c.storeAccesses loaded

/-- What the copy engine asks of the data memory. A fault stops it. -/
def dmaAccesses (c : Core) (loaded : Word) : List Access :=
  if c.trap.isSome then [] else (c.dmaStep loaded).2.accesses

def dataAccesses (c : Core) (loaded : Word) : List Access :=
  c.pipelineAccesses loaded ++ c.dmaAccesses loaded

end Core

end SixStage
