-- What a run counts: cycles, instructions by kind, predictions, stalls and
-- the work of the copy engine, and the table that shows it at the end.
import SixStage.Pipeline.Cycle
import SixStage.Text.Fixed

namespace SixStage

structure Statistics where
  cycles : Nat
  retired : Nat
  alu : Nat
  load : Nat
  store : Nat
  branch : Nat
  dma : Nat
  halt : Nat
  /-- Branches that went as expected. -/
  predictions : Nat
  /-- Branches that flushed the pipeline. -/
  mispredictions : Nat
  /-- Fetches that followed a prediction to be taken. -/
  predictedTaken : Nat
  squashes : Nat
  stallsStructural : Nat
  stallsLoadUse : Nat
  /-- Requests that started a copy. -/
  dmaTransfers : Nat
  /-- Requests that met a busy engine. -/
  dmaDropped : Nat
  dmaWords : Nat
  /-- Cycles in which the copy engine waited for the data port. -/
  dmaStalls : Nat
  deriving DecidableEq, Repr, Inhabited

/-- One if the condition holds. -/
private def one (b : Bool) : Nat := if b then 1 else 0

@[simp]
theorem one_eq_toNat (b : Bool) : one b = b.toNat := by cases b <;> rfl

namespace Effect

/-- The counts after an instruction with this effect retired. -/
def count (s : Statistics) : Effect → Statistics
  | reg _ _ => { s with alu := s.alu + 1 }
  | load _ _ _ => { s with load := s.load + 1 }
  | store _ _ => { s with store := s.store + 1 }
  | dma launched =>
    { s with
      dma := s.dma + 1
      dmaTransfers := s.dmaTransfers + one launched
      dmaDropped := s.dmaDropped + one (!launched) }
  | branch _ flushed =>
    { s with
      branch := s.branch + 1
      mispredictions := s.mispredictions + one flushed
      predictions := s.predictions + one (!flushed) }
  | halt => { s with halt := s.halt + 1 }

end Effect

namespace Statistics

def zero : Statistics := ⟨0, 0, 0, 0, 0, 0, 0, 0, 0, 0, 0, 0, 0, 0, 0, 0, 0, 0⟩

/-- The counts after one more cycle. A cycle that stalls for both reasons counts
as a structural stall. -/
def record (s : Statistics) (r : Report) : Statistics :=
  let s : Statistics :=
    { s with
      cycles := s.cycles + 1
      stallsStructural := s.stallsStructural + one r.signals.structural
      stallsLoadUse := s.stallsLoadUse + one (r.signals.loadUse && !r.signals.structural)
      predictedTaken := s.predictedTaken + one r.predictedTaken
      squashes := s.squashes + one r.squashed
      dmaStalls := s.dmaStalls + one r.dma.stalled
      dmaWords := s.dmaWords + one r.dma.write.isSome }
  match r.retired with
  | none => s
  | some x => x.effect.count { s with retired := s.retired + 1 }

/-! ## The table -/

/-- The quotient of two counts, as a float. -/
def ratio (n d : Nat) : Float := n.toFloat / d.toFloat

def percent (n d : Nat) : String := Text.fixed 2 (ratio n d * 100.0)

/-- A count with its share of a total, which counts as one if it is zero. -/
def share (n total : Nat) : String := s!"{n} ({percent n (max total 1)}%)"

/-- The share of branches that went as expected; zero if there were none. -/
def accuracy (s : Statistics) : String :=
  let resolved := s.predictions + s.mispredictions
  if resolved = 0 then Text.fixed 2 0.0 else percent s.predictions resolved

private def doubleRule : String := "=========================================================="

private def singleRule : String := "----------------------------------------------------------"

/-- The lines of the table. `seconds` is how long the run took, as text. -/
def lines (s : Statistics) (seconds : String) : List String :=
  let cycles := max s.cycles 1
  let instructions := max s.retired 1
  [ "", doubleRule,
    "SP PIPELINE SIMULATION STATISTICS", doubleRule,
    s!"host_seconds             {seconds} s",
    s!"sim_cycles               {s.cycles}",
    s!"sim_insts                {s.retired}",
    s!"sim_ipc                  {Text.fixed 4 (ratio s.retired cycles)}",
    s!"sim_cpi                  {Text.fixed 4 (ratio cycles instructions)}", singleRule,
    "STALLS",
    s!"  stalls.structural      {share s.stallsStructural s.cycles}",
    s!"  stalls.load_use        {share s.stallsLoadUse s.cycles}", singleRule,
    "INSTRUCTION MIX",
    s!"  op_type.alu            {share s.alu s.retired}",
    s!"  op_type.load           {share s.load s.retired}",
    s!"  op_type.store          {share s.store s.retired}",
    s!"  op_type.branch         {share s.branch s.retired}",
    s!"  op_type.dma            {share s.dma s.retired}",
    s!"  op_type.halt           {share s.halt s.retired}", singleRule,
    "BRANCH PREDICTION",
    s!"  bp.lookups_taken       {s.predictedTaken}",
    s!"  bp.resolved            {s.predictions + s.mispredictions}",
    s!"  bp.mispredicts         {s.mispredictions}",
    s!"  bp.accuracy            {s.accuracy}%",
    s!"  bp.squashes            {s.squashes}", singleRule,
    "DMA",
    s!"  dma.transfers          {s.dmaTransfers}",
    s!"  dma.dropped            {s.dmaDropped}",
    s!"  dma.words              {s.dmaWords}",
    s!"  dma.port_stalls        {share s.dmaStalls s.cycles}", doubleRule ]

def render (s : Statistics) (seconds : String) : String :=
  (s.lines seconds).foldl (fun text line => text ++ line ++ "\n") ""

end Statistics

end SixStage
