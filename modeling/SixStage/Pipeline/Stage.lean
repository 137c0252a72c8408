-- How instructions move from stage to stage. In a stall all stages up to
-- Exec0 hold and Exec1 empties; in any other cycle every record moves on by
-- one stage. After that, a taken prediction for what turns out to be no
-- branch squashes what was fetched behind it.
import SixStage.Alu
import SixStage.Pipeline.Hazard

namespace SixStage.Core

def prediction (c : Core) : Direction := c.predictor.lookup c.latches.fetchPc

/-- The result of an instruction in Exec0. DMP asks the copy engine; an illegal
word has none. -/
def result (c : Core) (e : Exec0) (ops : Operands) : Word :=
  if e.trap.isSome then 0
  else if e.inst.opcode = .dmp then Word.ofBool c.dmaFree
  else alu e.inst.opcode ops.a.value ops.b.value e.inst.imm

def execute (c : Core) (e : Exec0) : Exec1 :=
  let ops := c.exec0Operands e
  { e with a := ops.a.value, b := ops.b.value, result := c.result e ops }

def readOperands (c : Core) (d : Dec1) : Exec0 :=
  let ops := c.dec1Operands d
  { d with a := ops.a.value, b := ops.b.value }

/-- An instruction that waits in Exec0. It keeps its operands as bypassed, since
the word of a load is on offer for one cycle only. -/
def wait (c : Core) (e : Exec0) : Exec0 :=
  let ops := c.exec0Operands e
  { e with a := ops.a.value, b := ops.b.value }

/-- The latches after a stall. The word that came for Fetch1 is saved, unless
one is saved already. -/
def hold (c : Core) (fetched : Word) : Latches :=
  { c.latches with
    saved := if c.latches.fetch1.isSome then c.latches.saved.or (some fetched) else c.latches.saved
    exec0 := c.latches.exec0.map c.wait
    exec1 := none
    loaded := none }

/-- The latches when every record moves on. `fetched` is the word that came for
Fetch1; a saved one goes before it. -/
def advance (c : Core) (fetched : Word) : Latches where
  fetchPc := c.prediction.nextPc c.latches.fetchPc
  fetch1 := some ⟨c.latches.fetchPc, c.prediction⟩
  saved := if c.latches.fetch1.isSome then none else c.latches.saved
  dec0 := c.latches.fetch1.map fun f => { f with word := c.latches.saved.getD fetched }
  dec1 := c.latches.dec0.map Dec0.decoded
  exec0 := c.latches.dec1.map c.readOperands
  exec1 := c.latches.exec0.map c.execute
  loaded := none

/-- The instruction in Dec0 if it leaves it now, is no branch, and was predicted
to be a taken one. -/
def squasher (c : Core) : Option Dec0 :=
  if c.stall then none
  else c.latches.dec0.filter fun d => d.expected.taken && !d.decoded.isBranch

/-- The latches after one cycle, but for what Exec1 does. -/
def moved (c : Core) (fetched : Word) : Latches :=
  if c.stall then c.hold fetched
  else
    match c.squasher with
    | none => c.advance fetched
    | some d => (c.advance fetched).squash d.pc.next

def fetchAccesses (c : Core) : List Access :=
  if c.stall then [] else [.read c.latches.fetchPc]

/-- The reads that loads in Exec0 issue on the data memory. -/
def loadAccesses (c : Core) : List Access :=
  match c.latches.exec0 with
  | none => []
  | some e => if !c.stall && e.is .ld then [.read (c.execute e).result.addr] else []

end SixStage.Core
