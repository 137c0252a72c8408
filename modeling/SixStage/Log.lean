-- The log: what is worth telling of a run while it goes on. Every event has
-- a level, a message and some values.
import SixStage.IoFault
import SixStage.Pipeline.Cycle

namespace SixStage

inductive Event where
  /-- The operands of an instruction in Dec1. -/
  | operands (pc : Addr) (ops : Operands)
  /-- An operand of an instruction in Exec0 came past the register file. -/
  | bypass (pc : Addr) (ops : Operands)
  | squash (pc : Addr)
  | launch (src dst len : Word)
  | dropped (pc : Addr)
  | mispredicted (pc : Addr) (direction : Direction)
  | dmaStall (phase : Dma.Phase)
  | dmaDone (dst : Addr)
  | stopped (cycle : Nat) (trap : Trap)
  | traceFailed (cycle : Nat) (cause : IoFault)
  | halted (pc : Addr) (cycles instructions : Nat)
  | truncating (capacity : Nat)
  | loaded (path : String) (words : Nat)
  deriving DecidableEq, Repr, Inhabited

/-- Two operands and where they come from. -/
def Operands.render (o : Operands) : String :=
  s!"a={o.a.value.toInt} a_src={o.a.source.name} b={o.b.value.toInt} b_src={o.b.source.name}"

/-- The line of an event. -/
def Event.render : Event → String
  | operands pc ops => s!"TRACE Dec1 operands pc={pc.toNat} {ops.render}"
  | bypass pc ops => s!"TRACE Exec0 bypass pc={pc.toNat} {ops.render}"
  | squash pc => s!"DEBUG BTB predicted taken for a non-branch, squashing fetch pc={pc.toNat}"
  | launch src dst len =>
    s!"DEBUG DMA launched src={src.toInt} dst={dst.toInt} len={len.toInt}"
  | dropped pc => s!"DEBUG DMA request dropped, engine busy pc={pc.toNat}"
  | mispredicted pc d =>
    s!"DEBUG branch mispredicted, flushing pc={pc.toNat} taken={d.taken} target={d.target.toNat}"
  | dmaStall phase => s!"DEBUG DMA stalled on data port state={phase.name}"
  | dmaDone dst => s!"DEBUG DMA transfer complete dst={dst.toNat}"
  | stopped cycle trap => s!"ERROR simulation stopped cycle={cycle} trap={trap.render}"
  | traceFailed cycle cause => s!"ERROR trace output failed cycle={cycle} e={cause.message}"
  | halted pc cycles instructions =>
    s!"INFO halted pc={pc.toNat} cycles={cycles} instructions={instructions}"
  | truncating capacity =>
    s!"WARN image larger than memory, truncating capacity={capacity}"
  | loaded path words => s!"INFO loaded program image path={path} words={words}"

/-! ## The events of one cycle -/

namespace Core

def operandEvents (c : Core) : List Event :=
  (c.latches.dec1.map fun d => Event.operands d.pc (c.dec1Operands d)).toList

def bypassEvents (c : Core) : List Event :=
  match c.latches.exec0 with
  | none => []
  | some e =>
    let ops := c.exec0Operands e
    if ops.a.source.isBypass || ops.b.source.isBypass then [.bypass e.pc ops] else []

def squashEvents (c : Core) : List Event := (c.squasher.map fun d => Event.squash d.pc).toList

/-- What there is to tell of an instruction that retires. -/
def retireEvents (r : Retired) : List Event :=
  match r.effect with
  | .dma true => [.launch r.a r.result r.b]
  | .dma false => [.dropped r.pc]
  | .branch d true => [.mispredicted r.pc d]
  | _ => []

def dmaEvents (c : Core) (loaded : Word) : List Event :=
  let act := (c.dmaStep loaded).2
  (if act.stalled then [Event.dmaStall c.dma.phase] else []) ++
    (if act.finished && c.dma.phase = .writeLast then [Event.dmaDone c.dma.dst] else [])

/-- All that happens in the core in one cycle, in order. A fault leaves out the
last stage and the copy engine. -/
def events (c : Core) (loaded : Word) : List Event :=
  c.operandEvents ++ c.bypassEvents ++ c.squashEvents ++
    if c.trap.isSome then []
    else (c.retired loaded).elim [] retireEvents ++ c.dmaEvents loaded

end Core

end SixStage
