-- The last stage. An instruction in Exec1 has its effect here and nowhere
-- else: it writes a register, stores, asks for a copy, turns the fetching
-- another way, or stops the machine.
import SixStage.Pipeline.Stage

namespace SixStage

/-- What an instruction did as it left the pipeline. -/
inductive Effect where
  /-- A result for `dst`, which `r0` and `r1` drop. -/
  | reg (dst : Reg) (value : Word)
  | load (dst : Reg) (addr : Addr) (word : Word)
  | store (addr : Addr) (word : Word)
  /-- A request for a copy, which a busy engine drops. -/
  | dma (launched : Bool)
  /-- A branch, and whether it flushed the pipeline. -/
  | branch (direction : Direction) (flushed : Bool)
  | halt
  deriving DecidableEq, Repr, Inhabited

/-- An instruction that left the pipeline. -/
structure Retired where
  pc : Addr
  word : Word
  inst : Instruction
  a : Word
  b : Word
  result : Word
  effect : Effect
  deriving DecidableEq, Repr, Inhabited

namespace Effect

def registers (pc : Addr) (regs : RegFile) : Effect → RegFile
  | reg dst value => regs.write dst value
  | load dst _ word => regs.write dst word
  | branch d _ => if d.taken then regs.write Reg.link pc.word else regs
  | _ => regs

def predictor (pc : Addr) (p : Predictor) : Effect → Predictor
  | branch d _ => p.update pc d
  | _ => p

def latches (pc : Addr) (l : Latches) : Effect → Latches
  | load dst _ word => { l with loaded := if dst.isWritable then some ⟨dst, word⟩ else none }
  | branch d true => { l.flush with fetchPc := d.nextPc pc }
  | _ => l

/-- The use of the data port. -/
def accesses : Effect → List Access
  | store addr word => [.write addr word]
  | _ => []

end Effect

namespace Core

/-- The effect of a legal instruction in Exec1. `loaded` is the output register
of the data memory. -/
def effect (c : Core) (e : Exec1) (loaded : Word) : Effect :=
  match e.inst.opcode with
  | .ld => .load e.inst.dst e.result.addr loaded
  | .st => .store e.result.addr e.a
  | .dma => .dma !c.dma.busy
  | .jlt | .jle | .jeq | .jne | .jin =>
    let d := e.inst.direction e.result e.a
    .branch d (d.contradicts e.expected)
  | .hlt => .halt
  | _ => .reg e.inst.dst e.result

def trap (c : Core) : Option Trap := c.latches.exec1.bind fun e => e.trap

def retire (c : Core) (e : Exec1) (loaded : Word) : Retired :=
  ⟨e.pc, e.word, e.inst, e.a, e.b, e.result, c.effect e loaded⟩

/-- The instruction that leaves the pipeline in this cycle, if it raises no
fault. -/
def retired (c : Core) (loaded : Word) : Option Retired :=
  c.latches.exec1.map fun e => c.retire e loaded

def storeAccesses (c : Core) (loaded : Word) : List Access :=
  if c.trap.isSome then [] else (c.retired loaded).elim [] fun r => r.effect.accesses

/-- The copy engine's next block as far as Exec1 changes it. -/
def requested (c : Core) : Dma.Block :=
  match c.latches.exec1 with
  | some e => if e.is .dma then c.dma.launch e.a e.result e.b c.dma else c.dma
  | none => c.dma

end Core

end SixStage
