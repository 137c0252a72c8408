-- Hazards. All of it is read off the core at the start of a cycle: whether
-- the pipeline stalls, which operands the decoding and the executing
-- instruction get, and whether the pipeline takes the data port.
--
-- An operand is stale where an older instruction has not written its
-- register yet. The result of Exec1 goes to both stages before it is
-- written; the word of a load goes to Exec0 in the cycle after it is.
import SixStage.Pipeline.Core

namespace SixStage

/-- Where an operand comes from. -/
inductive Source where
  /-- The record in Exec0. -/
  | latched
  | immediate
  | regFile
  /-- The result of the instruction in Exec1. -/
  | exec1
  /-- The load that committed in the cycle before. -/
  | loaded
  deriving DecidableEq, Repr, Inhabited

namespace Source

def name : Source → String
  | latched => "Latched"
  | immediate => "Immediate"
  | regFile => "RegFile"
  | exec1 => "Exec1"
  | loaded => "Mem"

/-- The operand passed by the register file. -/
def isBypass : Source → Bool
  | exec1 | loaded => true
  | _ => false

end Source

structure Operand where
  value : Word
  source : Source
  deriving DecidableEq, Repr, Inhabited

structure Operands where
  a : Operand
  b : Operand
  deriving DecidableEq, Repr, Inhabited

/-- The outcome of the hazard checks of one cycle. -/
structure Signals where
  /-- All stages up to Exec0 hold, and Exec1 gets nothing. -/
  stall : Bool
  /-- It is a load behind a store that stalls. -/
  structural : Bool
  /-- It is the use of a register that is being loaded that stalls. -/
  loadUse : Bool
  dec1 : Option Operands
  exec0 : Option Operands
  /-- The pipeline takes the data port, and the copy engine waits. -/
  dmaConflict : Bool
  deriving DecidableEq, Repr, Inhabited

/-- The signals of a machine at rest. -/
def Signals.quiet : Signals := ⟨false, false, false, none, none, false⟩

/-! ## Operands -/

/-- An operand as Dec1 reads it: from Exec1 if the instruction there writes the
register, else from the register file. -/
def Operand.fetch (regs : RegFile) (forward : Option (Reg × Word)) (imm : Word) :
    Option Reg → Operand
  | none => ⟨imm, .immediate⟩
  | some r =>
    match forward with
    | some (dst, value) => if dst = r then ⟨value, .exec1⟩ else ⟨regs.read r, .regFile⟩
    | none => ⟨regs.read r, .regFile⟩

/-- An operand as Exec0 gets it. If both Exec1 and a load have its register, the
instruction in Exec1 is the younger one. -/
def Operand.bypass (forward : Option (Reg × Word)) (loaded : Option Loaded) (latched : Word) :
    Option Reg → Operand
  | none => ⟨latched, .latched⟩
  | some r =>
    let fromLoad : Operand :=
      match loaded with
      | some l => if l.dst = r then ⟨l.word, .loaded⟩ else ⟨latched, .latched⟩
      | none => ⟨latched, .latched⟩
    match forward with
    | some (dst, value) => if dst = r then ⟨value, .exec1⟩ else fromLoad
    | none => fromLoad

namespace Instruction

/-- The operands of an instruction in Dec1. -/
def fetchOperands (i : Instruction) (regs : RegFile) (forward : Option (Reg × Word)) : Operands :=
  ⟨.fetch regs forward i.imm i.operandA, .fetch regs forward i.imm i.operandB⟩

/-- The operands of an instruction in Exec0, which took `a` and `b` along. -/
def bypassOperands (i : Instruction) (a b : Word) (forward : Option (Reg × Word))
    (loaded : Option Loaded) : Operands :=
  ⟨.bypass forward loaded a i.operandA, .bypass forward loaded b i.operandB⟩

/-- The instruction reads the register that the load in Exec1 is about to write,
whose word is not there yet. -/
def awaitsLoad (i : Instruction) (older : Option Exec1) : Bool :=
  match older.bind Exec1.loadDst with
  | some dst => i.reads dst
  | none => false

end Instruction

namespace Core

/-- What Exec1 has ready for younger instructions. -/
def forward (c : Core) : Option (Reg × Word) := c.latches.exec1.bind Exec1.forward

def dec1Operands (c : Core) (d : Dec1) : Operands := d.inst.fetchOperands c.regs c.forward

def exec0Operands (c : Core) (e : Exec0) : Operands :=
  e.inst.bypassOperands e.a e.b c.forward c.latches.loaded

/-! ## Stalls -/

/-- The stage holds a legal instruction with this opcode. -/
def exec0Is (c : Core) (o : Opcode) : Bool := c.latches.exec0.any fun e => e.is o

def exec1Is (c : Core) (o : Opcode) : Bool := c.latches.exec1.any fun e => e.is o

/-- A load in Exec0 behind a store in Exec1: both want the data port. -/
def structural (c : Core) : Bool := c.exec0Is .ld && c.exec1Is .st

/-- The instruction in Exec0 waits for the load in Exec1. -/
def loadUse (c : Core) : Bool := c.latches.exec0.any fun e => e.inst.awaitsLoad c.latches.exec1

def stall (c : Core) : Bool := c.structural || c.loadUse

/-- The pipeline takes the data port in this cycle. -/
def dmaConflict (c : Core) : Bool := !c.stall && c.exec0Is .ld || c.exec1Is .st

/-- The copy engine is free, and no request is on its way to it. -/
def dmaFree (c : Core) : Bool := !c.dma.busy && !c.exec1Is .dma

def signals (c : Core) : Signals where
  stall := c.stall
  structural := c.structural
  loadUse := c.loadUse
  dec1 := c.latches.dec1.map c.dec1Operands
  exec0 := c.latches.exec0.map c.exec0Operands
  dmaConflict := c.dmaConflict

end Core

end SixStage
