-- The settings of a run: the size of the predictor and of the memories, the
-- limit of cycles, and what is traced where.
import SixStage.IoFault
import SixStage.Json.Basic
import SixStage.Path

namespace SixStage

/-- What is written beside the run. -/
structure TraceConfig where
  /-- Without it nothing is written at all. -/
  enabled : Bool
  outputDir : String
  instructions : Bool
  cycles : Bool
  dma : Bool
  /-- Dump both memories when the program halts. -/
  dumpMemory : Bool
  deriving DecidableEq, Repr, Inhabited

namespace TraceConfig

/-- Everything is written, in the current directory. -/
def standard : TraceConfig := ⟨true, ".", true, true, true, true⟩

def instPath (t : TraceConfig) : String := Path.join t.outputDir "inst_trace.txt"

def cyclePath (t : TraceConfig) : String := Path.join t.outputDir "cycle_trace.txt"

def dmaPath (t : TraceConfig) : String := Path.join t.outputDir "dma_trace.txt"

def imemPath (t : TraceConfig) : String := Path.join t.outputDir "srami_out.txt"

def dmemPath (t : TraceConfig) : String := Path.join t.outputDir "sramd_out.txt"

end TraceConfig

structure Config where
  /-- The run stops after this many cycles; without it, never. -/
  maxCycles : Option Nat
  /-- The number of entries of the branch predictor. -/
  predictorSize : Nat
  /-- The number of words of each memory. -/
  memoryHeight : Nat
  trace : TraceConfig
  deriving DecidableEq, Repr, Inhabited

/-- Why a configuration is of no use. -/
inductive ConfigFault where
  /-- The file that holds it cannot be read. -/
  | unreadable (path : String) (cause : IoFault)
  /-- Its text is no JSON for the settings. -/
  | document (cause : Json.Fault)
  | predictorSize
  | memoryHeight (n : Nat)
  | maxCycles
  deriving DecidableEq, Repr, Inhabited

namespace Config

/-- As many words as there are addresses. -/
def maxHeight : Nat := 65536

/-- The settings where nothing else is said. -/
def standard : Config := ⟨none, 8, maxHeight, .standard⟩

/-- The first setting that no machine can have, if there is one. -/
def fault? (c : Config) : Option ConfigFault :=
  if c.predictorSize = 0 then some .predictorSize
  else if c.memoryHeight = 0 ∨ maxHeight < c.memoryHeight then
    some (.memoryHeight c.memoryHeight)
  else if c.maxCycles = some 0 then some .maxCycles
  else none

end Config

def ConfigFault.message : ConfigFault → String
  | unreadable path cause => s!"{path}: {cause.message}"
  | document cause => cause.message
  | predictorSize => "pipeline.btb_size must be non-zero"
  | memoryHeight n => s!"memory.sram_height must be in 1..={Config.maxHeight}, got {n}"
  | maxCycles => "general.max_cycles must be non-zero"

end SixStage
