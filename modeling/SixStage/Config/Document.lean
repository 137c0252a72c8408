-- Configurations as JSON. The settings stand in four sections.
import SixStage.Config
import SixStage.Json.Record

namespace SixStage.Config

open Json (readRecord readBool readString readNat readNat?)

def generalFields : List (Json.Field Config) :=
  [.of "max_cycles" readNat? fun c n => { c with maxCycles := n }]

def pipelineFields : List (Json.Field Config) :=
  [.of "btb_size" readNat fun c n => { c with predictorSize := n }]

def memoryFields : List (Json.Field Config) :=
  [.of "sram_height" readNat fun c n => { c with memoryHeight := n }]

def traceFields : List (Json.Field TraceConfig) :=
  [.of "enabled" readBool fun t b => { t with enabled := b },
    .of "output_dir" readString fun t d => { t with outputDir := d },
    .of "instructions" readBool fun t b => { t with instructions := b },
    .of "cycles" readBool fun t b => { t with cycles := b },
    .of "dma" readBool fun t b => { t with dma := b },
    .of "dump_memory" readBool fun t b => { t with dumpMemory := b }]

def sections : List (Json.Field Config) :=
  [⟨"general", readRecord generalFields⟩,
    ⟨"pipeline", readRecord pipelineFields⟩,
    ⟨"memory", readRecord memoryFields⟩,
    .of "trace" (readRecord traceFields .standard) fun c t => { c with trace := t }]

/-- Reads a configuration that a machine can have. -/
def ofJson (text : String) : Except ConfigFault Config :=
  match Json.readDocument sections .standard text with
  | .error e => .error (.document e)
  | .ok c =>
    match c.fault? with
    | some fault => .error fault
    | none => .ok c

end SixStage.Config
