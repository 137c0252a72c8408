-- A whole run of the program: arguments and files in, and out of it what is
-- printed, the exit code and the files that are there afterwards.
import SixStage.CommandLine
import SixStage.Config.Document
import SixStage.Machine

namespace SixStage

/-- What a run of the program leaves. -/
structure Outcome where
  exitCode : Nat
  /-- What is printed, when the run took so many seconds. -/
  output : (seconds : String) → String
  files : FileTree
  deriving Inhabited

namespace Session

def readConfig (files : FileTree) (path : String) : Except ConfigFault Config :=
  match files.read path with
  | .error e => .error (.unreadable path e)
  | .ok bytes =>
    match String.fromUTF8? bytes with
    | none => .error (.unreadable path .notText)
    | some text => Config.ofJson text

/-- The settings of a run: those of the file, if one is named, and over them those
of the options. -/
def settings (files : FileTree) (i : Invocation) : Except ConfigFault Config :=
  match i.config.elim (.ok Config.standard) (readConfig files) with
  | .error e => .error e
  | .ok c =>
    let trace : TraceConfig :=
      { c.trace with
        outputDir := i.traceDir.getD c.trace.outputDir
        enabled := c.trace.enabled && !i.noTrace }
    let c : Config := { c with trace := trace, maxCycles := i.maxCycles.or c.maxCycles }
    match c.fault? with
    | some e => .error e
    | none => .ok c

/-- What is printed when a run stops before the program halts. -/
def stopText (m : Machine) : String :=
  s!"\n[!] stopped at cycle {m.board.core.cycle}\n" ++ m.board.core.regs.render

/-- Runs a machine to its end. -/
def finish (m : Machine) : Outcome :=
  let (m, progress) := m.run Machine.forever
  match progress with
  | .failed e =>
    ⟨1, fun seconds => stopText m ++ m.stats.render seconds ++ e.message ++ "\n", m.close⟩
  | _ => ⟨0, fun seconds => m.stats.render seconds, m.close⟩

/-- A run that prints a text and leaves the files as they are. -/
def say (exitCode : Nat) (text : String) (files : FileTree) : Outcome :=
  ⟨exitCode, fun _ => text, files⟩

/-- A run that ends before its first cycle. -/
def fail (e : Fault) (files : FileTree) : Outcome := say 1 (e.message ++ "\n") files

def start (files : FileTree) (i : Invocation) (program : String) : Outcome :=
  match settings files i with
  | .error e => fail (.config e) files
  | .ok config =>
    match Machine.ofFile config program files with
    | (files, .error e) => fail e files
    | (_, .ok m) => finish m

def versionText : String := "sp 0.3.0\n"

def helpText : String :=
  "Run an SP memory image until HLT.\n\n" ++
  "Usage: sp [OPTIONS] <PROGRAM>\n\n" ++
  "Arguments:\n" ++
  "  <PROGRAM>  Memory image: one 32-bit hex word per line\n\n" ++
  "Options:\n" ++
  "  -c, --config <CONFIG>          JSON configuration document\n" ++
  "      --trace-dir <TRACE_DIR>    Directory for trace and dump files\n" ++
  "      --no-trace                 Disable every trace and dump file\n" ++
  "      --max-cycles <MAX_CYCLES>  Stop with an error after this many cycles\n" ++
  "  -v, --verbose...               Increase log verbosity\n" ++
  "  -h, --help                     Print help\n" ++
  "  -V, --version                  Print version\n"

/-- The program: exit code 0 if the image ran until it halted, 1 if it did not, and
2 for arguments that make no sense. -/
def run (args : List String) (files : FileTree) : Outcome :=
  match Invocation.ofArguments args with
  | .error .usage => say 2 "" files
  | .error .help => say 0 helpText files
  | .error .version => say 0 versionText files
  | .ok (i, program) => start files i program

/-- The paths that a run reads or writes, as far as the files tell. -/
def paths (args : List String) (files : FileTree) : List String :=
  match Invocation.ofArguments args with
  | .error _ => []
  | .ok (i, program) =>
    i.config.toList ++ program ::
      match settings files i with
      | .error _ => []
      | .ok c =>
        let t := c.trace
        if t.enabled then
          [t.outputDir, t.instPath, t.cyclePath, t.dmaPath, t.imemPath, t.dmemPath]
        else []

end Session

end SixStage
