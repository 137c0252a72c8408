-- Everything that can end a run before its program halts, and the message
-- for each.
import SixStage.Config
import SixStage.Image
import SixStage.Isa.Trap
import SixStage.Text.Quoted

namespace SixStage

inductive Fault where
  /-- The file of the image cannot be read, or is not text. -/
  | imageOpen (path : String) (cause : IoFault)
  /-- A line of the image, counted from one, is no word. -/
  | imageFormat (line : Nat) (text : String)
  /-- An illegal instruction reached the last stage. -/
  | illegalOpcode (trap : Trap)
  /-- The limit of cycles passed before the program halted. -/
  | cycleLimit (limit : Nat)
  | config (cause : ConfigFault)
  /-- A trace or a dump cannot be written. -/
  | io (cause : IoFault)
  deriving DecidableEq, Repr, Inhabited

def Fault.message : Fault → String
  | imageOpen path cause => s!"couldn't open file {path}: {cause.message}"
  | imageFormat line text => s!"malformed image line {line}: {Text.quoted text}"
  | illegalOpcode trap => s!"illegal opcode {trap.opcode.toNat} {trap.place}"
  | cycleLimit limit => s!"cycle limit of {limit} reached before halt"
  | config cause => s!"invalid configuration: {cause.message}"
  | io cause => s!"trace output error: {cause.message}"

/-- The fault of text that is no image. -/
def Image.Fault.toFault : Image.Fault → SixStage.Fault
  | .notText => .io .notText
  | .malformed line text => .imageFormat line text

end SixStage
