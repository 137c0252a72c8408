-- Reading JSON, byte by byte. A reader takes what it reads off the front of
-- the bytes and leaves the rest. Where it fails, it says whether the text
-- ended too early, is not JSON, or is JSON that was not asked for; the first
-- of these that it meets counts.

namespace SixStage.Json

/-- Why a text cannot be read. -/
inductive Fault where
  /-- It ends too early. -/
  | ended
  /-- It is not JSON. -/
  | malformed
  /-- It is JSON of another shape than was asked for. -/
  | misshapen
  deriving DecidableEq, Repr, Inhabited

def Fault.message : Fault → String
  | .ended => "the document ends too early"
  | .malformed => "the document is not JSON"
  | .misshapen => "the document has another shape than expected"

abbrev Bytes := List UInt8

/-- Reads a value off the front of some bytes. -/
abbrev Reader (α : Type) := Bytes → Except Fault (α × Bytes)

/-- The four characters that may stand between tokens. -/
def isSpace (b : UInt8) : Bool := b = 32 ∨ b = 9 ∨ b = 10 ∨ b = 13

def isDigit (b : UInt8) : Bool := 48 ≤ b && b ≤ 57

def skipSpaces (s : Bytes) : Bytes := s.dropWhile isSpace

/-- Takes the letters of a word off the front. -/
def expectWord : List Char → Bytes → Except Fault Bytes
  | [], s => .ok s
  | _ :: _, [] => .error .ended
  | c :: word, b :: s => if Char.ofUInt8 b = c then expectWord word s else .error .malformed

end SixStage.Json
