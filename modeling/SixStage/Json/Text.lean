-- The strings of JSON. One that is used is decoded, and its escapes must
-- make characters; one that is skipped must only be well formed.
import SixStage.Json.Basic

namespace SixStage.Json

/-- The value of a digit in base sixteen. -/
def hexDigit? (b : UInt8) : Option Nat :=
  if 48 ≤ b ∧ b ≤ 57 then some (b.toNat - 48)
  else if 97 ≤ b ∧ b ≤ 102 then some (b.toNat - 87)
  else if 65 ≤ b ∧ b ≤ 70 then some (b.toNat - 55)
  else none

/-- The number of four digits in base sixteen. With fewer than four bytes left the
text has ended, whatever they are. -/
def hex4 : Reader Nat
  | a :: b :: c :: d :: s =>
    match hexDigit? a, hexDigit? b, hexDigit? c, hexDigit? d with
    | some a, some b, some c, some d => .ok (((a * 16 + b) * 16 + c) * 16 + d, s)
    | _, _, _, _ => .error .malformed
  | _ => .error .ended

/-- The second of two escapes that make one character, after its first half `n`. -/
def lowHalf (n : Nat) : Reader Char
  | [] => .error .ended
  | 92 :: [] => .error .ended
  | 92 :: 117 :: s =>
    match hex4 s with
    | .error e => .error e
    | .ok (m, s) =>
      if 0xdc00 ≤ m ∧ m ≤ 0xdfff then
        .ok (Char.ofNat ((n - 0xd800) * 0x400 + (m - 0xdc00) + 0x10000), s)
      else .error .malformed
  | _ => .error .malformed

/-- The character of an escape that gives its number, or the first half of it. -/
def numberedChar (s : Bytes) : Except Fault (Char × Bytes) :=
  match hex4 s with
  | .error e => .error e
  | .ok (n, s) =>
    if 0xdc00 ≤ n ∧ n ≤ 0xdfff then .error .malformed
    else if 0xd800 ≤ n ∧ n ≤ 0xdbff then lowHalf n s
    else .ok (Char.ofNat n, s)

/-- The character that a letter after a backslash stands for. -/
def escape? (b : UInt8) : Option Char :=
  match Char.ofUInt8 b with
  | '"' => some '"'
  | '\\' => some '\\'
  | '/' => some '/'
  | 'b' => some '\x08'
  | 'f' => some '\x0c'
  | 'n' => some '\n'
  | 'r' => some '\r'
  | 't' => some '\t'
  | _ => none

/-- What follows a backslash. -/
def escaped : Reader Char
  | [] => .error .ended
  | b :: s =>
    if b = 117 then numberedChar s
    else
      match escape? b with
      | some c => .ok (c, s)
      | none => .error .malformed

/-- The rest of a string after its opening quote, put behind `acc`. The fuel is one
more than there are bytes. -/
def textFrom : Nat → ByteArray → Reader String
  | 0, _, _ => .error .ended
  | fuel + 1, acc, s =>
    match s with
    | [] => .error .ended
    | b :: rest =>
      if b = 34 then
        match String.fromUTF8? acc with
        | some t => .ok (t, rest)
        | none => .error .malformed
      else if b = 92 then
        match escaped rest with
        | .error e => .error e
        | .ok (c, rest) => textFrom fuel (acc ++ c.toString.toUTF8) rest
      else if b < 32 then .error .malformed
      else textFrom fuel (acc.push b) rest

/-- The rest of a string after its opening quote. -/
def text : Reader String := fun s => textFrom (s.length + 1) .empty s

/-- Takes the rest of a string off the front, whatever its characters are. -/
def skipTextFrom : Nat → Bytes → Except Fault Bytes
  | 0, _ => .error .ended
  | fuel + 1, s =>
    match s with
    | [] => .error .ended
    | b :: rest =>
      if b = 34 then .ok rest
      else if b < 32 then .error .malformed
      else if b ≠ 92 then skipTextFrom fuel rest
      else
        match rest with
        | [] => .error .ended
        | e :: rest =>
          if e = 117 then
            match hex4 rest with
            | .error e => .error e
            | .ok (_, rest) => skipTextFrom fuel rest
          else if (escape? e).isSome then skipTextFrom fuel rest
          else .error .malformed

def skipText (s : Bytes) : Except Fault Bytes := skipTextFrom (s.length + 1) s

end SixStage.Json
