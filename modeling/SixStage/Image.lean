-- Memory images. A line of an image holds a word of one to eight digits in
-- base sixteen, with blanks around it; blank lines do not count. Words
-- beyond the capacity of the memory end the reading, unread.
import SixStage.Text.Blank
import SixStage.Word

namespace SixStage

structure Image where
  words : List Word
  /-- There were more words than the capacity. -/
  truncated : Bool
  deriving DecidableEq, Repr, Inhabited

namespace Image

/-- Why a file is no image. -/
inductive Fault where
  /-- A line is not UTF-8. -/
  | notText
  /-- A line, counted from one, is no word. It is given without the blanks. -/
  | malformed (line : Nat) (text : String)
  deriving DecidableEq, Repr

/-! ## Words -/

/-- The value of a digit in base sixteen, of either case. -/
def digit? (c : Char) : Option Nat :=
  if '0' ≤ c ∧ c ≤ '9' then some (c.toNat - 48)
  else if 'a' ≤ c ∧ c ≤ 'f' then some (c.toNat - 87)
  else if 'A' ≤ c ∧ c ≤ 'F' then some (c.toNat - 55)
  else none

/-- The number that digits after those of `n` make, if all are digits. -/
def number? (n : Nat) : List Char → Option Nat
  | [] => some n
  | c :: l =>
    match digit? c with
    | none => none
    | some d => number? (16 * n + d) l

def word? (l : List Char) : Option Word :=
  if l.length = 0 ∨ 8 < l.length then none else (number? 0 l).map (BitVec.ofNat 32)

/-! ## Lines -/

def prependByte (b : UInt8) (lines : List (List UInt8)) : List (List UInt8) :=
  if b = 10 then [] :: lines
  else
    match lines with
    | [] => [[b]]
    | line :: rest => (b :: line) :: rest

/-- The lines of a file, without their newlines. A last line needs none. -/
def linesOf (bytes : List UInt8) : List (List UInt8) := bytes.foldr prependByte []

/-- The text of a line without the blanks at its ends; none if it is not UTF-8. -/
def lineText? (line : List UInt8) : Option (List Char) :=
  (String.fromUTF8? line.toByteArray).map fun s => Text.trim s.toList

/-- Reads lines from number `n` on, after the words read so far. -/
def scan (capacity n : Nat) (words : Array Word) : List (List UInt8) → Except Fault Image
  | [] => .ok ⟨words.toList, false⟩
  | line :: rest =>
    match lineText? line with
    | none => .error .notText
    | some [] => scan capacity (n + 1) words rest
    | some (c :: text) =>
      if words.size = capacity then .ok ⟨words.toList, true⟩
      else
        match word? (c :: text) with
        | none => .error (.malformed n (String.ofList (c :: text)))
        | some w => scan capacity (n + 1) (words.push w) rest

/-- Reads an image of at most `capacity` words. -/
def parse (bytes : List UInt8) (capacity : Nat) : Except Fault Image :=
  scan capacity 1 #[] (linesOf bytes)

end Image

end SixStage
