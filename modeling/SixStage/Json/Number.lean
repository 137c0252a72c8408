-- The numbers of JSON. Only natural numbers below 2^64 are of use; any other
-- number is read as a float, which must at least be finite. One that is
-- skipped must only be well formed.
import SixStage.Json.Basic

namespace SixStage.Json

/-- A number as written: a natural one, or another one that is finite. -/
inductive Number where
  | natural (n : Nat)
  | other
  deriving DecidableEq, Repr

/-- Natural numbers stay below this. -/
def naturalBound : Nat := Nat.pow 2 64

/-- Exponents stay below this. -/
def exponentBound : Nat := Nat.pow 2 31

def digitValue (b : UInt8) : Nat := b.toNat - 48

/-- The quotient `significand · 10^exponent` is finite as a float. -/
def isFinite (significand : Nat) (exponent : Int) : Bool :=
  if exponent < 0 ∨ significand = 0 then true
  else if 308 < exponent then false
  else !(significand.toFloat * Float.ofScientific 1 false exponent.toNat).isInf

/-- Ends a number that is not natural. -/
def finish (significand : Nat) (exponent : Int) (s : Bytes) : Except Fault (Number × Bytes) :=
  if isFinite significand exponent then .ok (.other, s) else .error .malformed

/-- The digits of an exponent after its sign and its first digit. One that is too
large makes the number infinite, unless it is zero or very small. -/
def exponentFrom (significand : Nat) (start : Int) (negative : Bool) (n : Nat) : Reader Number
  | [] => finish significand (if negative then start - n else start + n) []
  | b :: s =>
    if isDigit b then
      if exponentBound ≤ n * 10 + digitValue b then
        if significand ≠ 0 ∧ !negative then .error .malformed
        else .ok (.other, s.dropWhile isDigit)
      else exponentFrom significand start negative (n * 10 + digitValue b) s
    else finish significand (if negative then start - n else start + n) (b :: s)

def exponentDigits (significand : Nat) (start : Int) (negative : Bool) : Reader Number
  | [] => .error .ended
  | b :: s =>
    if isDigit b then exponentFrom significand start negative (digitValue b) s
    else .error .malformed

def exponent (significand : Nat) (start : Int) : Reader Number
  | 43 :: s => exponentDigits significand start false s
  | 45 :: s => exponentDigits significand start true s
  | s => exponentDigits significand start false s

/-- What follows the last digit before an exponent. -/
def exponentOrEnd (significand : Nat) (start : Int) : Reader Number
  | 101 :: s => exponent significand start s
  | 69 :: s => exponent significand start s
  | s => finish significand start s

def decimals (significand : Nat) (start : Int) (count : Nat) : Reader Number
  | [] => if count = 0 then .error .ended else exponentOrEnd significand (start - count) []
  | b :: s =>
    if isDigit b then
      if naturalBound ≤ significand * 10 + digitValue b then
        exponentOrEnd significand (start - count) ((b :: s).dropWhile isDigit)
      else decimals (significand * 10 + digitValue b) start (count + 1) s
    else if count = 0 then .error .malformed
    else exponentOrEnd significand (start - count) (b :: s)

/-- The digits that the significand has no room for, of which `count` came before. -/
def longDigits (significand count : Nat) : Reader Number
  | 46 :: s => decimals significand count 0 s
  | b :: s =>
    if isDigit b then longDigits significand (count + 1) s
    else exponentOrEnd significand count (b :: s)
  | [] => exponentOrEnd significand count []

/-- What follows the digits of a whole number. A negative one is not natural, and
neither is a negative zero. -/
def wholeOrMore (negative : Bool) (n : Nat) : Reader Number
  | 46 :: s => decimals n 0 0 s
  | 101 :: s => exponent n 0 s
  | 69 :: s => exponent n 0 s
  | s => .ok (if negative then .other else .natural n, s)

/-- The digits of a number after its first ones, which make `n`. -/
def wholeDigits (negative : Bool) (n : Nat) : Reader Number
  | [] => wholeOrMore negative n []
  | b :: s =>
    if isDigit b then
      if naturalBound ≤ n * 10 + digitValue b then longDigits n 0 (b :: s)
      else wholeDigits negative (n * 10 + digitValue b) s
    else wholeOrMore negative n (b :: s)

/-- A number after its sign. A zero in front stands alone. -/
def unsigned (negative : Bool) : Reader Number
  | [] => .error .ended
  | 48 :: s =>
    match s with
    | b :: _ => if isDigit b then .error .malformed else wholeOrMore negative 0 s
    | [] => wholeOrMore negative 0 []
  | b :: s => if isDigit b then wholeDigits negative (digitValue b) s else .error .malformed

def number : Reader Number
  | 45 :: s => unsigned true s
  | s => unsigned false s

/-! ## Skipping -/

/-- One digit or more. -/
def skipDigits : Bytes → Except Fault Bytes
  | [] => .error .malformed
  | b :: s => if isDigit b then .ok (s.dropWhile isDigit) else .error .malformed

def skipExponent : Bytes → Except Fault Bytes
  | 43 :: s => skipDigits s
  | 45 :: s => skipDigits s
  | s => skipDigits s

def skipExponentOrEnd : Bytes → Except Fault Bytes
  | 101 :: s => skipExponent s
  | 69 :: s => skipExponent s
  | s => .ok s

def skipFraction : Bytes → Except Fault Bytes
  | 46 :: s =>
    match skipDigits s with
    | .error e => .error e
    | .ok s => skipExponentOrEnd s
  | s => skipExponentOrEnd s

def skipUnsigned : Bytes → Except Fault Bytes
  | 48 :: s =>
    match s with
    | b :: _ => if isDigit b then .error .malformed else skipFraction s
    | [] => .ok []
  | s =>
    match skipDigits s with
    | .error e => .error e
    | .ok s => skipFraction s

/-- Takes a number off the front, whatever it is. -/
def skipNumber : Bytes → Except Fault Bytes
  | 45 :: s => skipUnsigned s
  | s => skipUnsigned s

end SixStage.Json
