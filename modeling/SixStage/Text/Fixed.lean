-- Decimals with a fixed number of places. The value printed is the exact
-- one of a binary fraction, rounded once; a half goes to the even neighbour.

namespace SixStage.Text

/-- `num / den` rounded to the nearest whole number, and a half to the even one. -/
def roundHalfEven (num den : Nat) : Nat :=
  let q := num / den
  let twice := 2 * (num % den)
  if twice < den then q
  else if den < twice then q + 1
  else q + q % 2

/-- `n` in decimal, with zeros before it up to `width` digits. -/
def zeroPadded (width n : Nat) : String :=
  let digits := toString n
  String.ofList (List.replicate (width - digits.length) '0') ++ digits

/-- `num / den` with the given number of places, which is not zero. -/
def fixedRatio (places num den : Nat) : String :=
  let unit := Nat.pow 10 places
  let scaled := roundHalfEven (num * unit) den
  s!"{scaled / unit}.{zeroPadded places (scaled % unit)}"

/-- The exact value of a float that is neither negative nor infinite, as a
quotient: its bits hold a fraction of 52 bits below an exponent. -/
def floatRatio (x : Float) : Nat × Nat :=
  let bits := x.toBits.toNat
  let implicit := Nat.pow 2 52
  let exponent := bits / implicit % 2048
  let fraction := bits % implicit
  let significand := if exponent = 0 then fraction else implicit + fraction
  let scale := max exponent 1
  if 1075 ≤ scale then (significand * Nat.pow 2 (scale - 1075), 1)
  else (significand, Nat.pow 2 (1075 - scale))

/-- A float that is neither negative nor infinite, with the given number of places. -/
def fixed (places : Nat) (x : Float) : String :=
  let (num, den) := floatRatio x
  fixedRatio places num den

end SixStage.Text
