-- Numbers in base sixteen, as the traces and dumps write them: lower
-- case, padded with zeros to a least width, and never cut.
import SixStage.Word

namespace SixStage.Text

/-- The lower case digit of a number below sixteen. -/
def hexDigit (n : Nat) : Char :=
  if n < 10 then Char.ofNat (48 + n) else Char.ofNat (87 + n)

theorem hexDigit_eq {n : Nat} (h : n < 16) : hexDigit n = n.digitChar := by
  have all : ∀ n < 16, hexDigit n = n.digitChar := by decide
  exact all n h

/-- The digits of `n`, with no leading zero, after `acc`. Zero has none. -/
def hexDigits (n : Nat) (acc : List Char) : List Char :=
  if n = 0 then acc else hexDigits (n / 16) (hexDigit (n % 16) :: acc)

/-- The last `width` digits of `n`, and before them all that are left of it. -/
def hexChars : Nat → Nat → List Char
  | 0, n => hexDigits n []
  | width + 1, n => hexChars width (n / 16) ++ [hexDigit (n % 16)]

/-- `n` with at least `width` digits. -/
def hex (width n : Nat) : String := String.ofList (hexChars width n)

def hexAddr (a : Addr) : String := hex 4 a.toNat

/-- A word has eight digits; a negative one shows its two's complement. -/
def hexWord (w : Word) : String := hex 8 w.toNat

end SixStage.Text
