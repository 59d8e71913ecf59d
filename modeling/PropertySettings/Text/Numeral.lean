import PropertySettings.Text.Basic

/-!
# Decimal numerals

A **numeral** is an optional sign and one or more of the ten ASCII digits, and nothing else. It is
read as the signed number it denotes in base ten, leading zeros allowed; a number is written
without them, and with a sign only if it is negative.
-/

namespace PropertySettings

/-- A numeral taken apart. -/
structure Numeral where
  negative : Bool
  digits : Text
deriving DecidableEq

namespace Numeral

/-- The digits, if there are any and nothing else. -/
def ofDigits? (negative : Bool) (t : Text) : Option Numeral :=
  if t ≠ [] ∧ t.all Char.isDigit then some ⟨negative, t⟩ else none

/-- Takes a numeral apart. -/
def ofText? : Text → Option Numeral
  | '+' :: t => ofDigits? false t
  | '-' :: t => ofDigits? true t
  | t => ofDigits? false t

/-- The number that digits denote, the first digit being the highest. -/
def magnitude (digits : Text) : Nat :=
  digits.foldl (fun n d => 10 * n + (d.toNat - '0'.toNat)) 0

/-- The number that the numeral denotes. -/
def value (numeral : Numeral) : Int :=
  if numeral.negative then -(magnitude numeral.digits : Int) else magnitude numeral.digits

/-- The greatest number of digits that a numeral may have to be read as a number, and a number to be
written; signs are not counted, leading zeros are. -/
def digitLimit : Nat := 4300

/-- The digits of a natural number. -/
def ofNat (n : Nat) : Text :=
  Nat.toDigits 10 n

/-- The shortest numeral of a number. -/
def ofInt : Int → Text
  | .ofNat n => ofNat n
  | .negSucc n => '-' :: ofNat (n + 1)

end Numeral

end PropertySettings
