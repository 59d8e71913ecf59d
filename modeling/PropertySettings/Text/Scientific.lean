import PropertySettings.Text.Numeral

/-!
# Numbers with a point

Natural numbers written with a point: in **fixed** notation with a given number of places, in
**scientific** notation as a leading digit, places and a power of ten, and in **general** notation
as whichever of the two suits the number, without zeros at the end. Where digits are left out, the
number is rounded to the nearest one that is written, a tie to the even digit.
-/

namespace PropertySettings.Scientific

/-- The quotient rounded to the nearest number, and a tie to the even one. -/
def roundDiv (n d : Nat) : Nat :=
  if d < 2 * (n % d) ∨ (2 * (n % d) = d ∧ n / d % 2 = 1) then n / d + 1 else n / d

/-- The first `count` digits of a number, rounded, and the power of ten of the first one. -/
def leading (count n : Nat) : Text × Nat :=
  let digits := Numeral.ofNat n
  let power := digits.length - 1
  if digits.length ≤ count then (digits ++ List.replicate (count - digits.length) '0', power)
  else
    let rounded := Numeral.ofNat (roundDiv n (Nat.pow 10 (digits.length - count)))
    (rounded.take count, power + (rounded.length - count))

/-- Digits before and after a point. A point with nothing behind it is left out unless it is asked
for. -/
def withPoint (keepPoint : Bool) (whole places : Text) : Text :=
  if places = [] ∧ ¬keepPoint then whole else whole ++ '.' :: places

/-- Digits without the zeros at the end. -/
def trimmed (digits : Text) : Text :=
  (digits.reverse.dropWhile (· = '0')).reverse

/-- A power of ten behind its mark, with two digits at least. -/
def exponent (mark : Char) (power : Nat) : Text :=
  let digits := Numeral.ofNat power
  [mark, '+'] ++ List.replicate (2 - digits.length) '0' ++ digits

/-- Fixed notation. -/
def fixed (keepPoint : Bool) (places n : Nat) : Text :=
  withPoint keepPoint (Numeral.ofNat n) (List.replicate places '0')

/-- Scientific notation. -/
def scientific (mark : Char) (keepPoint : Bool) (places n : Nat) : Text :=
  let (digits, power) := leading (places + 1) n
  withPoint keepPoint (digits.take 1) (digits.drop 1) ++ exponent mark power

/-- General notation with a number of digits: scientific if the digits do not reach the units. Where
a point is asked for, the zeros at the end stay. -/
def general (mark : Char) (keepPoint : Bool) (count n : Nat) : Text :=
  let (digits, power) := leading (max count 1) n
  let trim := if keepPoint then id else trimmed
  if power < max count 1 then
    withPoint keepPoint (digits.take (power + 1)) (trim (digits.drop (power + 1)))
  else withPoint keepPoint (digits.take 1) (trim (digits.drop 1)) ++ exponent mark power

end PropertySettings.Scientific
