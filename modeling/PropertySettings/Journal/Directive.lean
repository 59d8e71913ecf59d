import PropertySettings.Text.Numeral
import PropertySettings.Text.Quoted
import PropertySettings.Text.Scientific

/-!
# Directives

A **directive** is a percent sign, the name of a field in parentheses, flags, a width, a precision
after a point, and a letter for the conversion. It converts texts, numbers, and values of other
kinds, of which it is known how they are shown. A letter may convert one kind of value and not
another; widths and precisions have limits.
-/

namespace PropertySettings

/-- A directive taken apart. -/
structure Directive where
  field : Option Text
  flags : Text
  width : Nat
  precision : Option Nat
  conversion : Char

namespace Directive

/-! ### Reading -/

/-- The greatest width that is read: the greatest signed number of 64 bits. -/
def widthLimit : Nat := 0x7fffffffffffffff

/-- The greatest precision that is read: the greatest signed number of 32 bits. -/
def precisionLimit : Nat := 0x7fffffff

/-- The greatest precision by which whole numbers are converted, whose sign and mark of the base are
counted in. -/
def digitsLimit : Nat := precisionLimit - 3

/-- The characters that can be flags. -/
def isFlag (c : Char) : Bool :=
  c ∈ ['#', '0', '+', ' ', '-']

/-- The field name in parentheses, if there is one, and the rest. -/
def takeField? : Text → Option (Option Text × Text)
  | '(' :: t =>
    match t.dropWhile (· ≠ ')') with
    | ')' :: rest => some (some (t.takeWhile (· ≠ ')')), rest)
    | _ => none
  | t => some (none, t)

/-- The precision, if there is one, and the rest. -/
def takePrecision : Text → Option Nat × Text
  | '.' :: t => (some (Numeral.magnitude (t.takeWhile Char.isDigit)), t.dropWhile Char.isDigit)
  | t => (none, t)

/-- The rest after a letter that tells the size of a number, which is of no effect. -/
def dropSize : Text → Text
  | 'h' :: t => t
  | 'l' :: t => t
  | 'L' :: t => t
  | t => t

/-- Takes apart the directive whose percent sign has been read, and gives the rest. -/
def ofText? (t : Text) : Option (Directive × Text) :=
  match takeField? t with
  | none => none
  | some (field, afterField) =>
    let afterFlags := afterField.dropWhile isFlag
    let width := Numeral.magnitude (afterFlags.takeWhile Char.isDigit)
    let (precision, afterPrecision) := takePrecision (afterFlags.dropWhile Char.isDigit)
    match dropSize afterPrecision with
    | [] => none
    | conversion :: rest =>
      if width ≤ widthLimit ∧ precision.getD 0 ≤ precisionLimit then
        some (⟨field, afterField.takeWhile isFlag, width, precision, conversion⟩, rest)
      else none

/-! ### Converting -/

/-- The text brought to the width of the directive by spaces. -/
def pad (d : Directive) (t : Text) : Text :=
  if '-' ∈ d.flags then Text.padRight d.width t
  else List.replicate (d.width - t.length) ' ' ++ t

/-- The text cut to the precision of the directive and brought to its width. -/
def fit (d : Directive) (t : Text) : Text :=
  match d.precision with
  | some n => d.pad (t.take n)
  | none => d.pad t

/-- A value of any kind as the directive converts it, by the text that shows the value. -/
def convertShown (d : Directive) (shown : Text) : Option Text :=
  match d.conversion with
  | 's' | 'r' => some (d.fit shown)
  | 'a' => some (d.fit (Text.ascii shown))
  | _ => none

/-- A text as the directive converts it. -/
def convertText (d : Directive) (t : Text) : Option Text :=
  match d.conversion with
  | 's' => some (d.fit t)
  | 'c' => if t.length = 1 then some (d.pad t) else none
  | _ => d.convertShown (Text.quoted t)

/-- The digits of a number after its sign and a mark of the base. Zeros that fill the width stand
before the digits, spaces outside. -/
def padNumber (d : Directive) (mark digits : Text) : Text :=
  let sign := if '+' ∈ d.flags then ['+'] else if ' ' ∈ d.flags then [' '] else []
  let front := sign ++ mark
  if '0' ∈ d.flags ∧ '-' ∉ d.flags then
    front ++ List.replicate (d.width - (front.length + digits.length)) '0' ++ digits
  else d.pad (front ++ digits)

/-- A whole number in the base of the digits; the precision is the least number of digits. -/
def convertDigits (d : Directive) (mark digits : Text) : Option Text :=
  let least := d.precision.getD 0
  if least ≤ digitsLimit then
    some (d.padNumber (if '#' ∈ d.flags then mark else [])
      (List.replicate (least - digits.length) '0' ++ digits))
  else none

/-- A number with a point, written by a notation. -/
def convertPoint (d : Directive) (notate : (keepPoint : Bool) → Nat → Nat → Text) (n : Nat) :
    Text :=
  d.padNumber [] (notate ('#' ∈ d.flags) (d.precision.getD 6) n)

/-- A number as the directive converts it; it may stand for the character of this code point. -/
def convertNumber (d : Directive) (n : Nat) : Option Text :=
  match d.conversion with
  | 'd' | 'i' | 'u' => d.convertDigits [] (Nat.toDigits 10 n)
  | 'o' => d.convertDigits "0o".toList (Nat.toDigits 8 n)
  | 'x' => d.convertDigits "0x".toList (Nat.toDigits 16 n)
  | 'X' => d.convertDigits "0X".toList ((Nat.toDigits 16 n).map Char.toUpper)
  | 'f' | 'F' => some (d.convertPoint Scientific.fixed n)
  | 'e' => some (d.convertPoint (Scientific.scientific 'e') n)
  | 'E' => some (d.convertPoint (Scientific.scientific 'E') n)
  | 'g' => some (d.convertPoint (Scientific.general 'e') n)
  | 'G' => some (d.convertPoint (Scientific.general 'E') n)
  | 'c' => if n.isValidChar then some (d.pad [Char.ofNat n]) else none
  | _ => d.convertShown (Numeral.ofNat n)

end Directive

end PropertySettings
