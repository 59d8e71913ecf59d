import PropertySettings.Text.Basic
import PropertySettings.Text.Printable

/-!
# Quoted texts

A text is quoted so that it fits on one line and can be read back. The **mark** around it is a
single quote, or a double quote where the text holds single quotes and no double ones. Inside, the
mark and the backslash follow a backslash; line feed, carriage return and tab are written `\n`,
`\r` and `\t`; any other character that is not printable is written by its code point in two, four
or eight hexadecimal digits, after `\x`, `\u` or `\U`.
-/

namespace PropertySettings.Text

/-- Exactly `width` lower-case hexadecimal digits, those of the lowest places. -/
def hexDigits : (width : Nat) → Nat → Text
  | 0, _ => []
  | width + 1, n => hexDigits width (n / 16) ++ [Nat.digitChar (n % 16)]

@[simp]
theorem length_hexDigits (width n : Nat) : (hexDigits width n).length = width := by
  induction width generalizing n with
  | zero => rfl
  | succ width ih => simp [hexDigits, ih]

namespace Quoted

/-- The mark that is used around a text. -/
def mark (t : Text) : Char :=
  if '\x27' ∈ t ∧ '\x22' ∉ t then '\x22' else '\x27'

/-- A code point by its number. -/
def escapeNumber (c : Char) : Text :=
  let n := c.toNat
  if n < 0x100 then '\\' :: 'x' :: hexDigits 2 n
  else if n < 0x10000 then '\\' :: 'u' :: hexDigits 4 n
  else '\\' :: 'U' :: hexDigits 8 n

/-- A code point as it stands between two marks. -/
def escape (mark c : Char) : Text :=
  if c = mark ∨ c = '\\' then ['\\', c]
  else if c = '\n' then ['\\', 'n']
  else if c = '\r' then ['\\', 'r']
  else if c = '\t' then ['\\', 't']
  else if isPrintable c then [c]
  else escapeNumber c

end Quoted

/-- The text between quotation marks, on one line. -/
def quoted (t : Text) : Text :=
  Quoted.mark t :: t.flatMap (Quoted.escape (Quoted.mark t)) ++ [Quoted.mark t]

/-- The text with every character that is not ASCII written by its code point. -/
def ascii (t : Text) : Text :=
  t.flatMap fun c => if c.toNat < 0x80 then [c] else Quoted.escapeNumber c

end PropertySettings.Text
