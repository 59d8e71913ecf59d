import PropertySettings.Text.Basic
import PropertySettings.Text.CodePoints

/-!
# Blanks

The **blanks** are the white space of Unicode together with the four information separators
`U+001C` to `U+001F`. `Text.strip` takes them off both ends of a text.
-/

namespace PropertySettings.Text

/-- The code points that count as white space. -/
def blanks : CodePoints where
  ranges := [
    (0x9, 0xd), (0x1c, 0x20), (0x85, 0x85), (0xa0, 0xa0), (0x1680, 0x1680), (0x2000, 0x200a),
    (0x2028, 0x2029), (0x202f, 0x202f), (0x205f, 0x205f), (0x3000, 0x3000)]

/-- Whether the code point is white space. -/
def isBlank (c : Char) : Bool :=
  blanks.contains c.toNat

/-- The text without the blanks at its start. -/
def stripLeft (t : Text) : Text :=
  t.dropWhile isBlank

/-- The text without the blanks at its end. -/
def stripRight (t : Text) : Text :=
  (stripLeft t.reverse).reverse

/-- The text without the blanks at either end. -/
def strip (t : Text) : Text :=
  stripRight (stripLeft t)

end PropertySettings.Text
