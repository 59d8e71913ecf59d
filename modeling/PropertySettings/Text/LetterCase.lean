import PropertySettings.Text.LetterCase.Lower
import PropertySettings.Text.LetterCase.Upper
import PropertySettings.Text.LetterCase.Context

/-!
# Letter case of texts

`Text.upper` maps each code point by itself. `Text.lower` does so too, except for the capital
sigma: it becomes `ς` at the end of a word and `σ` elsewhere.
-/

namespace PropertySettings.Text

/-- The text in upper case. -/
def upper (t : Text) : Text :=
  t.flatMap upperTable.image

/-- Whether the first code point that is not looked through belongs to a word. -/
def meetsCased (neighbours : Text) : Bool :=
  match neighbours.find? (fun c => !caseIgnorable.contains c.toNat) with
  | some c => cased.contains c.toNat
  | none => false

/-- The lower case of one code point between the code points before it, nearest first, and those
after it. -/
def lowerAt (before : Text) (c : Char) (after : Text) : Text :=
  if c = 'Σ' then
    if meetsCased before && !meetsCased after then ['ς'] else ['σ']
  else lowerTable.image c

/-- The lower case of a text that follows `before`, whose nearest code point is the first. -/
def lowerAfter (before : Text) : Text → Text
  | [] => []
  | c :: rest => lowerAt before c rest ++ lowerAfter (c :: before) rest

/-- The text in lower case. -/
def lower (t : Text) : Text :=
  lowerAfter [] t

end PropertySettings.Text
