import PropertySettings.ConfigError
import PropertySettings.Text.LetterCase

/-!
# Reading property values

A property value is read as a **flag**, which is on if the value is `true` in any letter case and
off for every other value, or as an **integer**, which must be a decimal numeral of at most 4300
digits. For an absent value the given default is taken.
-/

namespace PropertySettings

/-- The flag that a value sets. -/
def readFlag (raw : Option Text) (default : Bool) : Bool :=
  match raw with
  | none => default
  | some raw => Text.lower raw = "true".toList

/-- The integer that a value denotes. -/
def readInteger (key : Text) (raw : Option Text) (default : Int) : Except Failure Int :=
  match raw with
  | none => .ok default
  | some raw =>
    match Numeral.ofText? raw with
    | none => .error (.config (.invalidFormat key raw))
    | some numeral =>
      if Numeral.digitLimit < numeral.digits.length then
        .error (.tooManyDigits numeral.digits.length)
      else .ok numeral.value

end PropertySettings
