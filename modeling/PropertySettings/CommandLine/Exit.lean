import PropertySettings.Workspace

/-!
# Exits

A program ends with a code, `0` for success and `2` for a configuration that cannot be used, and may
have a last message for the standard output.
-/

namespace PropertySettings

/-- The end of a program. -/
structure Exit where
  code : Int
  message : Option Text
deriving DecidableEq

namespace Exit

def success (message : Option Text) : Exit :=
  ⟨0, message⟩

def configError (message : Option Text) : Exit :=
  ⟨2, message⟩

/-- What is printed; an empty message is not. -/
def printed (e : Exit) : List (Stream × Text) :=
  match e.message with
  | none | some [] => []
  | some message => [(.stdout, message ++ ['\n'])]

end Exit

end PropertySettings
