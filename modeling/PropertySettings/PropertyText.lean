import PropertySettings.ConfigError
import PropertySettings.Property
import PropertySettings.Text.Blank

/-!
# Property sets as text

Properties are written in a **properties file**, a line each, or as **definitions** on a command
line. In a file, a key ends at the first `=` or `:`, blanks around key and value do not count, blank
lines and lines that begin with `#` or `!` are skipped, and a line without separator is a key with
an empty value. In a definition, a key ends at the first `=`, blanks around the key do not count,
those of the value do, and the key must not be blank.

Where both are given, definitions win over the file.
-/

namespace PropertySettings

/-! ### Properties files -/

namespace PropertyText

/-- The characters that end a key. -/
def isSeparator (c : Char) : Bool :=
  c = '=' || c = ':'

/-- The characters that begin a comment. -/
def beginsComment (c : Char) : Bool :=
  c = '#' || c = '!'

/-- The property in a line, if there is one. -/
def entry? (line : Text) : Option (Text × Text) :=
  let line := Text.strip line
  if line = [] ∨ line.head?.any beginsComment then none
  else
    some (Text.strip (line.takeWhile (¬ isSeparator ·)),
      Text.strip ((line.dropWhile (¬ isSeparator ·)).drop 1))

/-- The properties in lines; a key that is given again keeps its place and takes the new value. -/
def parse (lines : List Text) : Assignments Text Text :=
  .ofList (lines.filterMap entry?)

/-- The properties in a file. -/
def load (files : FileTree) (path : Path) : Except Failure (Assignments Text Text) :=
  match files.readText path with
  | .error failure => .error failure
  | .ok text => .ok (parse (Text.lines text))

end PropertyText

/-! ### Definitions -/

namespace Definition

/-- The key of a definition. -/
def key (definition : Text) : Text :=
  Text.strip (definition.takeWhile (· ≠ '='))

/-- The value of a definition. -/
def value (definition : Text) : Text :=
  (definition.dropWhile (· ≠ '=')).drop 1

/-- A definition whose key is blank. -/
structure BlankKey where
  definition : Text
deriving DecidableEq

/-- The fault in words. -/
def BlankKey.message (fault : BlankKey) : Text :=
  "Invalid definition \x27".toList ++ fault.definition ++ "\x27. Key is empty.".toList

/-- The assignments that definitions make, up to the first whose key is blank. -/
def parse (definitions : List Text) : Except BlankKey (Assignments Text Text) :=
  match definitions.find? (key · = []) with
  | some definition => .error ⟨definition⟩
  | none => .ok (.ofList (definitions.map fun definition => (key definition, value definition)))

end Definition

/-! ### Both together -/

/-- Why properties cannot be collected. -/
inductive CollectFault where
  | file (failure : Failure)
  | definition (fault : Definition.BlankKey)
deriving DecidableEq

/-- The properties of a file, if there is one, and then those of the definitions. -/
def collectProperties (files : FileTree) (definitions : List Text) (file : Option Path) :
    Except CollectFault (Assignments Text Text) := do
  let fromFile ←
    match file with
    | none => .ok ∅
    | some path => (PropertyText.load files path).mapError .file
  let defined ← (Definition.parse definitions).mapError .definition
  pure (fromFile.update defined)

end PropertySettings
