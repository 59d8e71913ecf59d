import PropertySettings.Text.Basic

/-!
# Command-line arguments

Arguments are read from left to right. An argument that begins with a dash, and is more than that,
is an **option**: a long one by its name, with a value after an equals sign or in the next argument,
or a short one by its letter, with a value in the same argument or in the next one. The next
argument is taken as it is. After `--` nothing is an option. Options that need no value must not
have one; definitions add up, of other values the last one counts. What is no option is **left
over**.
-/

namespace PropertySettings

/-- The options that are understood. -/
inductive Switch where
  | define
  | propertiesFile
  | showProperties
  | json
  | logLevel
  | help
deriving DecidableEq

namespace Switch

/-- The options by their long names. -/
def byName : List (Text × Switch) :=
  [("--define".toList, .define), ("--properties-file".toList, .propertiesFile),
    ("--show-properties".toList, .showProperties), ("--json".toList, .json),
    ("--log-level".toList, .logLevel), ("--help".toList, .help)]

/-- The options by their letters. -/
def byLetter : List (Char × Switch) :=
  [('D', .define), ('p', .propertiesFile)]

/-- The option needs a value. -/
def TakesValue (switch : Switch) : Prop :=
  switch ∈ [.define, .propertiesFile, .logLevel]

instance (switch : Switch) : Decidable switch.TakesValue :=
  inferInstanceAs (Decidable (_ ∈ _))

end Switch

/-- Why arguments are refused. Only what is said about a value is the command's own. -/
inductive UsageFault where
  | unknownOption
  /-- A value is missing, or there is one where none can be. -/
  | badOptionValue
  | leftOver
  /-- A value is not accepted; the option is named if it is known. -/
  | badParameter (message : Text) (option : Option Text)
deriving DecidableEq

/-- The arguments by their meaning. -/
structure Arguments where
  definitions : List Text
  propertiesFile : Option Text
  showProperties : Bool
  json : Bool
  logLevel : Text
  help : Bool
  leftOver : List Text
deriving DecidableEq

namespace Arguments

/-- What holds before any argument is read. -/
def initial : Arguments :=
  ⟨[], none, false, false, "INFO".toList, false, []⟩

/-- Takes an option, with its value if it has one. -/
def take (a : Arguments) (switch : Switch) (value : Text) : Arguments :=
  match switch with
  | .define => { a with definitions := a.definitions ++ [value] }
  | .propertiesFile => { a with propertiesFile := some value }
  | .showProperties => { a with showProperties := true }
  | .json => { a with json := true }
  | .logLevel => { a with logLevel := value }
  | .help => { a with help := true }

/-- The option that an argument names, and the value that is attached to it. -/
def recognise (argument : Text) : Except UsageFault (Switch × Option Text) :=
  match Switch.byName.lookup (argument.takeWhile (· ≠ '=')) with
  | some switch =>
    .ok (switch,
      if '=' ∈ argument then some ((argument.dropWhile (· ≠ '=')).drop 1) else none)
  | none =>
    match argument with
    | '-' :: '-' :: _ => .error .unknownOption
    | _ :: letter :: value =>
      match Switch.byLetter.lookup letter with
      | some switch => .ok (switch, if value = [] then none else some value)
      | none => .error .unknownOption
    | _ => .error .unknownOption

/-- Whether an argument is an option. -/
def isOption : Text → Bool
  | '-' :: _ :: _ => true
  | _ => false

/-- Reads arguments after those that `a` stands for. -/
def readAfter (a : Arguments) : List Text → Except UsageFault Arguments
  | [] => .ok a
  | argument :: rest =>
    if argument = ['-', '-'] then .ok { a with leftOver := a.leftOver ++ rest }
    else if isOption argument then
      match recognise argument with
      | .error fault => .error fault
      | .ok (switch, attached) =>
        if switch.TakesValue then
          match attached, rest with
          | some value, rest => (a.take switch value).readAfter rest
          | none, value :: rest => (a.take switch value).readAfter rest
          | none, [] => .error .badOptionValue
        else if attached.isSome then .error .badOptionValue
        else (a.take switch []).readAfter rest
    else readAfter { a with leftOver := a.leftOver ++ [argument] } rest

/-- Reads arguments. -/
def read (arguments : List Text) : Except UsageFault Arguments :=
  initial.readAfter arguments

end Arguments

end PropertySettings
