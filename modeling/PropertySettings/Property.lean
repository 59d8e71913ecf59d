import PropertySettings.Assignments
import PropertySettings.Text.Basic

/-!
# Properties

The keys of the properties that are understood, and **property sets**: values by key, in order. A
key whose value is null is as good as absent.
-/

namespace PropertySettings

/-! ### Keys -/

namespace Property

/-- What every key begins with. -/
def stem : Text := "retrolambda.".toList

def bytecodeVersion : Text := stem ++ "bytecodeVersion".toList

def defaultMethods : Text := stem ++ "defaultMethods".toList

def inputDir : Text := stem ++ "inputDir".toList

def outputDir : Text := stem ++ "outputDir".toList

def classpath : Text := stem ++ "classpath".toList

def classpathFile : Text := stem ++ "classpathFile".toList

def includedFiles : Text := stem ++ "includedFiles".toList

def includedFilesFile : Text := stem ++ "includedFilesFile".toList

def javacHacks : Text := stem ++ "javacHacks".toList

def quiet : Text := stem ++ "quiet".toList

/-- The bytecode version that is generated unless another one is asked for. -/
def defaultBytecodeVersion : Nat := 51

end Property

/-! ### Property sets -/

/-- Values by key; a null value is `none`. -/
abbrev PropertySet := Assignments Text (Option Text)

namespace PropertySet

/-- The value of a key, if it has one that is not null. -/
def value? (properties : PropertySet) (key : Text) : Option Text :=
  (properties.get? key).join

/-- The key has a value. -/
def Gives (properties : PropertySet) (key : Text) : Prop :=
  (properties.value? key).isSome

instance (properties : PropertySet) (key : Text) : Decidable (properties.Gives key) :=
  inferInstanceAs (Decidable (_ = true))

/-- A set in which no value is null. -/
def ofValues (values : Assignments Text Text) : PropertySet :=
  values.map some

theorem value?_assign (properties : PropertySet) (key : Text) (value : Option Text) (other : Text) :
    value? (properties.assign key value) other =
      if other = key then value else properties.value? other := by
  rw [value?, Assignments.get?_assign]
  split <;> rfl

end PropertySet

end PropertySettings
