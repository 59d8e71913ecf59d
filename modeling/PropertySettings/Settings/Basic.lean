import PropertySettings.PathList
import PropertySettings.Reading
import PropertySettings.Registry.Completeness
import PropertySettings.Registry.Standard
import PropertySettings.Registry.Usage

/-!
# Settings

The typed settings that a property set gives. Each one is worked out from the properties and the
files whenever it is asked for. `Settings.resolve` asks for all of them, one after the other, and
stops at the first that fails.
-/

namespace PropertySettings

/-- A property set with the registry it is checked by and the separator of inline path lists. -/
structure Settings where
  properties : PropertySet
  registry : Registry
  separator : Text

/-- All settings at one time. -/
structure Snapshot where
  bytecodeVersion : Int
  defaultMethods : Bool
  inputDir : Path
  outputDir : Path
  classpath : List Path
  /-- The files to process; `none` stands for all files. -/
  includedFiles : Option (List Path)
  javacHacks : Bool
  quiet : Bool
deriving DecidableEq

namespace Settings

/-- Settings by the standard registry and separator. -/
def ofProperties (properties : PropertySet) : Settings :=
  ⟨properties, .standard, PathList.defaultSeparator⟩

variable (settings : Settings) (files : FileTree)

/-- Every required property is satisfied. -/
def Complete : Prop :=
  settings.registry.Complete settings.properties

instance : Decidable settings.Complete :=
  inferInstanceAs (Decidable (Registry.Complete _ _))

/-- The major version of the bytecode to generate. -/
def bytecodeVersion : Traced Int :=
  Traced.ofExcept (readInteger Property.bytecodeVersion
    (settings.properties.value? Property.bytecodeVersion) Property.defaultBytecodeVersion)

/-- The flag under a key, off unless it is set. -/
def flag (key : Text) : Bool :=
  readFlag (settings.properties.value? key) false

/-- Whether default methods are treated too. -/
def defaultMethods : Bool :=
  settings.flag Property.defaultMethods

/-- The directory that is read. -/
def inputDir : Traced Path :=
  match settings.properties.value? Property.inputDir with
  | some dir => pure (Path.ofText dir)
  | none => Traced.fail (.config (.missingRequired Property.inputDir))

/-- The directory that is written, the input directory unless another one is given. -/
def outputDir : Traced Path :=
  match settings.properties.value? Property.outputDir with
  | some dir => pure (Path.ofText dir)
  | none => do
    Traced.note (Record.debug "config".toList
      (Property.outputDir ++ " not set, using ".toList ++ Property.inputDir) [])
    settings.inputDir

/-- The class path. -/
def classpath : Traced (List Path) := do
  let paths ← PathList.resolve files settings.properties Property.classpath Property.classpathFile
    settings.separator
  match paths with
  | some paths => pure paths
  | none => Traced.fail (.config (.missingRequired Property.classpath))

/-- The files to process; `none` stands for all files. -/
def includedFiles : Traced (Option (List Path)) :=
  PathList.resolve files settings.properties Property.includedFiles Property.includedFilesFile
    settings.separator

/-- Whether faults of the compiler are worked around. -/
def javacHacks : Bool :=
  settings.flag Property.javacHacks

/-- Whether less is logged. -/
def quiet : Bool :=
  settings.flag Property.quiet

/-- The usage text of the registry. -/
def usage (program : Text) : Text :=
  settings.registry.usage program

/-- All settings. -/
def resolve : Traced Snapshot := do
  let bytecodeVersion ← settings.bytecodeVersion
  let inputDir ← settings.inputDir
  let outputDir ← settings.outputDir
  let classpath ← settings.classpath files
  let includedFiles ← settings.includedFiles files
  pure {
    bytecodeVersion, inputDir, outputDir, classpath, includedFiles
    defaultMethods := settings.defaultMethods
    javacHacks := settings.javacHacks
    quiet := settings.quiet }

end Settings

/-! ### Showing a snapshot -/

namespace Snapshot

/-- The paths as a list of texts. -/
def pathValues (paths : List Path) : Value :=
  .list (paths.map fun path => .text path.toText)

/-- All settings by name. -/
def toValue (s : Snapshot) : Value :=
  .fields [
    ("bytecode_version".toList, .int s.bytecodeVersion),
    ("default_methods".toList, .bool s.defaultMethods),
    ("input_dir".toList, .text s.inputDir.toText),
    ("output_dir".toList, .text s.outputDir.toText),
    ("classpath".toList, pathValues s.classpath),
    ("included_files".toList,
      match s.includedFiles with
      | none => .null
      | some paths => pathValues paths),
    ("javac_hacks".toList, .bool s.javacHacks),
    ("quiet".toList, .bool s.quiet)]

/-- The settings that are reported, by label; of the included files their number, which is never too
long to be written. -/
def summary (s : Snapshot) : Assignments Text Value :=
  .ofList [
    ("Bytecode version".toList, .int s.bytecodeVersion),
    ("Default methods".toList, .bool s.defaultMethods),
    ("Input directory".toList, .text s.inputDir.toText),
    ("Output directory".toList, .text s.outputDir.toText),
    ("Classpath".toList, pathValues s.classpath),
    ("Included files".toList,
      match s.includedFiles with
      | none => .text "all".toList
      | some paths => .text (Numeral.ofNat paths.length)),
    ("Javac hacks".toList, .bool s.javacHacks)]

end Snapshot

end PropertySettings
