import PropertySettings.CommandLine.Arguments
import PropertySettings.PropertyText

/-!
# The files of a run

Which files a run of the command opens depends on its arguments and on what the first of them, the
properties file, holds.
-/

namespace PropertySettings.CommandLine

/-- The files that a run with these arguments opens, as far as the known files tell: the properties
file, and the list files once the properties are known. -/
def openedFiles (files : FileTree) (arguments : List Text) : List Path :=
  match Arguments.read arguments with
  | .error _ => []
  | .ok a =>
    let own := a.propertiesFile.map Path.ofText
    match collectProperties files a.definitions own with
    | .error _ => own.toList
    | .ok properties =>
      own.toList
        ++ ([Property.classpathFile, Property.includedFilesFile].filterMap properties.get?).map
          Path.ofText

end PropertySettings.CommandLine
