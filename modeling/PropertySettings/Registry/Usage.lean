import PropertySettings.Registry.Basic

/-!
# Usage texts

The usage text of a registry: a line with a placeholder for each required property, a banner, a
block for each declaration, and a note. A block is the key line, with a remark in parentheses if
the property is not optional, and the indented lines of the description.
-/

namespace PropertySettings

/-- A block about one property. -/
def usageBlock (key tag : Text) (lines : List Text) : Text :=
  let remark := if tag = [] then [] else " (".toList ++ tag ++ ")".toList
  Text.unlines (("  ".toList ++ key ++ remark) :: lines.map ("      ".toList ++ ·))

/-- The block about a declaration. -/
def Declaration.usageBlock (d : Declaration) : Text :=
  PropertySettings.usageBlock d.key d.role.tag d.lines

namespace Registry

/-- The name that stands for the program. -/
def defaultProgram : Text := "retrolambda".toList

/-- What the program is. -/
def banner : Text :=
  Text.unlines [
    "Retrolambda takes Java 8 classes and backports lambda expressions and".toList,
    "some other language features to work on Java 7, 6 or 5.".toList,
    "Web site: https://github.com/luontola/retrolambda".toList,
    [],
    "Copyright (c) 2013-2017  Esko Luontola and other Retrolambda contributors".toList,
    "This software is released under the Apache License 2.0.".toList,
    "The license text is at http://www.apache.org/licenses/LICENSE-2.0".toList]

/-- What there is to know about running it. -/
def closingNote : Text :=
  Text.unlines [
    "If the Java agent is used, then Retrolambda will use it to capture the".toList,
    "lambda classes generated by Java. Otherwise Retrolambda will hook into".toList,
    "Java\x27s internal lambda dumping API, which is more susceptible to suddenly".toList,
    "stopping to work between Java releases.".toList]

/-- The blocks in order. -/
def usageBlocks (registry : Registry) : List Text :=
  registry.declarations.map (·.usageBlock)

/-- The option that gives a required property, with a question mark for the value. -/
def placeholder (key : Text) : Text :=
  "-D".toList ++ key ++ "=?".toList

/-- The first line of the usage text. -/
def usageLine (registry : Registry) (program : Text) : Text :=
  let options := List.intercalate " ".toList (registry.requiredKeys.map placeholder)
  let tail := if options = [] then [] else " ".toList ++ options
  "Usage: ".toList ++ program ++ tail ++ "\n".toList

/-- The usage text. -/
def usage (registry : Registry) (program : Text) : Text :=
  registry.usageLine program ++ "\n".toList ++ banner
    ++ "\nConfigurable system properties:\n\n".toList
    ++ List.intercalate "\n".toList registry.usageBlocks ++ "\n".toList ++ closingNote

end Registry

end PropertySettings
