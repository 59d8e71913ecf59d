import PropertySettings.Property
import PropertySettings.Traced

/-!
# Path lists

A list of paths is given **inline**, between separators, or by a **list file**, one path per line.
Empty pieces and empty lines are dropped; order and repeats are kept. Where both forms are given the
inline one is taken, and the list file is not even looked at.
-/

namespace PropertySettings.PathList

/-- The paths in pieces of text, of which the empty ones are dropped. -/
def ofPieces (pieces : List Text) : List Path :=
  (pieces.filter (· ≠ [])).map Path.ofText

/-- The paths between separators. An empty separator separates nothing and is refused. -/
def parse (separator value : Text) : Except Failure (List Path) :=
  if separator = [] then .error .emptySeparator
  else .ok (ofPieces (Text.pieces separator value))

/-- The paths in the lines of a text. -/
def ofLines (text : Text) : List Path :=
  ofPieces (Text.pieces ['\n'] text)

/-- The paths in a list file. -/
def read (files : FileTree) (file : Path) : Traced (List Path) := do
  let text ← Traced.ofExcept (files.readText file)
  Traced.note (Record.fileDone "read".toList file.toText)
  pure (ofLines text)

/-- The separator that is used unless another one is given. -/
def defaultSeparator : Text := ":".toList

/-- The paths that a property set gives inline under `key`, or else by the list file under
`fileKey`; none if it gives neither. -/
def resolve (files : FileTree) (properties : PropertySet) (key fileKey separator : Text) :
    Traced (Option (List Path)) :=
  match properties.value? key with
  | some inline => some <$> Traced.ofExcept (parse separator inline)
  | none =>
    match properties.value? fileKey with
    | some file => do
      Traced.note (Record.debug "config".toList
        ("Reading ".toList ++ key ++ " from ".toList ++ file) [])
      some <$> read files (Path.ofText file)
    | none => pure none

end PropertySettings.PathList
