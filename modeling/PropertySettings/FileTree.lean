import PropertySettings.Assignments
import PropertySettings.Path

/-!
# File trees

The files and directories that a program can reach, as data. A **location** is given by the names
that lead to it from the root. The working directory and the directories above it are always there;
everything else is an entry of the tree. There are no links, and nothing is kept from being read or
written but by what it is.

A path is followed name by name. Nothing lies below a file; `..` leads from a directory to the one
above it; a name over 255 bytes is refused where it is looked up, and a whole path of 4096 bytes or
more before anything is looked up.

A file that is to be appended to is **located** first: its path is made absolute, and each `..`
undoes the name before it, whatever is there. Then the absolute path is followed.
-/

namespace PropertySettings

/-- A place in a file tree, as the names that lead to it from the root. -/
abbrev Location := List Text

namespace Location

/-- The name that leads to the directory above. -/
def up : Text := ['.', '.']

/-- The directory above; the root is its own. -/
def parent (location : Location) : Location :=
  location.dropLast

/-- The place of a name in a directory. -/
def child (location : Location) (name : Text) : Location :=
  location ++ [name]

/-- Where a name leads if `..` undoes the name before it. -/
def step (location : Location) (name : Text) : Location :=
  if name = up then location.parent else location.child name

end Location

/-- What is found at a location. -/
inductive Entry where
  | file (content : List UInt8)
  | directory
deriving DecidableEq

/-- Why the system refuses to open a file. -/
inductive SystemError where
  | notFound
  | notDirectory
  | isDirectory
  | nameTooLong
deriving DecidableEq

/-- Files and directories by location. -/
structure FileTree where
  /-- The working directory. -/
  home : Location
  entries : Assignments Location Entry

namespace FileTree

/-- The tree that has a working directory and nothing else. -/
def around (home : Location) : FileTree :=
  ⟨home, ∅⟩

instance : EmptyCollection FileTree := ⟨around []⟩

/-- The greatest number of bytes in a name. -/
def nameLimit : Nat := 255

/-- The greatest number of bytes in a path. -/
def pathLimit : Nat := 4095

/-- What is at the location. -/
def entry? (tree : FileTree) (location : Location) : Option Entry :=
  if location <+: tree.home then some .directory else tree.entries.get? location

/-! ### Following a path -/

/-- Where the names of a path begin. -/
def start (tree : FileTree) (path : Path) : Location :=
  match path.anchor with
  | .relative => tree.home
  | .root | .doubleRoot => []

/-- Follows names from a location where `entry` is found. -/
def follow (tree : FileTree) : Location → (entry : Entry) → List Text → Except SystemError Entry
  | _, entry, [] => .ok entry
  | _, .file _, _ :: _ => .error .notDirectory
  | location, .directory, name :: rest =>
    if name = Location.up then tree.follow location.parent .directory rest
    else if nameLimit < Text.byteLength name then .error .nameTooLong
    else
      match tree.entry? (location.child name) with
      | none => .error .notFound
      | some entry => tree.follow (location.child name) entry rest

/-- What a path leads to. -/
def find (tree : FileTree) (path : Path) : Except SystemError Entry :=
  if pathLimit < Text.byteLength path.toText then .error .nameTooLong
  else tree.follow (tree.start path) .directory path.names

/-- The bytes of the file that a path leads to. -/
def read (tree : FileTree) (path : Path) : Except SystemError (List UInt8) :=
  match tree.find path with
  | .ok (.file content) => .ok content
  | .ok .directory => .error .isDirectory
  | .error e => .error e

/-! ### Making files -/

/-- Makes a directory, unless there is one. -/
def makeDirectory (tree : FileTree) (location : Location) : FileTree :=
  if tree.entry? location = some .directory then tree
  else { tree with entries := tree.entries.assign location .directory }

/-- Makes the directories above a location. -/
def makeParents (tree : FileTree) (location : Location) : FileTree :=
  (List.range location.length).foldl
    (fun tree depth => tree.makeDirectory (location.take depth)) tree

/-- Writes a file, with the directories above it. -/
def write (tree : FileTree) (location : Location) (content : List UInt8) : FileTree :=
  let tree := tree.makeParents location
  { tree with entries := tree.entries.assign location (.file content) }

/-- Takes away what is at the location and below it. -/
def remove (tree : FileTree) (location : Location) : FileTree :=
  { tree with entries := tree.entries.filter fun place => ¬ location <+: place }

/-! ### Appending -/

/-- Where a path leads if each `..` undoes the name before it, whatever is there. -/
def locate (tree : FileTree) (path : Path) : Location :=
  path.names.foldl Location.step (tree.start path)

/-- The absolute path to the place where a path is located. -/
def absoluteText (tree : FileTree) (path : Path) : Text :=
  let anchor := if path.anchor = .relative then Anchor.root else path.anchor
  anchor.toText ++ List.intercalate ['/'] (tree.locate path)

/-- Opens the file where a path is located for appending; a file that is missing is made. -/
def openAppend (tree : FileTree) (path : Path) : Except SystemError FileTree :=
  let location := tree.locate path
  if pathLimit < Text.byteLength (tree.absoluteText path) then .error .nameTooLong
  else
    match tree.follow [] .directory location.parent with
    | .error e => .error e
    | .ok (.file _) => .error .notDirectory
    | .ok .directory =>
      if (location.getLast?.map Text.byteLength).any (nameLimit < ·) then .error .nameTooLong
      else
        match tree.entry? location with
        | some .directory => .error .isDirectory
        | some (.file _) => .ok tree
        | none => .ok { tree with entries := tree.entries.assign location (.file []) }

/-- The content of the file at a location; none is as good as empty. -/
def content (tree : FileTree) (location : Location) : List UInt8 :=
  match tree.entry? location with
  | some (.file content) => content
  | _ => []

/-- Appends to the file at a location. -/
def append (tree : FileTree) (location : Location) (bytes : List UInt8) : FileTree :=
  { tree with entries := tree.entries.assign location (.file (tree.content location ++ bytes)) }

end FileTree

end PropertySettings
