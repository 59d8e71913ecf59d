import PropertySettings.CommandLine.Files
import PropertySettings.CommandLine.Run

/-!
# The command

Reads the files that a run will open, runs the command on them, and writes what it has written.
-/

namespace PropertySettings.Main

/-- What is found at a path of the system. -/
def probe (path : Path) : IO (Option Entry) := do
  let name := String.ofList path.toText
  if let .ok content ← (IO.FS.readBinFile name).toBaseIO then
    return some (.file content.toList)
  let .ok place ← (IO.FS.realPath name).toBaseIO | return none
  return if ← place.isDir then some .directory else none

/-- The file tree around the working directory. -/
def surroundings : IO FileTree :=
  return .around (Path.ofText (← IO.currentDir).toString.toList).names

/-- Adds what is found along a path, name by name, until a name leads nowhere. -/
def learn (files : FileTree) (path : Path) : IO FileTree := do
  let mut files := files
  for depth in [1:path.names.length + 1] do
    let reached : Path :=
      ⟨path.anchor, path.names.take depth, fun name h => path.proper name (List.mem_of_mem_take h)⟩
    match ← probe reached with
    | some (.file content) => return files.write (files.locate reached) content
    | some .directory => files := files.makeDirectory (files.locate reached)
    | none => return files
  return files

/-- Writes a text to its stream. -/
def write : Stream × Text → IO Unit
  | (.stderr, text) => do (← IO.getStderr).putStr (String.ofList text)
  | (_, text) => do (← IO.getStdout).putStr (String.ofList text)

/-- Tells how the run has ended. Of arguments that are refused, only what the command itself says is
written. -/
def finish : Ending → IO UInt32
  | .exit e => return e.code.toNat.toUInt32
  | .help => return 0
  | .refused fault => do
    if let .badParameter message _ := fault then write (.stderr, message ++ ['\n'])
    return 2
  | .failed failure => do
    write (.stderr, failure.message ++ ['\n'])
    return 1

end PropertySettings.Main

open PropertySettings in
/-- Runs the command. -/
def main (args : List String) : IO UInt32 := do
  let arguments := args.map String.toList
  let unknown ← Main.surroundings
  let known ← (CommandLine.openedFiles unknown arguments).foldlM Main.learn unknown
  let files ← (CommandLine.openedFiles known arguments).foldlM Main.learn known
  let outcome := CommandLine.run files arguments
  outcome.written.forM Main.write
  Main.finish outcome.ending
