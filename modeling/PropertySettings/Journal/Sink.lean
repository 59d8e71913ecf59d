import PropertySettings.FileTree

/-!
# Sinks

What is written goes to a **stream**, or is appended to a file.
-/

namespace PropertySettings

/-- A stream that can be written to. -/
inductive Stream where
  | stdout
  | stderr
  | custom
deriving DecidableEq

/-- Where something is written. -/
inductive Sink where
  | stream (s : Stream)
  | file (location : Location)
deriving DecidableEq

/-- Whether a sink is a file. -/
def Sink.isFile : Sink → Bool
  | .stream _ => false
  | .file _ => true

end PropertySettings
