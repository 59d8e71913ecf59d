import PropertySettings.Journal.Basic

/-!
# Workspaces

A **workspace** is all that a program can change: the files, the journal, and what has been written
to the streams, in order. A **history** is a list of what is done with its journal.
-/

namespace PropertySettings

/-- Files, journal, and the texts written to streams. -/
structure Workspace where
  files : FileTree
  journal : Journal
  written : List (Stream × Text)

namespace Workspace

/-- Files that nothing has been done with yet. -/
def start (files : FileTree) : Workspace :=
  ⟨files, .fresh, []⟩

/-- Writes to a stream. -/
def print (w : Workspace) (stream : Stream) (text : Text) : Workspace :=
  { w with written := w.written ++ [(stream, text)] }

/-- Writes to a sink. -/
def put (w : Workspace) : Sink × Text → Workspace
  | (.stream stream, text) => w.print stream text
  | (.file location, text) => { w with files := w.files.append location (Utf8.encode text) }

/-- Hands a record to the journal. -/
def log (w : Workspace) (record : Record) : Workspace :=
  (w.journal.deliver record).foldl put w

/-- Hands records to the journal one after the other. -/
def logAll (w : Workspace) (records : List Record) : Workspace :=
  records.foldl log w

/-- Sets up the journal. -/
def setUp (w : Workspace) (setup : Journal.Setup) : Workspace × Option Journal.SetupFault :=
  let (journal, files, fault) := w.journal.setUp w.files setup
  ({ w with journal, files }, fault)

/-- Resets the journal. -/
def reset (w : Workspace) : Workspace :=
  { w with journal := w.journal.reset }

/-- All that has been written to a stream. -/
def textOn (w : Workspace) (stream : Stream) : Text :=
  (w.written.filter (·.1 = stream)).flatMap Prod.snd

/-! ### Histories -/

/-- What can be done with the journal of a workspace. -/
inductive Action where
  | setUp (setup : Journal.Setup)
  | log (records : List Record)
  | reset

/-- Does one thing; a setup that fails tells why. -/
def perform (w : Workspace) : Action → Workspace × Option Journal.SetupFault
  | .setUp setup => w.setUp setup
  | .log records => (w.logAll records, none)
  | .reset => (w.reset, none)

/-- The workspace after an action. -/
def after (w : Workspace) (action : Action) : Workspace :=
  (w.perform action).1

/-- The workspace after a history. -/
def afterAll (w : Workspace) (history : List Action) : Workspace :=
  history.foldl after w

end Workspace

end PropertySettings
