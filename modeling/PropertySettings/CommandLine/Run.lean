import PropertySettings.CommandLine.Arguments
import PropertySettings.CommandLine.Exit
import PropertySettings.Journal.Configuration
import PropertySettings.PropertyText
import PropertySettings.Settings.Basic
import PropertySettings.Value.Json

/-!
# Running the command

The command collects properties, refuses to go on while a required one is missing, and reports the
settings they give: as records of the journal, or as a JSON document on the standard output, in
which case the journal writes to the standard error stream.

* Properties that cannot be collected, incomplete properties and settings that cannot be resolved
  end the command with code `2`.
* Incomplete properties are complained about one by one, and the usage text is printed.
* Asked for the properties it understands, the command prints the usage text and ends with `0`.
* A quiet configuration is not reported by records.
* Asked for help, it does nothing of all this; the page of help is not part of the command.
-/

namespace PropertySettings

/-- How a run ends. -/
inductive Ending where
  | exit (e : Exit)
  /-- The page of help was asked for, with code `0`. -/
  | help
  /-- The arguments are refused. -/
  | refused (fault : UsageFault)
  /-- Something went wrong that is nobody's configuration error. -/
  | failed (failure : Failure)
deriving DecidableEq

/-- How a run ends, and what it has written. -/
structure Outcome where
  ending : Ending
  written : List (Stream × Text)

namespace CommandLine

/-- The levels that can be chosen. -/
def levelNames : List Text :=
  ["DEBUG".toList, "INFO".toList, "WARNING".toList, "ERROR".toList, "CRITICAL".toList]

/-- What is said about a level that cannot be chosen. -/
def levelMessage (word : Text) : Text :=
  "Unknown log level \x27".toList ++ word ++ "\x27. Use one of: ".toList
    ++ List.intercalate ", ".toList levelNames ++ ".".toList

/-- The area of the command's own records. -/
def area : Text := "cli".toList

/-- The stream of the journal: the standard output is left to a JSON document. -/
def journalStream (a : Arguments) : Stream :=
  if a.json then .stderr else .stdout

/-- Sets up the journal for a level. -/
def setUp (w : Workspace) (a : Arguments) (level : Text) : Workspace :=
  (w.setUp ⟨level, none, none, journalStream a⟩).1

/-- The end of a run. -/
def finish (w : Workspace) (e : Exit) : Outcome :=
  ⟨.exit e, w.written ++ e.printed⟩

/-- The usage text, printed. -/
def printUsage (w : Workspace) (settings : Settings) : Workspace :=
  w.print .stdout (settings.usage Registry.defaultProgram)

/-- A record for each complaint. -/
def complaintRecords (settings : Settings) : List Record :=
  (settings.registry.complaints settings.properties).map fun complaint =>
    Record.warning area (complaint.key ++ ": ".toList ++ complaint.message) []

/-- The record of properties that could not be collected. -/
def collectRecord (e : ConfigError) : Record :=
  Record.error area e.message ((e.cause?.map Cause.message).getD []) none

/-- The record of settings that could not be resolved. -/
def resolveRecord (e : ConfigError) : Record :=
  Record.error area e.message [] (e.cause?.map (⟨·, true⟩))

/-- Reports settings that have been resolved. -/
def report (w : Workspace) (a : Arguments) (snapshot : Snapshot) : Outcome :=
  let w := if snapshot.quiet then setUp w a "WARNING".toList else w
  if a.json then
    finish (w.print .stdout (snapshot.toValue.json ++ ['\n'])) (.success none)
  else
    let told := Record.tell snapshot.summary
    let w := w.logAll told.records
    match told.outcome with
    | .ok () => finish w (.success none)
    | .error failure => ⟨.failed failure, w.written⟩

/-- Goes on with the properties that have been collected. -/
def withProperties (w : Workspace) (a : Arguments) (properties : Assignments Text Text) : Outcome :=
  let settings := Settings.ofProperties (.ofValues properties)
  if a.showProperties then finish (printUsage w settings) (.success none)
  else if ¬ settings.Complete then
    finish (printUsage (w.logAll (complaintRecords settings)) settings) (.configError none)
  else
    let resolved := settings.resolve w.files
    let w := w.logAll resolved.records
    match resolved.outcome with
    | .ok snapshot => report w a snapshot
    | .error (.config e) => finish (w.log (resolveRecord e)) (.configError none)
    | .error failure => ⟨.failed failure, w.written⟩

/-- Runs the command with arguments that have been read. -/
def runWith (files : FileTree) (a : Arguments) : Outcome :=
  if Text.upper a.logLevel ∉ levelNames then
    ⟨.refused (.badParameter (levelMessage a.logLevel) (some "--log-level".toList)), []⟩
  else
    let w := setUp (Workspace.start files) a a.logLevel
    match collectProperties files a.definitions (a.propertiesFile.map Path.ofText) with
    | .ok properties => withProperties w a properties
    | .error (.definition fault) => ⟨.refused (.badParameter fault.message none), w.written⟩
    | .error (.file (.config e)) => finish (w.log (collectRecord e)) (.configError none)
    | .error (.file failure) => ⟨.failed failure, w.written⟩

/-- Runs the command. A name of a properties file that holds `U+0000` ends it before anything is
said about arguments that are left over. -/
def run (files : FileTree) (arguments : List Text) : Outcome :=
  match Arguments.read arguments with
  | .error fault => ⟨.refused fault, []⟩
  | .ok a =>
    if a.help then ⟨.help, []⟩
    else if a.propertiesFile.any ('\x00' ∈ ·) then ⟨.failed .nulInFileName, []⟩
    else if a.leftOver ≠ [] then ⟨.refused .leftOver, []⟩
    else runWith files a

end CommandLine

end PropertySettings
