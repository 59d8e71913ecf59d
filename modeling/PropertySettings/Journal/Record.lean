import PropertySettings.ConfigError
import PropertySettings.Journal.Directive
import PropertySettings.Journal.Level
import PropertySettings.Journal.Sink

/-!
# Records

A **record** is a message at a level, and possibly the **incident** it is about: an error that was
caught, or one that was only made. Messages carry the area they come from as a tag in capitals, and
may end in a context.

A record has **fields** that can be asked for by name. Some are told by its level and message; the
others come from the **circumstances** in which it is made: the place in the program, the time, the
thread and the like. Shown as a whole, a record is the list of its fields with their values.
-/

namespace PropertySettings

/-- An error that a record is about. -/
structure Incident where
  cause : Cause
  /-- Whether the error was raised and caught. -/
  raised : Bool
deriving DecidableEq

namespace Incident

/-- The incident in words: a heading and the calls that the error came through if it was raised, the
kind of error, and its message if there is one. -/
def text (incident : Incident) (calls : Text) : Text :=
  let heading :=
    if incident.raised then "Traceback (most recent call last):\n".toList ++ calls else []
  let message :=
    if incident.cause.message = [] then [] else ": ".toList ++ incident.cause.message
  heading ++ incident.cause.qualifiedName ++ message

end Incident

namespace Record

/-- What a field of a record holds. -/
inductive Field where
  | text (t : Text)
  /-- A whole number that 53 binary digits hold, so that it is written exactly with a point, too. -/
  | number (n : Nat) (h : n < 0x20000000000000)
  /-- The values that are still to be put into the message; there are none. -/
  | arguments
  /-- Something else, of which it is known how it is shown and what else directives make of it. -/
  | other (shown : Text) (convert : Directive → Option Text)

namespace Field

/-- The value of a field as it stands in a list of fields. -/
def shown : Field → Text
  | .text t => Text.quoted t
  | .number n _ => Numeral.ofNat n
  | .arguments => "()".toList
  | .other shown _ => shown

/-- The field as a directive converts it. -/
def convert (d : Directive) : Field → Option Text
  | .text t => d.convertText t
  | .number n _ => d.convertNumber n
  | .arguments => d.convertShown Field.arguments.shown
  | .other shown convert => d.convertShown shown <|> convert d

end Field

/-- The names of the fields that are told by the circumstances, in the order in which records have
them. -/
def circumstanceNames : List Text :=
  ["pathname".toList, "filename".toList, "module".toList, "exc_info".toList, "exc_text".toList,
    "stack_info".toList, "lineno".toList, "funcName".toList, "created".toList, "msecs".toList,
    "relativeCreated".toList, "thread".toList, "threadName".toList, "processName".toList,
    "process".toList]

/-- The field that holds the time in words. A record has it if the layout asks for it. -/
def timeName : Text := "asctime".toList

/-- What a record takes from its surroundings. One handler may find what another one did not find
before it, since records keep how an error was written; so the circumstances depend on the sink. -/
structure Circumstances where
  /-- What the field of a name holds when a handler for the sink writes the record. -/
  field : Sink → Text → Field
  /-- The calls that a caught error came through, as they are written. -/
  calls : Text
  /-- The error with which a handler for the sink failed to write the record, and the calls that led
  to it, as they are written. -/
  trace : Sink → Text

/-- Circumstances of which nothing is known but that paths of places in the program begin at the
root. -/
def Circumstances.unknown : Circumstances where
  field _ name := .text (if name = "pathname".toList then ['/'] else [])
  calls := []
  trace _ := []

end Record

/-- What is handed to a journal. -/
structure Record where
  level : Level
  message : Text
  incident : Option Incident
  circumstances : Record.Circumstances := .unknown

namespace Record

/-- The record in other circumstances. -/
def under (record : Record) (circumstances : Circumstances) : Record :=
  { record with circumstances }

/-- A message with its tag, and with its context unless that is empty. -/
def tagged (area message context : Text) : Text :=
  let ending := if context = [] then [] else " | Context: ".toList ++ context
  "[".toList ++ Text.upper area ++ "] ".toList ++ message ++ ending

/-- A record of an error. -/
def error (area message context : Text) (incident : Option Incident) : Record :=
  { level := .error, message := tagged area message context, incident }

/-- A record of a warning. -/
def warning (area message context : Text) : Record :=
  { level := .warning, message := tagged area message context, incident := none }

/-- A record of a detail. -/
def debug (area message context : Text) : Record :=
  { level := .debug, message := tagged area message context, incident := none }

/-- A record of an operation on a file that succeeded. -/
def fileDone (operation path : Text) : Record where
  level := .debug
  message := "File ".toList ++ operation ++ ": ".toList ++ path
  incident := none

/-- A record of an operation on a file that failed. -/
def fileFailed (operation path reason : Text) : Record where
  level := .error
  message := "File ".toList ++ operation ++ " failed: ".toList ++ path ++ " - ".toList ++ reason
  incident := none

/-! ### Fields -/

/-- The name of the journal in its records. -/
def journalName : Text := "retrolambda".toList

/-- The fields of the record as a handler for the sink finds them, in order; those that are timed
have the time in words. -/
def fields (record : Record) (sink : Sink) (timed : Bool) : List (Text × Field) :=
  let told := record.circumstances.field sink
  [("name".toList, .text journalName), ("msg".toList, .text record.message),
    ("args".toList, .arguments), ("levelname".toList, .text record.level.name),
    ("levelno".toList,
      .number record.level.rank (Nat.lt_of_le_of_lt record.level.rank_le (by decide)))]
    ++ circumstanceNames.map (fun name => (name, told name))
    ++ [("message".toList, .text record.message)]
    ++ if timed then [(timeName, told timeName)] else []

/-- A list of fields on one line. -/
def shownFields (fields : List (Text × Field)) : Text :=
  let entries := fields.map fun (name, field) => Text.quoted name ++ ": ".toList ++ field.shown
  "\x7b".toList ++ List.intercalate ", ".toList entries ++ "\x7d".toList

/-- What is reported of a record that a handler for the sink cannot write. -/
def report (record : Record) (sink : Sink) : Text :=
  "--- Logging error ---\n".toList ++ record.circumstances.trace sink
    ++ "Message: ".toList ++ Text.quoted record.message
    ++ "\nArguments: ".toList ++ Field.arguments.shown ++ ['\n']

end Record

end PropertySettings
