import PropertySettings.Journal.Layout

/-!
# Journals

A **journal** hands the records that its threshold lets through to its **handlers**, each of which
writes to a stream or appends to a file, by a layout and with a threshold of its own. A record that
the layout of a handler cannot write is reported on the standard error stream. Without any handler,
records of warnings and errors go to the standard error stream, written plainly.

A **setup** replaces the handlers. It goes step by step and stops at the first step that fails, but
what was done before stays: the old handlers are gone, then the threshold is set, then the console
handler is attached, and last the file is opened.
-/

namespace PropertySettings

/-- Takes records and writes them. -/
structure Handler where
  sink : Sink
  level : Level
  layout : Layout

namespace Handler

/-- What comes of a record that reaches the handler, and where: a line on its own sink or, if its
layout cannot write the record, a report on the standard error stream. -/
def chunk (handler : Handler) (record : Record) : Sink × Text :=
  match handler.layout.write handler.sink record with
  | some text => (handler.sink, text ++ ['\n'])
  | none => (.stream .stderr, record.report handler.sink)

/-- What the handler writes for a record, if its threshold lets the record through. -/
def chunk? (handler : Handler) (record : Record) : Option (Sink × Text) :=
  if handler.level ≤ record.level then some (handler.chunk record) else none

/-- The handler that is used where there is none. -/
def lastResort : Handler :=
  ⟨.stream .stderr, .warning, Layout.plain⟩

end Handler

/-- The state of the journal. -/
structure Journal where
  /-- Whether a setup has succeeded since the last reset. -/
  configured : Bool
  threshold : Level
  handlers : List Handler
  /-- Whether records are passed on to the surroundings; nothing there takes them. -/
  propagates : Bool

namespace Journal

/-- The journal before any setup. -/
def fresh : Journal :=
  ⟨false, .notSet, [], true⟩

/-- Drops the handlers; threshold and propagation stay as they are. -/
def reset (journal : Journal) : Journal :=
  { journal with configured := false, handlers := [] }

/-! ### Taking records -/

/-- The threshold lets the record through. -/
def Admits (journal : Journal) (record : Record) : Prop :=
  journal.threshold.orWarning ≤ record.level

instance (journal : Journal) (record : Record) : Decidable (journal.Admits record) :=
  inferInstanceAs (Decidable (_ ≤ _))

/-- What is written for a record, and where. -/
def deliver (journal : Journal) (record : Record) : List (Sink × Text) :=
  if journal.Admits record then
    let handlers := if journal.handlers = [] then [Handler.lastResort] else journal.handlers
    handlers.filterMap (·.chunk? record)
  else []

/-! ### Setting up -/

/-- How a journal is to be set up. -/
structure Setup where
  level : Text
  logFile : Option Text
  format : Option Text
  stream : Stream
deriving DecidableEq

/-- The setup that asks for nothing. -/
def Setup.default : Setup :=
  ⟨"INFO".toList, none, none, .stdout⟩

/-- Why a setup fails. -/
inductive SetupFault where
  /-- The word, here in upper case, names no level. -/
  | unknownLevel (name : Text)
  /-- The word names a text. -/
  | levelIsText (value : Text)
  /-- The word names a table, which is shown. -/
  | levelIsTable (shown : Text)
  | badFormat (format : Text)
  | nulInFileName
  /-- The file cannot be opened; `shown` is its absolute path. -/
  | fileRefused (error : SystemError) (shown : Text)
deriving DecidableEq

namespace SetupFault

/-- The fault in words. -/
def message : SetupFault → Text
  | .unknownLevel name => "module \x27logging\x27 has no attribute \x27".toList ++ name ++ "\x27".toList
  | .levelIsText value => "Unknown level: ".toList ++ Text.quoted value
  | .levelIsTable shown => "Level not an integer or a valid string: ".toList ++ shown
  | .badFormat format => "Invalid format \x27".toList ++ format ++ "\x27 for \x27%\x27 style".toList
  | .nulInFileName => "embedded null byte".toList
  | .fileRefused error shown => error.message shown

end SetupFault

/-- The text that one of the words for a level stands for. -/
def basicFormat : Text := "%(levelname)s:%(name)s:%(message)s".toList

/-- The table that one of the words for a level stands for, as it is shown. -/
def styleTable : Text :=
  "\x7b\x27%\x27: (<class \x27logging.PercentStyle\x27>, ".toList
    ++ "\x27%(levelname)s:%(name)s:%(message)s\x27), ".toList
    ++ "\x27\x7b\x27: (<class \x27logging.StrFormatStyle\x27>, ".toList
    ++ "\x27\x7blevelname\x7d:\x7bname\x7d:\x7bmessage\x7d\x27), ".toList
    ++ "\x27$\x27: (<class \x27logging.StringTemplateStyle\x27>, ".toList
    ++ "\x27$\x7blevelname\x7d:$\x7bname\x7d:$\x7bmessage\x7d\x27)\x7d".toList

/-- The level that a word names. Two words name something that is no level. -/
def levelNamed (word : Text) : Except SetupFault Level :=
  match Level.ofName? word with
  | some level => .ok level
  | none =>
    let name := Text.upper word
    if name = "BASIC_FORMAT".toList then .error (.levelIsText basicFormat)
    else if name = "_STYLES".toList then .error (.levelIsTable styleTable)
    else .error (.unknownLevel name)

/-- The format text that a setup asks for. -/
def Setup.formatText (setup : Setup) : Text :=
  match setup.format with
  | none | some [] => Layout.defaultFormat
  | some format => format

/-- Opens a log file for a journal that has its console handler, and attaches the file handler. -/
def attachFile (journal : Journal) (files : FileTree) (level : Level) (layout : Layout)
    (name : Text) : Except SetupFault (Journal × FileTree) :=
  let path := Path.ofText name
  let location := files.locate path
  if location.any ('\x00' ∈ ·) then .error .nulInFileName
  else
    match files.openAppend path with
    | .error e => .error (.fileRefused e (files.absoluteText path))
    | .ok files =>
      .ok ({ journal with handlers := journal.handlers ++ [⟨.file location, level, layout⟩] }, files)

/-- Sets up the journal; the last part tells whether and how that failed. -/
def setUp (journal : Journal) (files : FileTree) (setup : Setup) :
    Journal × FileTree × Option SetupFault :=
  let journal := { journal with handlers := [] }
  match levelNamed setup.level with
  | .error fault => (journal, files, some fault)
  | .ok level =>
    let journal := { journal with threshold := level, propagates := false }
    match Layout.ofText? setup.formatText with
    | none => (journal, files, some (.badFormat setup.formatText))
    | some layout =>
      let journal := { journal with handlers := [⟨.stream setup.stream, level, layout⟩] }
      match setup.logFile with
      | none | some [] => ({ journal with configured := true }, files, none)
      | some name =>
        match journal.attachFile files level layout name with
        | .error fault => (journal, files, some fault)
        | .ok (journal, files) => ({ journal with configured := true }, files, none)

end Journal

end PropertySettings
