import PropertySettings.FileTree
import PropertySettings.Text.LineBreak
import PropertySettings.Utf8
import PropertySettings.Value.Basic

/-!
# What can go wrong

A **configuration error** says which property is missing or malformed, or which file could not be
read and for what **cause**. A **failure** is a configuration error or one of four refusals that
no property is to blame for: an empty separator, a file name that holds `U+0000`, a numeral with too
many digits to be read, and a number with too many digits to be written.
-/

namespace PropertySettings

namespace SystemError

/-- The number by which the system knows the error. -/
def number : SystemError → Nat
  | .notFound => 2
  | .notDirectory => 20
  | .isDirectory => 21
  | .nameTooLong => 36

/-- The error in words. -/
def text : SystemError → Text
  | .notFound => "No such file or directory".toList
  | .notDirectory => "Not a directory".toList
  | .isDirectory => "Is a directory".toList
  | .nameTooLong => "File name too long".toList

/-- The name of this kind of error. -/
def kindName : SystemError → Text
  | .notFound => "FileNotFoundError".toList
  | .notDirectory => "NotADirectoryError".toList
  | .isDirectory => "IsADirectoryError".toList
  | .nameTooLong => "OSError".toList

/-- What is said when the error stops the opening of a path, given as it is shown. -/
def message (e : SystemError) (shown : Text) : Text :=
  "[Errno ".toList ++ Numeral.ofNat e.number ++ "] ".toList ++ e.text ++ ": ".toList
    ++ Text.quoted shown

end SystemError

/-- The kinds of errors that a caller can report with a text of its own. -/
inductive ReportKind where
  | value
  | key
  | system
  | config
deriving DecidableEq

/-- Why something failed. -/
inductive Cause where
  /-- The system refused to open a file. -/
  | system (error : SystemError) (path : Path)
  /-- The bytes of a file are not UTF-8. -/
  | undecodable (fault : Utf8.Fault)
  /-- An error that the caller reports. -/
  | reported (kind : ReportKind) (text : Text)
deriving DecidableEq

namespace Cause

/-- The name of the kind of error. -/
def kindName : Cause → Text
  | .system error _ => error.kindName
  | .undecodable _ => "UnicodeDecodeError".toList
  | .reported .value _ => "ValueError".toList
  | .reported .key _ => "KeyError".toList
  | .reported .system _ => "OSError".toList
  | .reported .config _ => "ConfigError".toList

/-- The name of the kind of error with the package it belongs to, where it is not a common one. -/
def qualifiedName : Cause → Text
  | .reported .config _ => "retrolambda.core.config.errors.ConfigError".toList
  | cause => cause.kindName

/-- The cause in words; a key is quoted. -/
def message : Cause → Text
  | .system error path => error.message path.toText
  | .undecodable fault => fault.message
  | .reported .key text => Text.quoted text
  | .reported _ text => text

end Cause

/-- Why a configuration is not usable. -/
inductive ConfigError where
  /-- A required property and all of its alternatives are absent. -/
  | missingRequired (key : Text)
  /-- A property is present but is not of the expected form. -/
  | invalidFormat (key raw : Text)
  /-- A file could not be read; `shown` is its path as it was given. -/
  | unreadable (shown : Text) (cause : Cause)
  /-- Any other reason, with details by name. -/
  | general (message : Text) (details : List (Text × Value))
deriving DecidableEq

namespace ConfigError

/-- The error in words. -/
def message : ConfigError → Text
  | .missingRequired key => "Missing required property: ".toList ++ key
  | .invalidFormat key raw =>
    "Invalid value for property ".toList ++ key ++ ": ".toList ++ Text.quoted raw
  | .unreadable shown _ => "Failed to read ".toList ++ shown
  | .general message _ => message

/-- The details of the error by name. -/
def context : ConfigError → List (Text × Value)
  | .missingRequired key => [("key".toList, .text key)]
  | .invalidFormat key raw => [("key".toList, .text key), ("raw_value".toList, .text raw)]
  | .unreadable shown cause =>
    [("path".toList, .text shown), ("cause".toList, .text cause.message)]
  | .general _ details => details

/-- The cause of the error, if there is one. -/
def cause? : ConfigError → Option Cause
  | .unreadable _ cause => some cause
  | _ => none

end ConfigError

/-- Why an answer cannot be given. -/
inductive Failure where
  | config (error : ConfigError)
  | emptySeparator
  | nulInFileName
  /-- A numeral of so many digits is not read. -/
  | tooManyDigits (count : Nat)
  /-- A number is not written, since it has too many digits. -/
  | overlongNumber
deriving DecidableEq

namespace Failure

/-- What is said of a number with too many digits; the detail tells how many there are. -/
def pastLimit (detail : Text) : Text :=
  "Exceeds the limit (".toList ++ Numeral.ofNat Numeral.digitLimit
    ++ " digits) for integer string conversion".toList ++ detail
    ++ "; use sys.set_int_max_str_digits() to increase the limit".toList

/-- The failure in words. -/
def message : Failure → Text
  | .config error => error.message
  | .emptySeparator => "empty separator".toList
  | .nulInFileName => "embedded null byte".toList
  | .tooManyDigits count =>
    pastLimit (": value has ".toList ++ Numeral.ofNat count ++ " digits".toList)
  | .overlongNumber => pastLimit []

end Failure

/-! ### Reading texts -/

namespace FileTree

/-- The text of a file, its line breaks folded. The path is refused if it holds `U+0000`; what else
is wrong with the file is a configuration error. -/
def readText (tree : FileTree) (path : Path) : Except Failure Text :=
  if '\x00' ∈ path.toText then .error .nulInFileName
  else
    match tree.read path with
    | .error e => .error (.config (.unreadable path.toText (.system e path)))
    | .ok bytes =>
      match Utf8.decode bytes with
      | .error fault => .error (.config (.unreadable path.toText (.undecodable fault)))
      | .ok text => .ok (Text.foldBreaks text)

end FileTree

end PropertySettings
