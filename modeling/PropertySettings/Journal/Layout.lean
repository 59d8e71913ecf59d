import PropertySettings.Journal.Record
import PropertySettings.Text.WordCharacter

/-!
# Layouts

A **layout** says how a record is written: literal characters and directives, which are filled in
from the fields of the record; `%%` stands for a percent sign. A directive without a field is for
the whole record; it is of use only if no other directive stands before it.

A format text is accepted as a layout if some directive with a field stands somewhere in it,
whatever the field is called: its name may be of word characters, and its numbers of digits, of
every script. What is written follows the directives themselves, whose numbers are of ASCII digits.
A record is written as a whole or not at all: it is not if a directive asks for a field that it does
not have, or does not convert what the field holds.
-/

namespace PropertySettings

/-- What the directive writes for a record with these fields. -/
def Directive.fill (d : Directive) (fields : List (Text × Record.Field)) : Option Text :=
  match d.field with
  | none => d.convertShown (Record.shownFields fields)
  | some name => (fields.lookup name).bind (·.convert d)

/-- A part of a layout. -/
inductive Piece where
  | literal (c : Char)
  | directive (d : Directive)
  /-- A percent sign that begins no directive. -/
  | stray

/-- The character that a part stands for, if it is one. -/
def Piece.literal? : Piece → Option Char
  | .literal c => some c
  | .directive _ | .stray => none

/-- How a record is written. -/
abbrev Layout := List Piece

namespace Layout

/-- The parts of a format text whose first `skip` characters belong to a directive. -/
def piecesFrom : (skip : Nat) → Text → Layout
  | _, [] => []
  | skip + 1, _ :: rest => piecesFrom skip rest
  | 0, '%' :: '%' :: rest => .literal '%' :: piecesFrom 0 rest
  | 0, '%' :: rest =>
    match Directive.ofText? rest with
    | some (d, after) => .directive d :: piecesFrom (rest.length - after.length) rest
    | none => [.stray]
  | 0, c :: rest => .literal c :: piecesFrom 0 rest

/-- The characters that count as the name of a conversion: letters of either case, for `i` and `s`
also those that differ from them in case alone, and the percent sign. -/
def isConversion (c : Char) : Bool :=
  c.toLower ∈ "diouxefgcrsa%".toList || c ∈ ['İ', 'ı', 'ſ']

/-- Takes away a star or digits, if there are any. -/
def dropNumber : Text → Text
  | '*' :: t => t
  | t => t.dropWhile Text.isDecimalDigit

/-- Takes away a point with a star or digits behind it. -/
def dropPrecision : Text → Text
  | '.' :: t => if dropNumber t = t then '.' :: t else dropNumber t
  | t => t

/-- A complete directive with a field stands at the front. -/
def startsWithField : Text → Bool
  | '%' :: '(' :: t =>
    match t.takeWhile Text.isWordCharacter, t.dropWhile Text.isWordCharacter with
    | _ :: _, ')' :: t =>
      (dropPrecision (dropNumber (t.dropWhile Directive.isFlag))).head?.any isConversion
    | _, _ => false
  | _ => false

/-- A complete directive with a field stands somewhere in the text. -/
def hasField : Text → Bool
  | [] => false
  | c :: rest => startsWithField (c :: rest) || hasField rest

/-- The layout that a format text describes. -/
def ofText? (t : Text) : Option Layout :=
  if hasField t then some (piecesFrom 0 t) else none

/-- The format text that is used unless another one is given. -/
def defaultFormat : Text := "%(message)s".toList

/-- What one part of a layout writes for a record with these fields. -/
def fill (fields : List (Text × Record.Field)) : Piece → Option Text
  | .literal c => some [c]
  | .directive d => d.fill fields
  | .stray => none

/-- The directives of the layout. -/
def directives (layout : Layout) : List Directive :=
  layout.filterMap fun
    | .directive d => some d
    | _ => none

/-- Every directive but the first has a field. -/
def OnlyFirstWhole (layout : Layout) : Prop :=
  ∀ d ∈ layout.directives.tail, d.field.isSome

instance (layout : Layout) : Decidable layout.OnlyFirstWhole :=
  inferInstanceAs (Decidable (∀ d ∈ layout.directives.tail, d.field.isSome))

/-- A directive for the time in words, or characters that read like the front of one, stand at the
front. -/
def startsWithTime : Layout → Bool
  | .directive d :: _ => d.field = some Record.timeName
  | layout => ("%(asctime)".toList.map some).isPrefixOf (layout.map Piece.literal?)

/-- The layout asks for the time in words. -/
def isTimed : Layout → Bool
  | [] => false
  | piece :: rest => startsWithTime (piece :: rest) || isTimed rest

/-- The line that the layout writes for the record when it goes to a sink. -/
def line? (layout : Layout) (sink : Sink) (record : Record) : Option Text :=
  if layout.OnlyFirstWhole then
    (layout.mapM (fill (record.fields sink layout.isTimed))).map List.flatten
  else none

/-- The record as the layout writes it to a sink: the line, and the incident on lines of its own. -/
def write (layout : Layout) (sink : Sink) (record : Record) : Option Text :=
  match layout.line? sink record with
  | none => none
  | some line =>
    match record.incident with
    | none => some line
    | some incident =>
      let ended := if line.getLast? = some '\n' then line else line ++ ['\n']
      some (ended ++ incident.text record.circumstances.calls)

/-- The layout that writes the message alone. -/
def plain : Layout :=
  piecesFrom 0 defaultFormat

end Layout

end PropertySettings
