import PropertySettings.Value.Basic

/-!
# Values as JSON documents

A value is written as a JSON document that is indented by two spaces, each item of a list and each
field on a line of its own. In strings only the characters are escaped that JSON does not let stand
for themselves.
-/

namespace PropertySettings.Value

/-! ### Strings -/

/-- A character between the quotation marks of a JSON string. -/
def jsonEscape (c : Char) : Text :=
  if c = '\x22' then ['\\', '\x22']
  else if c = '\\' then ['\\', '\\']
  else if c = '\n' then ['\\', 'n']
  else if c = '\r' then ['\\', 'r']
  else if c = '\t' then ['\\', 't']
  else if c = '\x08' then ['\\', 'b']
  else if c = '\x0c' then ['\\', 'f']
  else if c.toNat < 0x20 then '\\' :: 'u' :: Text.hexDigits 4 c.toNat
  else [c]

/-- A JSON string. -/
def jsonString (t : Text) : Text :=
  '\x22' :: t.flatMap jsonEscape ++ ['\x22']

/-! ### Documents -/

/-- The start of a line at a depth. -/
def jsonLine (depth : Nat) : Text :=
  '\n' :: List.replicate (2 * depth) ' '

mutual

/-- The value as a JSON document whose first line stands at a depth. -/
def jsonAt (depth : Nat) : Value → Text
  | .null => "null".toList
  | .bool true => "true".toList
  | .bool false => "false".toList
  | .int n => Numeral.ofInt n
  | .text t => jsonString t
  | .list [] => "[]".toList
  | .list items => "[".toList ++ jsonItems (depth + 1) items ++ jsonLine depth ++ "]".toList
  | .fields [] => "\x7b\x7d".toList
  | .fields entries =>
    "\x7b".toList ++ jsonFields (depth + 1) entries ++ jsonLine depth ++ "\x7d".toList

/-- The items of a list, each on a line of its own. -/
def jsonItems (depth : Nat) : List Value → Text
  | [] => []
  | [item] => jsonLine depth ++ item.jsonAt depth
  | item :: rest => jsonLine depth ++ item.jsonAt depth ++ ",".toList ++ jsonItems depth rest

/-- Fields, each on a line of its own. -/
def jsonFields (depth : Nat) : List (Text × Value) → Text
  | [] => []
  | [(name, value)] => jsonLine depth ++ jsonString name ++ ": ".toList ++ value.jsonAt depth
  | (name, value) :: rest =>
    jsonLine depth ++ jsonString name ++ ": ".toList ++ value.jsonAt depth ++ ",".toList
      ++ jsonFields depth rest

end

/-- The value as a JSON document. -/
def json (value : Value) : Text :=
  value.jsonAt 0

end PropertySettings.Value
