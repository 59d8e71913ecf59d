import PropertySettings.Text.Numeral
import PropertySettings.Text.Quoted

/-!
# Values

A **value** is null, a truth value, a number, a text, a list of values, or named fields in order.
It is shown as a **literal** on one line, in which texts are quoted; a text that stands alone is
displayed as it is. A value **has a text** unless a number in it has too many digits to be written.
Equality of values is decidable (`same_iff`).
-/

namespace PropertySettings

/-- A value that can be shown. -/
inductive Value where
  | null
  | bool (b : Bool)
  | int (n : Int)
  | text (t : Text)
  | list (items : List Value)
  | fields (entries : List (Text × Value))

namespace Value

/-! ### Equality -/

mutual

/-- Whether two values are the same. -/
def same : Value → Value → Bool
  | .null, .null => true
  | .bool a, .bool b => a = b
  | .int m, .int n => m = n
  | .text s, .text t => s = t
  | .list items, .list others => sameItems items others
  | .fields entries, .fields others => sameFields entries others
  | _, _ => false

/-- Whether two lists of values are the same. -/
def sameItems : List Value → List Value → Bool
  | [], [] => true
  | a :: items, b :: others => a.same b && sameItems items others
  | _, _ => false

/-- Whether two lists of fields are the same, in the same order. -/
def sameFields : List (Text × Value) → List (Text × Value) → Bool
  | [], [] => true
  | (m, a) :: entries, (n, b) :: others => m = n && a.same b && sameFields entries others
  | _, _ => false

end

mutual

theorem same_iff : (a b : Value) → (a.same b = true ↔ a = b)
  | .null, b => by cases b <;> simp [same]
  | .bool a, b => by cases b <;> simp [same]
  | .int n, b => by cases b <;> simp [same]
  | .text t, b => by cases b <;> simp [same]
  | .list items, b => by cases b <;> simp [same, sameItems_iff items]
  | .fields entries, b => by cases b <;> simp [same, sameFields_iff entries]

theorem sameItems_iff : (items others : List Value) → (sameItems items others = true ↔ items = others)
  | [], others => by cases others <;> simp [sameItems]
  | a :: items, others => by cases others <;> simp [sameItems, same_iff a, sameItems_iff items]

theorem sameFields_iff :
    (entries others : List (Text × Value)) → (sameFields entries others = true ↔ entries = others)
  | [], others => by cases others <;> simp [sameFields]
  | (m, a) :: entries, others => by
    cases others with
    | nil => simp [sameFields]
    | cons b others => simp [sameFields, same_iff a, sameFields_iff entries, Prod.ext_iff]

end

instance : DecidableEq Value := fun a b =>
  decidable_of_iff _ (same_iff a b)

/-! ### Literals -/

mutual

/-- The value on one line. -/
def literal : Value → Text
  | .null => "None".toList
  | .bool true => "True".toList
  | .bool false => "False".toList
  | .int n => Numeral.ofInt n
  | .text t => Text.quoted t
  | .list items => "[".toList ++ literalItems items ++ "]".toList
  | .fields entries => "\x7b".toList ++ literalFields entries ++ "\x7d".toList

/-- Values with commas between them. -/
def literalItems : List Value → Text
  | [] => []
  | [item] => item.literal
  | item :: rest => item.literal ++ ", ".toList ++ literalItems rest

/-- Named values with commas between them. -/
def literalFields : List (Text × Value) → Text
  | [] => []
  | [(name, value)] => Text.quoted name ++ ": ".toList ++ value.literal
  | (name, value) :: rest =>
    Text.quoted name ++ ": ".toList ++ value.literal ++ ", ".toList ++ literalFields rest

end

/-- The value as it is displayed on its own, whatever the numbers in it are. -/
def display : Value → Text
  | .text t => t
  | value => value.literal

/-! ### Values that have a text -/

mutual

/-- No number in the value has too many digits to be written. -/
def hasText : Value → Bool
  | .int n => (Numeral.ofNat n.natAbs).length ≤ Numeral.digitLimit
  | .list items => itemsHaveText items
  | .fields entries => fieldsHaveText entries
  | .null | .bool _ | .text _ => true

/-- All values of a list have a text. -/
def itemsHaveText : List Value → Bool
  | [] => true
  | item :: rest => item.hasText && itemsHaveText rest

/-- All values that are named have a text. -/
def fieldsHaveText : List (Text × Value) → Bool
  | [] => true
  | (_, value) :: rest => value.hasText && fieldsHaveText rest

end

/-- The text of the value, if it has one. -/
def display? (value : Value) : Option Text :=
  if value.hasText then some value.display else none

theorem display?_of_hasText {value : Value} (h : value.hasText = true) :
    value.display? = some value.display :=
  if_pos h

theorem display?_of_not_hasText {value : Value} (h : value.hasText = false) :
    value.display? = none := by
  simp [display?, h]

end Value

end PropertySettings
