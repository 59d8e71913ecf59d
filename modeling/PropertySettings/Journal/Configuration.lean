import PropertySettings.Traced

/-!
# Labelled values

Labelled values are told one after the other, by a record for each, with the values beginning in
one column. A value that has no text is not told, and what stands behind it is not told either: the
records are those of the values in front of it (`records_tell`), and that there is such a value is
all that can go wrong (`outcome_tell`).
-/

namespace PropertySettings.Record

/-- The column, counted from the label's first code point, at which all values begin. -/
def labelWidth (settings : Assignments Text Value) : Nat :=
  (settings.names.map List.length).foldl max 0 + 1

/-- A label with its colon, padded to a width, and the text of a value. -/
def setting (width : Nat) (label text : Text) : Record where
  level := .info
  message := Text.padRight width (label ++ ":".toList) ++ " ".toList ++ text
  incident := none

/-- The records for labelled values that all have a text. -/
def configuration (settings : Assignments Text Value) : List Record :=
  settings.toList.map fun (label, value) => setting (labelWidth settings) label value.display

/-- Tells labelled values with the labels padded to a width. -/
def tellFrom (width : Nat) : List (Text × Value) → Traced Unit
  | [] => pure ()
  | (label, value) :: rest =>
    match value.display? with
    | none => Traced.fail .overlongNumber
    | some text => do
      Traced.note (setting width label text)
      tellFrom width rest

/-- Tells labelled values. -/
def tell (settings : Assignments Text Value) : Traced Unit :=
  tellFrom (labelWidth settings) settings.toList

/-! ### What is told -/

variable {width : Nat} {entries : List (Text × Value)} {label : Text} {value : Value}

theorem tellFrom_cons_of_hasText (h : value.hasText = true) :
    tellFrom width ((label, value) :: entries)
      = ⟨setting width label value.display :: (tellFrom width entries).records,
          (tellFrom width entries).outcome⟩ := by
  rw [tellFrom, Value.display?_of_hasText h]
  rfl

theorem tellFrom_cons_of_not_hasText (h : value.hasText = false) :
    tellFrom width ((label, value) :: entries) = Traced.fail .overlongNumber := by
  rw [tellFrom, Value.display?_of_not_hasText h]

/-- What is told goes up to the first value that has no text, and fails if there is one. -/
theorem tellFrom_eq : tellFrom width entries
    = ⟨(entries.takeWhile (·.2.hasText)).map fun (label, value) =>
        setting width label value.display,
      if entries.all (·.2.hasText) then .ok () else .error .overlongNumber⟩ := by
  induction entries with
  | nil => rfl
  | cons entry rest ih =>
    obtain ⟨label, value⟩ := entry
    cases h : value.hasText with
    | true =>
      rw [tellFrom_cons_of_hasText h, ih, List.takeWhile_cons, List.all_cons, h]
      rfl
    | false =>
      rw [tellFrom_cons_of_not_hasText h, List.takeWhile_cons, List.all_cons, h]
      rfl

variable (settings : Assignments Text Value)

/-- There is a record for each value up to the first one that has no text. -/
theorem records_tell : (tell settings).records
    = (settings.toList.takeWhile (·.2.hasText)).map fun (label, value) =>
        setting (labelWidth settings) label value.display := by
  rw [tell, tellFrom_eq]

/-- Values are told without failure just if all of them have a text. -/
theorem outcome_tell : (tell settings).outcome
    = if settings.toList.all (·.2.hasText) then .ok () else .error .overlongNumber := by
  rw [tell, tellFrom_eq]

end PropertySettings.Record
