import Mathlib
import PropertySettings.Journal.Layout

/-!
# Layouts that write every record

A layout can fail to write a record: a directive may ask for a field that there is not, or convert
the field as it cannot be converted. The directives that **fit** ask for the message, for the name
of the journal, or for the name or the number of the level, and convert it as every text or the
number of every level can be converted. A layout of such directives and of characters writes every
record, whatever the circumstances and the sink are (`Layout.total_of_fits`).
-/

namespace PropertySettings

/-! ### Directives that fit -/

namespace Directive

/-- The conversions that every text has. -/
def textConversions : List Char := ['s', 'r', 'a']

/-- The conversions that the number of every level has. -/
def numberConversions : List Char :=
  ['s', 'r', 'a', 'd', 'i', 'u', 'o', 'x', 'X', 'f', 'F', 'e', 'E', 'g', 'G', 'c']

/-- The directive converts a field that is told by the message and the level: a text, or the number
of the level. -/
def Fits (d : Directive) : Prop :=
  (d.field ∈ [some "message".toList, some "levelname".toList, some "name".toList] ∧
      d.conversion ∈ textConversions) ∨
    (d.field = some "levelno".toList ∧ d.conversion ∈ numberConversions ∧
      d.precision.getD 0 ≤ digitsLimit)

instance (d : Directive) : Decidable d.Fits :=
  inferInstanceAs (Decidable (_ ∨ _))

variable {d : Directive}

theorem exists_convertText (h : d.conversion ∈ textConversions) (t : Text) :
    ∃ text, d.convertText t = some text := by
  obtain ⟨field, flags, width, precision, conversion⟩ := d
  simp only [textConversions, List.mem_cons, List.not_mem_nil, or_false] at h
  rcases h with rfl | rfl | rfl <;> exact ⟨_, rfl⟩

theorem exists_convertDigits (h : d.precision.getD 0 ≤ digitsLimit) (mark digits : Text) :
    ∃ text, d.convertDigits mark digits = some text :=
  ⟨_, if_pos h⟩

theorem exists_convertNumber (h : d.conversion ∈ numberConversions)
    (hprecision : d.precision.getD 0 ≤ digitsLimit) {n : Nat} (hn : n.isValidChar) :
    ∃ text, d.convertNumber n = some text := by
  obtain ⟨field, flags, width, precision, conversion⟩ := d
  simp only [numberConversions, List.mem_cons, List.not_mem_nil, or_false] at h
  rcases h with rfl | rfl | rfl | rfl | rfl | rfl | rfl | rfl | rfl | rfl | rfl | rfl | rfl | rfl |
    rfl | rfl
  all_goals first
    | exact ⟨_, rfl⟩
    | exact exists_convertDigits hprecision _ _
    | exact ⟨_, if_pos hn⟩

theorem fill_of_field {name : Text} {fields : List (Text × Record.Field)} {field : Record.Field}
    (hname : d.field = some name) (hfield : fields.lookup name = some field) :
    d.fill fields = field.convert d := by
  simp only [fill, hname, hfield, Option.bind_some]

/-- A directive that fits can be filled in for every record. -/
theorem exists_fill_of_fits (h : d.Fits) (record : Record) (sink : Sink) (timed : Bool) :
    ∃ text, d.fill (record.fields sink timed) = some text := by
  rcases h with ⟨hfield, hconversion⟩ | ⟨hfield, hconversion, hprecision⟩
  · have htext : ∃ name t, d.field = some name ∧
        (record.fields sink timed).lookup name = some (.text t) := by
      simp only [List.mem_cons, List.not_mem_nil, or_false] at hfield
      rcases hfield with hname | hname | hname <;> exact ⟨_, _, hname, rfl⟩
    obtain ⟨name, t, hname, ht⟩ := htext
    exact fill_of_field hname ht ▸ exists_convertText hconversion t
  · have hnumber : (record.fields sink timed).lookup "levelno".toList
        = some (.number record.level.rank _) := rfl
    have hrank : record.level.rank.isValidChar := by cases record.level <;> decide
    exact fill_of_field hfield hnumber ▸ exists_convertNumber hconversion hprecision hrank

theorem Fits.isSome_field (h : d.Fits) : d.field.isSome := by
  rcases h with ⟨hfield, -⟩ | ⟨hfield, -⟩
  · simp only [List.mem_cons, List.not_mem_nil, or_false] at hfield
    rcases hfield with hname | hname | hname <;> exact hname ▸ rfl
  · exact hfield ▸ rfl

end Directive

/-- The part is a character or a directive that fits. -/
def Piece.Fits : Piece → Prop
  | .literal _ => True
  | .directive d => d.Fits
  | .stray => False

instance : DecidablePred Piece.Fits
  | .literal _ => .isTrue trivial
  | .directive d => inferInstanceAs (Decidable d.Fits)
  | .stray => .isFalse id

/-! ### Layouts of directives that fit -/

namespace Layout

variable {layout : Layout}

/-- The layout can write every record to every sink. -/
def Total (layout : Layout) : Prop :=
  ∀ sink record, ∃ text, layout.write sink record = some text

theorem onlyFirstWhole_of_fits (h : ∀ piece ∈ layout, piece.Fits) : layout.OnlyFirstWhole := by
  intro d hd
  obtain ⟨piece, hpiece, hdirective⟩ := List.mem_filterMap.mp (List.mem_of_mem_tail hd)
  have hfits := h piece hpiece
  cases piece with
  | literal c => exact absurd hdirective (by simp)
  | directive other => exact Option.some.inj hdirective ▸ Directive.Fits.isSome_field hfits
  | stray => exact hfits.elim

theorem exists_mapM_of_fits (h : ∀ piece ∈ layout, piece.Fits) (record : Record) (sink : Sink)
    (timed : Bool) : ∃ texts, layout.mapM (fill (record.fields sink timed)) = some texts := by
  induction layout with
  | nil => exact ⟨[], rfl⟩
  | cons piece rest ih =>
    obtain ⟨hpiece, hrest⟩ := List.forall_mem_cons.mp h
    obtain ⟨texts, htexts⟩ := ih hrest
    have hfill : ∃ text, fill (record.fields sink timed) piece = some text := by
      cases piece with
      | literal c => exact ⟨[c], rfl⟩
      | directive d => exact Directive.exists_fill_of_fits hpiece record sink timed
      | stray => exact hpiece.elim
    obtain ⟨text, htext⟩ := hfill
    exact ⟨text :: texts, by simp [List.mapM_cons, htext, htexts]⟩

/-- **Parts that fit make a layout that writes every record.** -/
theorem total_of_fits (h : ∀ piece ∈ layout, piece.Fits) : layout.Total := by
  intro sink record
  obtain ⟨texts, htexts⟩ := exists_mapM_of_fits h record sink layout.isTimed
  have hline : layout.line? sink record = some texts.flatten := by
    rw [line?, if_pos (onlyFirstWhole_of_fits h), htexts]
    rfl
  rw [write, hline]
  cases record.incident <;> exact ⟨_, rfl⟩

end Layout

end PropertySettings
