import Mathlib
import PropertySettings.Proofs.Collecting
import PropertySettings.Proofs.PropertyFiles

/-!
# Definitions as lines

Definitions and lines of a properties file are read by rules of their own: a line may be a comment,
its key ends at `=` or `:`, and its value is stripped. A definition is **plain** if none of this shows
(`Definition.Plain`). A plain definition gives the same key and value as a line that is written like it
(`Definition.Plain.entry?_eq`). So plain definitions come to the same properties in the same order,
whether they are given one by one or written down in a file, with any line ends and with blank lines
anywhere (`Definition.plain_definitions_as_lines`).
-/

namespace PropertySettings.Definition

open Text

/-- The definition has a key, no `:` stands before its first `=`, it does not look like a comment, its
value neither begins nor ends with a blank, and it holds no line break. -/
@[mk_iff]
structure Plain (d : Text) : Prop where
  key : ¬ Blank d
  colon : ':' ∉ d.takeWhile (· ≠ '=')
  comment : ∀ c, (stripLeft d).head? = some c → PropertyText.beginsComment c = false
  value : IsTrimmed (value d)
  line : IsLine d

instance (d : Text) : Decidable (Plain d) :=
  decidable_of_iff (¬ Blank d ∧ ':' ∉ d.takeWhile (· ≠ '=') ∧
      (stripLeft d).head?.all (!PropertyText.beginsComment ·) ∧ IsTrimmed (value d) ∧ IsLine d) <| by
    simp only [Option.all_eq_true, Bool.not_eq_true', ← plain_iff]

/-- The ways to write texts as the lines of a text: in order, with blank lines anywhere, each line
ended in some way but for the last, which need not be. -/
inductive Lists : List Text → Text → Prop
  | blankLast {g : Text} (h : PropertyText.IsGap g) : Lists [] g
  | last {d : Text} : Lists [d] d
  | blank {g ending rest : Text} {texts : List Text} (h : PropertyText.IsGap g)
      (hending : IsLineEnd ending) (hrest : Lists texts rest) : Lists texts (g ++ ending ++ rest)
  | line {d ending rest : Text} {texts : List Text} (hending : IsLineEnd ending)
      (hrest : Lists texts rest) : Lists (d :: texts) (d ++ ending ++ rest)

variable {d t : Text} {definitions : List Text}

/-! ### One definition -/

/-- A plain definition is read the same as a line. -/
theorem Plain.entry?_eq (h : Plain d) : PropertyText.entry? d = some (entry d) := by
  have hfree : ∀ c ∈ d.takeWhile (· ≠ '='), PropertyText.isSeparator c = false := by
    intro c hc
    have hequals : c ≠ '=' := by simpa using List.mem_takeWhile_imp hc
    have hcolon : c ≠ ':' := fun heq => h.colon (heq ▸ hc)
    simp [PropertyText.isSeparator, hequals, hcolon]
  by_cases hmem : '=' ∈ d
  · obtain ⟨k, v, rfl, hk⟩ := List.eq_append_cons_of_mem hmem
    rw [Text.takeWhile_ne_append_cons hk] at hfree
    have hcomment : ∀ c, (strip k).head? = some c → PropertyText.beginsComment c = false :=
      fun c hc => h.comment c (head?_stripLeft_append ((head?_strip k).symm.trans hc) _)
    have hvalue : IsTrimmed v := value_append_cons hk v ▸ h.value
    rw [PropertyText.entry?_append_cons hfree (by decide) hcomment, entry_append hk,
      strip_eq_self hvalue]
  · have hall : d.takeWhile (· ≠ '=') = d :=
      List.takeWhile_eq_self_iff.mpr fun c hc => decide_eq_true fun heq => hmem (heq ▸ hc)
    rw [hall] at hfree
    have hne : strip d ≠ [] := fun hnil => h.key (by rw [Blank, hall]; exact strip_eq_nil_iff.mp hnil)
    rw [PropertyText.entry?_of_not_separator hfree hne
      fun c hc => h.comment c ((head?_strip d).symm.trans hc), entry_of_not_mem hmem]

/-! ### Lists of definitions -/

theorem parse_of_plain (h : ∀ d ∈ definitions, Plain d) :
    parse definitions = .ok (.ofList (definitions.map entry)) :=
  parse_of_not_blank fun d hd => (h d hd).key

theorem parse_lines_of_plain (h : ∀ d ∈ definitions, Plain d) :
    PropertyText.parse definitions = .ofList (definitions.map entry) := by
  rw [PropertyText.parse, List.filterMap_congr fun d hd => (h d hd).entry?_eq,
    ← List.filterMap_eq_map]
  rfl

/-- What comes of the lines is what comes of the texts that are written as lines. -/
theorem filterMap_lines_of_lists (h : Lists definitions t) (hline : ∀ d ∈ definitions, IsLine d) :
    (lines t).filterMap PropertyText.entry? = definitions.filterMap PropertyText.entry? := by
  have hnil : PropertyText.entry? [] = none := rfl
  induction h with
  | blankLast h =>
    rw [filterMap_lines_of_isLine hnil h.line, PropertyText.entry?_of_isBlank h.blank]
    rfl
  | @last d =>
    rw [filterMap_lines_of_isLine hnil (hline d List.mem_cons_self), List.filterMap_eq_flatMap_toList,
      List.flatMap_singleton]
  | blank h hending hrest ih =>
    rw [filterMap_lines_append hnil h.line hending, PropertyText.entry?_of_isBlank h.blank, ih hline]
    rfl
  | line hending hrest ih =>
    obtain ⟨hd, hothers⟩ := List.forall_mem_cons.mp hline
    rw [filterMap_lines_append hnil hd hending, ih hothers, List.filterMap_eq_flatMap_toList,
      List.filterMap_eq_flatMap_toList, List.flatMap_cons]

/-- **Plain definitions as lines.** They come to the same properties, in the same order, in four ways:
read as definitions, read as lines, collected as definitions without a file, and collected from any
file that has them as its lines. -/
theorem plain_definitions_as_lines (hplain : ∀ d ∈ definitions, Plain d) :
    let properties := Assignments.ofList (definitions.map entry)
    parse definitions = .ok properties ∧ PropertyText.parse definitions = properties ∧
    (∀ files, collectProperties files definitions none = .ok properties) ∧
    ∀ (files : FileTree) (path : Path) (t : Text), Lists definitions t → files.Holds path t →
      collectProperties files [] (some path) = .ok properties := by
  intro properties
  have hparse : parse definitions = .ok properties := parse_of_plain hplain
  have hlines : PropertyText.parse definitions = properties := parse_lines_of_plain hplain
  refine ⟨hparse, hlines, fun files => ?_, fun files path t hlists hholds => ?_⟩
  · rw [collectProperties, hparse]
    exact congrArg Except.ok (Assignments.update_ofList ∅ _)
  · have hload : PropertyText.load files path = .ok properties := by
      rw [PropertyText.load_of_holds hholds, PropertyText.parse,
        filterMap_lines_of_lists hlists fun d hd => (hplain d hd).line]
      exact congrArg Except.ok hlines
    rw [collectProperties, hload]
    rfl

/-- Definitions with blanks around a key, a key that is defined twice, an empty value, and values that
hold separators or look like a comment; the lines have five kinds of ends. -/
theorem odd_definitions_as_lines :
    let definitions : List Text :=
      [" a b =x:y=z".toList, "c\u00a0".toList, "e=".toList, "c=# v".toList]
    let t : Text := " a b =x:y=z\r\n\u3000\x0bc\u00a0\u2028\re=\n\r\nc=# v\x85".toList
    let files : FileTree := (∅ : FileTree).write ["f".toList] (Utf8.encode t)
    let path := Path.ofText "f".toList
    let properties : List (Text × Text) :=
      [("a b".toList, "x:y=z".toList), ("c".toList, "# v".toList), ("e".toList, [])]
    ((∀ d ∈ definitions, Plain d) ∧ Lists definitions t ∧ files.Holds path t) ∧
      (collectProperties ∅ definitions none).map Assignments.toList = .ok properties ∧
      (collectProperties files [] (some path)).map Assignments.toList = .ok properties := by
  intro definitions t files path properties
  have hplain : ∀ d ∈ definitions, Plain d := by decide +kernel
  have hlists : Lists definitions t :=
    .line .pair <|
      .blank (by decide +kernel : PropertyText.IsGap "\u3000".toList)
        (@IsLineEnd.single '\x0b' (by decide)) <|
      .line (@IsLineEnd.single '\u2028' (by decide)) <|
      .blank (by decide : PropertyText.IsGap []) (@IsLineEnd.single '\r' (by decide)) <|
      .line (@IsLineEnd.single '\n' (by decide)) <|
      .blank (by decide : PropertyText.IsGap []) .pair <|
      .line (@IsLineEnd.single '\x85' (by decide)) (.blankLast (by decide))
  have hholds : files.Holds path t := ⟨by decide, rfl⟩
  have hproperties : (Assignments.ofList (definitions.map entry)).toList = properties := by
    decide +kernel
  obtain ⟨-, -, hdefined, hread⟩ := plain_definitions_as_lines hplain
  refine ⟨⟨hplain, hlists, hholds⟩, ?_, ?_⟩
  · rw [hdefined ∅]
    exact congrArg Except.ok hproperties
  · rw [hread files path t hlists hholds]
    exact congrArg Except.ok hproperties

end PropertySettings.Definition
