import Mathlib
import PropertySettings.Proofs.Assignments
import PropertySettings.Proofs.Encoding
import PropertySettings.Proofs.Lines
import PropertySettings.PropertyText

/-!
# Collecting properties

Properties are collected from the lines of a file and from definitions. A file that cannot be read
is told of first, then the first definition without a key. Otherwise the last definition of a key
counts, or else its last line, and keys stand in the order in which they come up first, those of the
file before those of the definitions (`collectProperties_by_file_and_definitions`). It comes to the
same to read two lists one behind the other and to update by what the second one gives
(`PropertyText.parse_append`, `Definition.parse_append`).
-/

namespace PropertySettings

/-! ### Definitions -/

namespace Definition

variable {definitions : List Text} {d : Text}

/-- What stands before the first `=`, or all of it if there is none, is blank. -/
def Blank (d : Text) : Prop :=
  Text.IsBlank (d.takeWhile (· ≠ '='))

instance (d : Text) : Decidable (Blank d) :=
  inferInstanceAs (Decidable (Text.IsBlank _))

/-- Among the definitions it is the first one whose key is blank. -/
def FirstBlank (definitions : List Text) (d : Text) : Prop :=
  ∃ before after, definitions = before ++ d :: after ∧ (∀ x ∈ before, ¬ Blank x) ∧ Blank d

/-- The key and the value of a definition. -/
def entry (d : Text) : Text × Text :=
  (key d, value d)

theorem key_eq_nil_iff : key d = [] ↔ Blank d :=
  Text.strip_eq_nil_iff

theorem value_append_cons {k : Text} (h : '=' ∉ k) (v : Text) : value (k ++ '=' :: v) = v := by
  rw [value, Text.dropWhile_ne_append_cons h]
  rfl

/-- A definition with `=` is cut there; the value is taken as it stands. -/
theorem entry_append {k : Text} (h : '=' ∉ k) (v : Text) :
    entry (k ++ '=' :: v) = (Text.strip k, v) := by
  rw [entry, key, Text.takeWhile_ne_append_cons h, value_append_cons h]

/-- A definition without `=` is a key. -/
theorem entry_of_not_mem (h : '=' ∉ d) : entry d = (Text.strip d, []) := by
  have hfree : ∀ c ∈ d, decide (c ≠ '=') = true := fun c hc =>
    decide_eq_true fun heq => h (heq ▸ hc)
  rw [entry, key, value, List.takeWhile_eq_self_iff.mpr hfree, List.dropWhile_eq_nil_iff.mpr hfree]
  rfl

theorem parse_eq_error_iff : parse definitions = .error ⟨d⟩ ↔ FirstBlank definitions d := by
  have hfind : definitions.find? (key · = []) = some d ↔ FirstBlank definitions d := by
    rw [List.find?_eq_some_iff_append]
    simp only [decide_eq_true_eq, Bool.not_eq_true', decide_eq_false_iff_not, key_eq_nil_iff]
    constructor
    · rintro ⟨hblank, before, after, hsplit, hbefore⟩
      exact ⟨before, after, hsplit, hbefore, hblank⟩
    · rintro ⟨before, after, hsplit, hbefore, hblank⟩
      exact ⟨hblank, before, after, hsplit, hbefore⟩
  rw [← hfind, parse]
  cases definitions.find? (key · = []) <;> simp

theorem parse_of_not_blank (h : ∀ x ∈ definitions, ¬ Blank x) :
    parse definitions = .ok (.ofList (definitions.map entry)) := by
  have hfind : definitions.find? (key · = []) = none := by
    rw [List.find?_eq_none]
    intro x hx
    simpa [key_eq_nil_iff] using h x hx
  rw [parse, hfind]
  rfl

/-- Definitions one behind the other are an update. -/
theorem parse_append {first second : List Text} (h : ∀ x ∈ first ++ second, ¬ Blank x) :
    ∃ a b, parse first = .ok a ∧ parse second = .ok b ∧
      parse (first ++ second) = .ok (a.update b) := by
  obtain ⟨hfirst, hsecond⟩ := List.forall_mem_append.mp h
  refine ⟨_, _, parse_of_not_blank hfirst, parse_of_not_blank hsecond, ?_⟩
  rw [parse_of_not_blank h, List.map_append, Assignments.ofList_append]

end Definition

/-! ### Lines -/

/-- Lines one behind the other are an update. -/
theorem PropertyText.parse_append (first second : List Text) :
    parse (first ++ second) = (parse first).update (parse second) := by
  rw [parse, List.filterMap_append, Assignments.ofList_append, parse, parse]

/-- The lines of the properties file, if there is one, and else none. -/
inductive FileTree.Lines (files : FileTree) : Option Path → List Text → Prop
  | none : Lines files none []
  | some {path : Path} {bytes : List UInt8} {t : Text} (hread : files.read path = .ok bytes)
      (hdecode : Utf8.decode bytes = .ok t) : Lines files (some path) (Text.lines t)

/-! ### Both together -/

section Collect

variable {files : FileTree} {definitions lines : List Text} {file : Option Path} {path : Path}

theorem collectProperties_of_defect {cause : Cause} (hname : '\x00' ∉ path.toText)
    (h : files.Defect path cause) :
    collectProperties files definitions (some path)
      = .error (.file (.config (.unreadable path.toText cause))) := by
  have hload : PropertyText.load files path = .error (.config (.unreadable path.toText cause)) := by
    rw [PropertyText.load, h.readText hname]
  rw [collectProperties, hload]
  rfl

/-- With lines to read it depends on the definitions. -/
theorem collectProperties_of_lines (hname : ∀ path, file = some path → '\x00' ∉ path.toText)
    (h : files.Lines file lines) :
    collectProperties files definitions file
      = ((Definition.parse definitions).mapError .definition).map
          (PropertyText.parse lines).update := by
  cases h with
  | none => cases hparse : Definition.parse definitions <;> simp [collectProperties, hparse] <;> rfl
  | @some path bytes t hread hdecode =>
    have hload : PropertyText.load files path = .ok (PropertyText.parse (Text.lines t)) := by
      rw [PropertyText.load, FileTree.readText_of_decode (hname path rfl) hread hdecode]
      exact congrArg (fun ls => Except.ok (PropertyText.parse ls)) (Text.lines_foldBreaks t)
    rw [collectProperties, hload]
    cases Definition.parse definitions <;> rfl

theorem defect_or_lines (files : FileTree) (file : Option Path) :
    (∃ path cause, file = some path ∧ files.Defect path cause) ∨
      ∃ lines, files.Lines file lines := by
  cases file with
  | none => exact .inr ⟨[], .none⟩
  | some path =>
    rcases files.readable_or_defect path with ⟨bytes, t, hread, hdecode⟩ | ⟨cause, hcause⟩
    · exact .inr ⟨_, .some hread hdecode⟩
    · exact .inl ⟨path, cause, rfl, hcause⟩

/-- **What is collected from a file and from definitions.** Let the name of the file be one that can
be opened. Either it has a defect, or there are its lines, none if there is no file.

* If it has a defect, that is what is told, whatever the definitions are.
* Otherwise, if there are definitions without a key, the first one is named.
* Otherwise each key has the value of its last definition, or else of its last line, or else none;
  it stands once, and where it comes up first, the lines coming before the definitions.

The key and the value of a definition are what is before its first `=`, stripped, and what is behind
it, as it stands; without `=` it is all key. Of two lists of lines one behind the other, or of two
lists of definitions that have their keys, what the second one gives updates what the first one
gives. -/
theorem collectProperties_by_file_and_definitions (files : FileTree) (definitions : List Text)
    (file : Option Path) (hname : ∀ path, file = some path → '\x00' ∉ path.toText) :
    let collected := collectProperties files definitions file
    let defined := definitions.map Definition.entry
    ((∃ path cause, file = some path ∧ files.Defect path cause) ∨
      ∃ lines, files.Lines file lines) ∧
    (∀ path cause, file = some path → files.Defect path cause →
      collected = .error (.file (.config (.unreadable path.toText cause)))) ∧
    (∀ lines, files.Lines file lines →
      let written := lines.filterMap PropertyText.entry?
      (∀ d, Definition.FirstBlank definitions d → collected = .error (.definition ⟨d⟩)) ∧
      ((∀ d ∈ definitions, ¬ Definition.Blank d) →
        ∃ properties, collected = .ok properties ∧
          (∀ key value, properties.get? key = some value ↔
            Assignments.LastIn defined key value ∨
              (key ∉ defined.map Prod.fst ∧ Assignments.LastIn written key value)) ∧
          (∀ key, properties.get? key = none ↔
            key ∉ defined.map Prod.fst ∧ key ∉ written.map Prod.fst) ∧
          properties.names.Nodup ∧
          properties.names
            = Assignments.firstOccurrences (written.map Prod.fst ++ defined.map Prod.fst))) ∧
    (∀ before after, '=' ∉ before →
      Definition.entry (before ++ '=' :: after) = (Text.strip before, after)) ∧
    (∀ d, '=' ∉ d → Definition.entry d = (Text.strip d, [])) ∧
    (∀ first second, PropertyText.parse (first ++ second)
      = (PropertyText.parse first).update (PropertyText.parse second)) ∧
    ∀ first second, (∀ d ∈ first ++ second, ¬ Definition.Blank d) →
      ∃ a b, Definition.parse first = .ok a ∧ Definition.parse second = .ok b ∧
        Definition.parse (first ++ second) = .ok (a.update b) := by
  intro collected defined
  refine ⟨defect_or_lines files file, ?_, fun lines hlines => ⟨fun d hd => ?_, fun hkeys => ?_⟩,
    fun _ after h => Definition.entry_append h after, fun _ => Definition.entry_of_not_mem,
    PropertyText.parse_append, fun _ _ => Definition.parse_append⟩
  · rintro path cause rfl hdefect
    exact collectProperties_of_defect (hname path rfl) hdefect
  · have hparse := Definition.parse_eq_error_iff.mpr hd
    exact (collectProperties_of_lines hname hlines).trans (by rw [hparse]; rfl)
  · have hparse := Definition.parse_of_not_blank hkeys
    have hnames := Assignments.names_update_ofList (lines.filterMap PropertyText.entry?) defined
    refine ⟨(PropertyText.parse lines).update (.ofList defined), ?_, fun key value => ?_,
      fun key => ?_, Assignments.nodup_names _, hnames⟩
    · exact (collectProperties_of_lines hname hlines).trans (by rw [hparse]; rfl)
    · exact Assignments.get?_update_ofList_eq_some_iff
    · rw [Assignments.get?_eq_none_iff, PropertyText.parse, hnames,
        Assignments.mem_firstOccurrences, List.mem_append, not_or, and_comm]

end Collect

/-- A definition wins over two lines with its key and keeps the place of the first one; its value is
cut at the first `=` only, and not stripped. -/
theorem collectProperties_of_repeated_keys :
    let files : FileTree :=
      (∅ : FileTree).write ["f".toList] (Utf8.encode "a=1\nb: 2\n a = 3".toList)
    let file := some (Path.ofText "f".toList)
    let definitions : List Text := ["c".toList, " a = x=y".toList]
    (∀ path, file = some path → '\x00' ∉ path.toText) ∧
      ∃ properties, collectProperties files definitions file = .ok properties ∧
        properties.names = ["a".toList, "b".toList, "c".toList] ∧
        properties.get? "a".toList = some " x=y".toList ∧
        properties.get? "b".toList = some "2".toList ∧
        properties.get? "c".toList = some [] := by
  intro files file definitions
  have hname : ∀ path, file = some path → '\x00' ∉ path.toText := by
    intro path hpath
    rw [← Option.some.inj hpath]
    decide
  have hlines : files.Lines file ["a=1".toList, "b: 2".toList, " a = 3".toList] :=
    .some (t := "a=1\nb: 2\n a = 3".toList) rfl rfl
  obtain ⟨-, -, hcollected, -⟩ :=
    collectProperties_by_file_and_definitions files definitions file hname
  obtain ⟨-, hdefined⟩ := hcollected _ hlines
  obtain ⟨properties, hproperties, hget, -, -, hnames⟩ := hdefined (by decide +kernel)
  refine ⟨hname, properties, hproperties, ?_, ?_, ?_, ?_⟩
  · rw [hnames]
    decide +kernel
  · exact (hget _ _).mpr (.inl ⟨[("c".toList, [])], [], rfl, by simp⟩)
  · refine (hget _ _).mpr (.inr ⟨by decide +kernel, [("a".toList, "1".toList)],
      [("a".toList, "3".toList)], by cbv, ?_⟩)
    decide +kernel
  · exact (hget _ _).mpr (.inl ⟨[], [("a".toList, " x=y".toList)], rfl, by decide +kernel⟩)

end PropertySettings
