import Mathlib
import PropertySettings.CommandLine.Arguments
import PropertySettings.Proofs.Collecting
import PropertySettings.Proofs.Complaints
import PropertySettings.Proofs.Pieces

/-!
# Usage lines that are filled in

A usage line has a placeholder for each property that is missing where no property is given
(`Registry.usageLine_eq`). As long as no required key holds `=`, the placeholders can be read off the
line again, whatever the name of the program is, and even if keys have spaces in them
(`Registry.placeholdersIn_usageLine`). With values in place of the question marks they are options
that define the required properties (`Arguments.readAfter_definitions`), and these are complete
(`Registry.filled_usage_line_completes`).
-/

namespace PropertySettings

/-! ### Options that define -/

namespace Arguments

/-- What stands behind the letter of definitions is a definition. -/
theorem recognise_definition {d : Text} (h : d ≠ []) :
    recognise ("-D".toList ++ d) = .ok (.define, some d) := by
  have hname : Switch.byName.lookup (("-D".toList ++ d).takeWhile (· ≠ '=')) = none := by
    rw [List.lookup_eq_none_iff]
    -- the second character is the letter, and that of a long name is a dash
    have hnames : ∀ entry ∈ Switch.byName, entry.1[1]? = some '-' := by decide
    have hletter : (("-D".toList ++ d).takeWhile (· ≠ '='))[1]? = some 'D' := rfl
    intro entry hentry
    refine bne_iff_ne.mpr fun heq => ?_
    exact absurd (hletter.symm.trans (heq ▸ hnames entry hentry)) (by decide)
  unfold recognise
  rw [hname]
  show Except.ok (Switch.define, if d = [] then none else some d) = _
  rw [if_neg h]

/-- Options with the letter of definitions add their texts to the definitions. -/
theorem readAfter_definitions (a : Arguments) {definitions : List Text}
    (h : ∀ d ∈ definitions, d ≠ []) :
    a.readAfter (definitions.map ("-D".toList ++ ·))
      = .ok { a with definitions := a.definitions ++ definitions } := by
  induction definitions generalizing a with
  | nil => simp [readAfter]
  | cons d rest ih =>
    obtain ⟨hd, hrest⟩ := List.forall_mem_cons.mp h
    have hdash : "-D".toList ++ d ≠ ['-', '-'] := by simp
    have hoption : isOption ("-D".toList ++ d) = true := rfl
    have hstep : a.readAfter (("-D".toList ++ d) :: rest.map ("-D".toList ++ ·))
        = (a.take .define d).readAfter (rest.map ("-D".toList ++ ·)) := by
      rw [readAfter, if_neg hdash, if_pos hoption, recognise_definition hd]
      rfl
    rw [List.map_cons, hstep, ih _ hrest]
    simp [take]

end Arguments

/-! ### The placeholders of a line -/

/-- Joined texts with one more separator in front have one in front of each. -/
theorem Text.append_intercalate (sep first : Text) (rest : List Text) :
    sep ++ List.intercalate sep (first :: rest) = (first :: rest).flatMap (sep ++ ·) := by
  induction rest generalizing first with
  | nil => simp
  | cons second rest ih =>
    rw [List.intercalate_cons_cons, List.append_assoc, ih]
    simp only [List.flatMap_cons, List.append_assoc]

namespace Registry

variable {registry : Registry} {program : Text} {keys : List Text}

/-- The placeholders in a usage line: what stands behind the name of the program, each up to its
question mark and without the space before it. -/
def placeholdersIn (program line : Text) : List Text :=
  let tail := line.drop ("Usage: ".toList ++ program).length
  (Text.pieces "=?".toList tail).dropLast.map fun piece => piece.drop 1 ++ "=?".toList

/-- A placeholder with a value in place of its question mark. -/
def fillIn (placeholder value : Text) : Text :=
  placeholder.dropLast ++ value

theorem missing_empty (registry : Registry) : registry.missing ∅ = registry.requiredKeys := by
  refine List.filter_eq_self.mpr fun key _ => decide_eq_true ?_
  simp [Satisfied, PropertySet.Gives, PropertySet.value?]

/-- A usage line is the name of the program, and a placeholder for each property that is missing
where none is given. -/
theorem usageLine_eq (registry : Registry) (program : Text) :
    registry.usageLine program
      = "Usage: ".toList ++ program
        ++ ((registry.missing ∅).map placeholder).flatMap (" ".toList ++ ·) ++ "\n".toList := by
  have htail (keys : List Text) : (let options := List.intercalate " ".toList (keys.map placeholder)
      if options = [] then [] else " ".toList ++ options)
        = (keys.map placeholder).flatMap (" ".toList ++ ·) := by
    cases keys with
    | nil => rfl
    | cons key rest =>
      have hne : List.intercalate " ".toList ((key :: rest).map placeholder) ≠ [] := by
        refine List.ne_nil_of_mem (a := '-') (Text.mem_intercalate_of_mem List.mem_cons_self ?_)
        simp [placeholder]
      exact (if_neg hne).trans (Text.append_intercalate ..)
  rw [missing_empty, ← htail]
  rfl

/-- Cut at the ends of its placeholders, the rest of a line gives the keys. -/
theorem pieces_placeholders (h : ∀ key ∈ keys, '=' ∉ key) :
    Text.pieces "=?".toList ((keys.map placeholder).flatMap (" ".toList ++ ·) ++ "\n".toList)
      = keys.map (" -D".toList ++ ·) ++ ["\n".toList] := by
  induction keys with
  | nil => rfl
  | cons key rest ih =>
    obtain ⟨hkey, hrest⟩ := List.forall_mem_cons.mp h
    have hfree : '=' ∉ " -D".toList ++ key := by simpa using hkey
    have hfirst : Text.EndsFirst "=?".toList (" -D".toList ++ key) :=
      Text.endsFirst_of_not_mem hfree ['?']
    rw [List.map_cons, List.map_cons, List.cons_append, ← ih hrest,
      ← Text.pieces_append (by simp) hfirst, List.flatMap_cons, placeholder]
    simp

/-- The placeholders can be read off the line. -/
theorem placeholdersIn_usageLine (h : ∀ key ∈ registry.requiredKeys, '=' ∉ key) :
    placeholdersIn program (registry.usageLine program) = (registry.missing ∅).map placeholder := by
  have hmissing : ∀ key ∈ registry.missing ∅, '=' ∉ key := by rwa [missing_empty]
  rw [placeholdersIn, usageLine_eq, List.append_assoc _ _ "\n".toList, List.drop_left,
    pieces_placeholders hmissing, List.dropLast_concat, List.map_map]
  refine List.map_congr_left fun key _ => ?_
  simp [placeholder]

/-! ### Filling in -/

theorem fillIn_placeholder (key value : Text) :
    fillIn (placeholder key) value = "-D".toList ++ (key ++ '=' :: value) := by
  have hlast : placeholder key = ("-D".toList ++ key ++ ['=']) ++ ['?'] := by simp [placeholder]
  rw [fillIn, hlast, List.dropLast_concat]
  simp

/-- The placeholders of keys, filled in, are options that define the keys. -/
theorem zipWith_fillIn (keys values : List Text) :
    List.zipWith fillIn (keys.map placeholder) values
      = ((keys.zip values).map fun (key, value) => key ++ '=' :: value).map
          ("-D".toList ++ ·) := by
  rw [List.map_map, List.zipWith_map_left, ← List.map_uncurry_zip_eq_zipWith]
  exact List.map_congr_left fun entry _ => fillIn_placeholder entry.1 entry.2

/-- Definitions of keys that are stripped already are read as they were put together. -/
theorem parse_definitions (values : List Text)
    (hkeys : ∀ key ∈ keys, key ≠ [] ∧ Text.IsTrimmed key ∧ '=' ∉ key) :
    Definition.parse ((keys.zip values).map fun (key, value) => key ++ '=' :: value)
      = .ok (.ofList (keys.zip values)) := by
  have hentry : ∀ entry ∈ keys.zip values,
      Definition.entry (entry.1 ++ '=' :: entry.2) = entry ∧ entry.1 ≠ [] := by
    intro entry hentry
    obtain ⟨hne, htrimmed, hfree⟩ := hkeys entry.1 (List.of_mem_zip hentry).1
    exact ⟨by rw [Definition.entry_append hfree, Text.strip_eq_self htrimmed], hne⟩
  have hblank : ∀ d ∈ (keys.zip values).map fun (key, value) => key ++ '=' :: value,
      ¬ Definition.Blank d := by
    intro d hd hblank
    obtain ⟨entry, hmem, rfl⟩ := List.mem_map.mp hd
    obtain ⟨heq, hne⟩ := hentry entry hmem
    exact hne ((congrArg Prod.fst heq).symm.trans (Definition.key_eq_nil_iff.mpr hblank))
  rw [Definition.parse_of_not_blank hblank, List.map_map]
  congr 2
  exact (List.map_congr_left fun entry hmem => (hentry entry hmem).1).trans (List.map_id _)

/-- Properties that define all required keys are complete. -/
theorem complete_of_names {properties : Assignments Text Text}
    (h : ∀ key ∈ registry.requiredKeys, key ∈ properties.names) :
    registry.Complete (.ofValues properties) := by
  intro key hkey
  refine .inl ?_
  rw [PropertySet.Gives, PropertySet.value?_ofValues, Option.isSome_iff_ne_none, ne_eq,
    Assignments.get?_eq_none_iff, not_not]
  exact h key hkey

/-- **A usage line that is filled in will do.** Let the required keys be such that a definition can
name them; they may be repeated. On the line there are, behind the name of the program, the
placeholders of the properties that are missing where none is given, in order and with repeats, and
they can be read off it. Whatever values are put in place of the question marks, what comes of the
placeholders is read as options that define, the definitions are accepted, and the properties are
complete, so that there are no complaints. -/
theorem filled_usage_line_completes (registry : Registry) (program separator : Text)
    (hkeys : ∀ key ∈ registry.requiredKeys, key ≠ [] ∧ Text.IsTrimmed key ∧ '=' ∉ key) :
    let line := registry.usageLine program
    let placeholders := placeholdersIn program line
    placeholders = (registry.missing ∅).map placeholder ∧
    line = "Usage: ".toList ++ program ++ placeholders.flatMap (" ".toList ++ ·) ++ "\n".toList ∧
    ∀ values : List Text, values.length = placeholders.length →
      let options := List.zipWith fillIn placeholders values
      let definitions := options.map (·.drop "-D".toList.length)
      Arguments.read options = .ok { Arguments.initial with definitions } ∧
      ∃ properties, Definition.parse definitions = .ok properties ∧
        (⟨.ofValues properties, registry, separator⟩ : Settings).Complete ∧
        registry.complaints (.ofValues properties) = [] := by
  intro line placeholders
  have hread : placeholders = (registry.missing ∅).map placeholder :=
    placeholdersIn_usageLine fun key hkey => (hkeys key hkey).2.2
  refine ⟨hread, hread ▸ usageLine_eq registry program, fun values hlength => ?_⟩
  intro options definitions
  rw [missing_empty] at hread
  rw [hread, List.length_map] at hlength
  have hoptions : options = _ := (congrArg (List.zipWith fillIn · values) hread).trans
    (zipWith_fillIn registry.requiredKeys values)
  have hdefinitions : definitions
      = (registry.requiredKeys.zip values).map fun (key, value) => key ++ '=' :: value := by
    show options.map _ = _
    rw [hoptions, List.map_map]
    exact List.map_id _
  have hnames : (registry.requiredKeys.zip values).map Prod.fst = registry.requiredKeys :=
    List.map_fst_zip hlength.ge
  have hcomplete : registry.Complete (.ofValues (.ofList (registry.requiredKeys.zip values))) := by
    refine complete_of_names fun key hkey => ?_
    rw [Assignments.names_ofList, Assignments.mem_firstOccurrences, hnames]
    exact hkey
  refine ⟨?_, _, hdefinitions ▸ parse_definitions values hkeys, hcomplete,
    complaints_eq_nil_iff.mpr hcomplete⟩
  rw [Arguments.read, hoptions, ← hdefinitions, Arguments.readAfter_definitions]
  · rfl
  · rw [hdefinitions]
    exact List.forall_mem_map.mpr fun entry _ => by simp

/-- A program with a name that looks like a placeholder, a key with a space that is required twice, and
a key with a question mark; the values have blanks or `=` in them, or are empty. -/
theorem filled_usage_line_of_odd_keys :
    let registry : Registry := ⟨[.required "b c".toList [], .optional "o".toList [],
      .required "x?".toList [], .alternative "y".toList "b c".toList [], .required "b c".toList []]⟩
    let program : Text := "p =?".toList
    let line : Text := "Usage: p =? -Db c=? -Dx?=? -Db c=?\n".toList
    let values : List Text := [" 1 ".toList, "k=v".toList, []]
    let options : List Text := ["-Db c= 1 ".toList, "-Dx?=k=v".toList, "-Db c=".toList]
    (∀ key ∈ registry.requiredKeys, key ≠ [] ∧ Text.IsTrimmed key ∧ '=' ∉ key) ∧
      registry.usageLine program = line ∧
      List.zipWith fillIn (placeholdersIn program line) values = options ∧
      ∃ properties, Definition.parse (options.map (·.drop 2)) = .ok properties ∧
        registry.complaints (.ofValues properties) = [] := by
  intro registry program line values options
  have hkeys : ∀ key ∈ registry.requiredKeys, key ≠ [] ∧ Text.IsTrimmed key ∧ '=' ∉ key := by
    decide +kernel
  have hline : registry.usageLine program = line := by decide +kernel
  obtain ⟨hread, -, hfilled⟩ := filled_usage_line_completes registry program ":".toList hkeys
  rw [hline] at hread hfilled
  have hoptions : List.zipWith fillIn (placeholdersIn program line) values = options := by
    rw [hread]
    decide +kernel
  obtain ⟨-, properties, hproperties, -, hcomplaints⟩ := hfilled values (by rw [hread]; rfl)
  rw [hoptions] at hproperties
  exact ⟨hkeys, hline, hoptions, properties, hproperties, hcomplaints⟩

end Registry

end PropertySettings
