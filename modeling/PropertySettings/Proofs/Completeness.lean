import Mathlib
import PropertySettings.Proofs.Outcomes

/-!
# Completeness of properties and settings

Two parts of the library know which properties are indispensable. The standard registry declares
them, and `Registry.missing` goes by the declarations; `Settings.resolve` asks for one setting after
the other and stops where neither a property nor another one in its place is given. They agree: all
settings are sought in vain for a missing property just if the version is in order and that property
is the first one that the registry misses (`Settings.resolve_eq_missing_iff`). A list file that
cannot be read, an empty separator or a malformed version never looks like a missing property, and a
null value never counts as given.
-/

namespace PropertySettings

/-! ### What the registry misses -/

namespace Registry

variable {properties : PropertySet}

theorem requiredKeys_standard :
    standard.requiredKeys = [Property.inputDir, Property.classpath] := rfl

theorem alternativesFor_inputDir : standard.alternativesFor Property.inputDir = [] := rfl

theorem alternativesFor_classpath :
    standard.alternativesFor Property.classpath = [Property.classpathFile] := rfl

theorem not_satisfied_inputDir_iff :
    ¬ standard.Satisfied properties Property.inputDir ↔
      properties.value? Property.inputDir = none := by
  simp [Satisfied, alternativesFor_inputDir, PropertySet.Gives]

theorem not_satisfied_classpath_iff :
    ¬ standard.Satisfied properties Property.classpath ↔
      properties.value? Property.classpath = none ∧
        properties.value? Property.classpathFile = none := by
  simp [Satisfied, alternativesFor_classpath, PropertySet.Gives]

/-- The first property that is missed: the input directory, or else the class path. -/
theorem head?_missing_eq_some_iff {key : Text} :
    (standard.missing properties).head? = some key ↔
      (properties.value? Property.inputDir = none ∧ key = Property.inputDir) ∨
      ((∃ dir, properties.value? Property.inputDir = some dir) ∧
        properties.value? Property.classpath = none ∧
        properties.value? Property.classpathFile = none ∧ key = Property.classpath) := by
  rw [missing, requiredKeys_standard, List.head?_filter, List.find?_cons]
  by_cases hinput : properties.value? Property.inputDir = none
  · rw [decide_eq_true (not_satisfied_inputDir_iff.mpr hinput)]
    constructor
    · exact fun h => .inl ⟨hinput, (Option.some.inj h).symm⟩
    · rintro (⟨-, rfl⟩ | ⟨⟨dir, hdir⟩, -⟩)
      · rfl
      · exact absurd (hinput.symm.trans hdir) (by simp)
  · rw [decide_eq_false (mt not_satisfied_inputDir_iff.mp hinput), List.find?_singleton]
    have hpaths : _ ↔ properties.value? Property.classpath = none ∧ _ := not_satisfied_classpath_iff
    constructor
    · intro h
      obtain ⟨hnot, hkey⟩ := Option.ite_none_right_eq_some.mp h
      obtain ⟨hkey', hfile⟩ := hpaths.mp (of_decide_eq_true hnot)
      exact .inr ⟨Option.ne_none_iff_exists'.mp hinput, hkey', hfile, (Option.some.inj hkey).symm⟩
    · rintro (⟨hnone, -⟩ | ⟨-, hkey, hfile, rfl⟩)
      · exact absurd hnone hinput
      · exact if_pos (decide_eq_true (hpaths.mpr ⟨hkey, hfile⟩))

end Registry

/-! ### What the settings miss -/

/-- A list that is given is never missing. -/
theorem PathList.outcome_resolve_ne_missing {files : FileTree} {properties : PropertySet}
    {key fileKey separator missed : Text} :
    (resolve files properties key fileKey separator).outcome ≠
      .error (.config (.missingRequired missed)) := by
  intro h
  rcases outcome_resolve_eq_error h with ⟨-, hf⟩ | ⟨-, file, -, hread⟩
  · simp at hf
  · rcases FileTree.readText_eq_error hread with ⟨-, hf⟩ | ⟨-, cause, hf⟩ <;> simp at hf

namespace Settings

variable {settings : Settings} {files : FileTree} {key : Text}

theorem outcome_bytecodeVersion_ne_missing :
    settings.bytecodeVersion.outcome ≠ .error (.config (.missingRequired key)) := by
  intro h
  obtain ⟨t, -, ⟨-, hf⟩ | ⟨numeral, -, -, hf⟩⟩ := readInteger_eq_error_iff.mp h <;> simp at hf

theorem outcome_inputDir_eq_error_iff {failure : Failure} :
    settings.inputDir.outcome = .error failure ↔
      settings.properties.value? Property.inputDir = none ∧
        failure = .config (.missingRequired Property.inputDir) := by
  rw [outcome_inputDir]
  cases settings.properties.value? Property.inputDir <;> simp [eq_comm]

theorem outcome_inputDir_eq_ok_iff {path : Path} :
    settings.inputDir.outcome = .ok path ↔
      ∃ dir, settings.properties.value? Property.inputDir = some dir ∧ Path.ofText dir = path := by
  rw [outcome_inputDir]
  cases settings.properties.value? Property.inputDir <;> simp

/-- With an input directory there is an output directory. -/
theorem exists_outcome_outputDir {path : Path} (h : settings.inputDir.outcome = .ok path) :
    ∃ output, settings.outputDir.outcome = .ok output := by
  rw [outcome_outputDir]
  cases settings.properties.value? Property.outputDir with
  | some dir => exact ⟨_, rfl⟩
  | none => exact ⟨path, h⟩

theorem outcome_classpath_eq_missing_iff :
    (settings.classpath files).outcome = .error (.config (.missingRequired key)) ↔
      settings.properties.value? Property.classpath = none ∧
        settings.properties.value? Property.classpathFile = none ∧ key = Property.classpath := by
  rw [outcome_classpath_eq_error_iff]
  simp [PathList.outcome_resolve_ne_missing]

/-- **What all settings are sought in vain for.** It takes a version in order, and is the first
property that the standard registry misses. -/
theorem resolve_eq_missing_iff :
    (settings.resolve files).outcome = .error (.config (.missingRequired key)) ↔
      (∃ version, settings.bytecodeVersion.outcome = .ok version) ∧
        (Registry.standard.missing settings.properties).head? = some key := by
  rw [resolve_eq_error_iff, Registry.head?_missing_eq_some_iff]
  constructor
  · rintro (h | ⟨version, hversion, h⟩)
    · exact absurd h outcome_bytecodeVersion_ne_missing
    refine ⟨⟨version, hversion⟩, ?_⟩
    -- of what follows the version, only the input directory and the class path can be missing
    rcases h with h | ⟨input, hinput, h⟩
    · obtain ⟨hnone, hkey⟩ := outcome_inputDir_eq_error_iff.mp h
      exact .inl ⟨hnone, by simpa using hkey⟩
    refine .inr ⟨(outcome_inputDir_eq_ok_iff.mp hinput).imp fun _ h => h.1, ?_⟩
    obtain ⟨output, houtput⟩ := exists_outcome_outputDir hinput
    rcases h with h | ⟨-, -, h | ⟨-, -, h⟩⟩
    · exact absurd (houtput.symm.trans h) (by simp)
    · exact outcome_classpath_eq_missing_iff.mp h
    · exact absurd h PathList.outcome_resolve_ne_missing
  · rintro ⟨⟨version, hversion⟩, ⟨hnone, rfl⟩ | ⟨⟨dir, hdir⟩, hpaths⟩⟩
    · exact .inr ⟨version, hversion, .inl (outcome_inputDir_eq_error_iff.mpr ⟨hnone, rfl⟩)⟩
    · have hinput := outcome_inputDir_eq_ok_iff.mpr ⟨dir, hdir, rfl⟩
      obtain ⟨output, houtput⟩ := exists_outcome_outputDir hinput
      exact .inr ⟨version, hversion, .inr ⟨_, hinput, .inr ⟨output, houtput,
        .inl (outcome_classpath_eq_missing_iff.mpr hpaths)⟩⟩⟩

/-- **The check and the search agree.** Complete properties are never found to miss one; others are
never resolved, and what stops them is the first property that the registry misses, unless it is
the version before it. So whatever is found missing is the first property that the registry
misses. -/
theorem resolve_agrees_with_missing (properties : PropertySet) (separator : Text)
    (files : FileTree) :
    let settings : Settings := ⟨properties, .standard, separator⟩
    let found := (settings.resolve files).outcome
    let missed := Registry.standard.missing properties
    (settings.Complete → ∀ key, found ≠ .error (.config (.missingRequired key))) ∧
    (¬ settings.Complete →
      (∃ failure, settings.bytecodeVersion.outcome = .error failure ∧ found = .error failure) ∨
      (∃ version, settings.bytecodeVersion.outcome = .ok version) ∧
        ∃ key, missed.head? = some key ∧ found = .error (.config (.missingRequired key))) ∧
    ∀ key, found = .error (.config (.missingRequired key)) → missed.head? = some key := by
  intro settings found missed
  have hcomplete : settings.Complete ↔ missed = [] :=
    (Registry.missing_eq_nil_iff Registry.standard properties).symm
  have hmissing : ∀ key, found = .error (.config (.missingRequired key)) →
      missed.head? = some key :=
    fun key h => (resolve_eq_missing_iff.mp h).2
  refine ⟨fun h key hfound => ?_, fun h => ?_, hmissing⟩
  · have hhead := hmissing key hfound
    rw [hcomplete.mp h] at hhead
    exact absurd hhead (by simp)
  · cases hversion : settings.bytecodeVersion.outcome with
    | error failure => exact .inl ⟨failure, rfl, resolve_eq_error_iff.mpr (.inl hversion)⟩
    | ok version =>
      obtain ⟨key, rest, hcons⟩ := List.exists_cons_of_ne_nil (mt hcomplete.mpr h)
      have hhead : missed.head? = some key := by rw [hcons, List.head?_cons]
      exact .inr ⟨⟨version, rfl⟩, key, hhead,
        resolve_eq_missing_iff.mpr ⟨⟨version, hversion⟩, hhead⟩⟩

end Settings

end PropertySettings
