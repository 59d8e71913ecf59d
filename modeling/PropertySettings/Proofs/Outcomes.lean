import Mathlib
import PropertySettings.Proofs.Reading
import PropertySettings.Settings.Basic

/-!
# Outcomes of settings

What asking for a setting comes to, apart from the records that are made on the way. The outcome of
steps that follow one another is that of the steps, the first failure being the last word
(`Traced.outcome_bind`); so all settings are found just if each one is
(`Settings.resolve_eq_ok_iff`) and otherwise the first one that is not tells why
(`Settings.resolve_eq_error_iff`).

Every failure of a setting is one of few: of the version, that it is no numeral or has too many
digits; of a directory, that it is missing; of a list, that it is missing, that the separator is
empty, or that its file cannot be read.
-/

namespace PropertySettings

/-! ### Steps that follow one another -/

namespace Traced

variable {α β : Type}

@[simp]
theorem outcome_pure (a : α) : (pure a : Traced α).outcome = .ok a := rfl

@[simp]
theorem outcome_ofExcept (outcome : Except Failure α) : (ofExcept outcome).outcome = outcome := rfl

@[simp]
theorem outcome_note (record : Record) : (note record).outcome = .ok () := rfl

@[simp]
theorem outcome_bind (x : Traced α) (f : α → Traced β) :
    (x >>= f).outcome = x.outcome.bind fun a => (f a).outcome := by
  obtain ⟨records, _ | a⟩ := x <;> rfl

@[simp]
theorem outcome_map (f : α → β) (x : Traced α) : (f <$> x).outcome = x.outcome.map f := by
  obtain ⟨records, _ | a⟩ := x <;> rfl

@[simp]
theorem records_map (f : α → β) (x : Traced α) : (f <$> x).records = x.records := by
  obtain ⟨records, _ | a⟩ := x
  · rfl
  · exact List.append_nil _

/-- A property of the records of both steps is one of all records. -/
theorem forall_mem_records_bind {p : Record → Prop} {x : Traced α} {f : α → Traced β}
    (hx : ∀ record ∈ x.records, p record) (hf : ∀ a, ∀ record ∈ (f a).records, p record) :
    ∀ record ∈ (x >>= f).records, p record := by
  obtain ⟨records, failure | a⟩ := x
  · exact hx
  · intro record h
    exact (List.mem_append.mp h).elim (hx record) (hf a record)

theorem forall_mem_records_map {p : Record → Prop} {f : α → β} {x : Traced α}
    (hx : ∀ record ∈ x.records, p record) : ∀ record ∈ (f <$> x).records, p record :=
  forall_mem_records_bind hx fun _ _ h => absurd h List.not_mem_nil

end Traced

/-- A step and what follows it succeed if both do. -/
theorem Except.bind_eq_ok_iff {ε α β : Type} {x : Except ε α} {f : α → Except ε β} {b : β} :
    x.bind f = .ok b ↔ ∃ a, x = .ok a ∧ f a = .ok b := by
  cases x <;> simp [Except.bind]

/-- A step and what follows it fail if the step does, or if it succeeds and what follows fails. -/
theorem Except.bind_eq_error_iff {ε α β : Type} {x : Except ε α} {f : α → Except ε β} {e : ε} :
    x.bind f = .error e ↔ x = .error e ∨ ∃ a, x = .ok a ∧ f a = .error e := by
  cases x <;> simp [Except.bind]

theorem Except.map_eq_ok_iff {ε α β : Type} {x : Except ε α} {f : α → β} {b : β} :
    x.map f = .ok b ↔ ∃ a, x = .ok a ∧ f a = b := by
  cases x <;> simp [Except.map]

theorem Except.map_eq_error_iff {ε α β : Type} {x : Except ε α} {f : α → β} {e : ε} :
    x.map f = .error e ↔ x = .error e := by
  cases x <;> simp [Except.map]

/-! ### Files -/

/-- A file cannot be read because its name holds `U+0000`, or for a cause that is told. -/
theorem FileTree.readText_eq_error {files : FileTree} {path : Path} {failure : Failure}
    (h : files.readText path = .error failure) :
    ('\x00' ∈ path.toText ∧ failure = .nulInFileName) ∨
      ('\x00' ∉ path.toText ∧ ∃ cause, failure = .config (.unreadable path.toText cause)) := by
  unfold readText at h
  split at h
  case isTrue hnul => exact .inl ⟨hnul, (Except.error.inj h).symm⟩
  case isFalse hnul =>
    refine .inr ⟨hnul, ?_⟩
    split at h
    · exact ⟨_, (Except.error.inj h).symm⟩
    · split at h
      · exact ⟨_, (Except.error.inj h).symm⟩
      · exact absurd h (by simp)

/-! ### Path lists -/

namespace PathList

variable {files : FileTree} {properties : PropertySet} {key fileKey separator : Text}

/-- What a list file comes to: the paths in its lines, unless it cannot be read. -/
theorem outcome_read {file : Path} :
    (read files file).outcome = (files.readText file).map ofLines := by
  simp only [read, Traced.outcome_bind, Traced.outcome_note, Traced.outcome_ofExcept,
    Traced.outcome_pure]
  cases files.readText file <;> rfl

/-- What a list of paths comes to: the inline one is taken first, then the list file. -/
theorem outcome_resolve :
    (resolve files properties key fileKey separator).outcome =
      match properties.value? key, properties.value? fileKey with
      | some inline, _ => (parse separator inline).map some
      | none, some file => (files.readText (.ofText file)).map (some ∘ ofLines)
      | none, none => .ok none := by
  unfold resolve
  cases properties.value? key with
  | some inline => simp
  | none =>
    cases properties.value? fileKey with
    | none => rfl
    | some file =>
      simp only [Traced.outcome_bind, Traced.outcome_map, Traced.outcome_note, outcome_read]
      cases files.readText (.ofText file) <;> rfl

theorem parse_of_ne_nil (h : separator ≠ []) (value : Text) :
    parse separator value = .ok (ofPieces (Text.pieces separator value)) :=
  if_neg h

/-- A list is not found just if neither form is given. -/
theorem outcome_resolve_eq_ok_none_iff :
    (resolve files properties key fileKey separator).outcome = .ok none ↔
      properties.value? key = none ∧ properties.value? fileKey = none := by
  rw [outcome_resolve]
  cases properties.value? key <;> cases properties.value? fileKey <;>
    simp [Except.map_eq_ok_iff]

/-- Why a list that is given cannot be told. -/
theorem outcome_resolve_eq_error {failure : Failure}
    (h : (resolve files properties key fileKey separator).outcome = .error failure) :
    (separator = [] ∧ failure = .emptySeparator) ∨
      (properties.value? key = none ∧ ∃ file, properties.value? fileKey = some file ∧
        files.readText (.ofText file) = .error failure) := by
  rw [outcome_resolve] at h
  cases hkey : properties.value? key with
  | some inline =>
    simp only [hkey, parse, Except.map_eq_error_iff] at h
    split at h
    case isTrue hsep => exact .inl ⟨hsep, (Except.error.inj h).symm⟩
    case isFalse => exact absurd h (by simp)
  | none =>
    cases hfile : properties.value? fileKey with
    | none => simp [hkey, hfile] at h
    | some file =>
      simp only [hkey, hfile, Except.map_eq_error_iff] at h
      exact .inr ⟨rfl, file, rfl, h⟩

end PathList

/-! ### Settings -/

namespace Settings

variable {settings : Settings} {files : FileTree}

/-- The input directory is found just if it is given. -/
theorem outcome_inputDir :
    settings.inputDir.outcome =
      match settings.properties.value? Property.inputDir with
      | some dir => .ok (Path.ofText dir)
      | none => .error (.config (.missingRequired Property.inputDir)) := by
  unfold inputDir
  cases settings.properties.value? Property.inputDir <;> rfl

/-- The output directory is the input directory unless it is given. -/
theorem outcome_outputDir :
    settings.outputDir.outcome =
      match settings.properties.value? Property.outputDir with
      | some dir => .ok (Path.ofText dir)
      | none => settings.inputDir.outcome := by
  unfold outputDir
  cases settings.properties.value? Property.outputDir with
  | some dir => rfl
  | none =>
    simp only [Traced.outcome_bind, Traced.outcome_note]
    rfl

theorem outcome_classpath :
    (settings.classpath files).outcome =
      (PathList.resolve files settings.properties Property.classpath Property.classpathFile
        settings.separator).outcome.bind fun paths =>
          match paths with
          | some paths => .ok paths
          | none => .error (.config (.missingRequired Property.classpath)) := by
  rw [classpath, Traced.outcome_bind]
  congr
  funext paths
  cases paths <;> rfl

theorem outcome_classpath_eq_ok_iff {paths : List Path} :
    (settings.classpath files).outcome = .ok paths ↔
      (PathList.resolve files settings.properties Property.classpath Property.classpathFile
        settings.separator).outcome = .ok (some paths) := by
  rw [outcome_classpath, Except.bind_eq_ok_iff]
  constructor
  · rintro ⟨_ | found, hfound, h⟩
    · exact absurd h (by simp)
    · rw [hfound, Except.ok.inj h]
  · exact fun h => ⟨some paths, h, rfl⟩

/-- The class path is missing if neither of its properties is given; otherwise what keeps it from
being found is what keeps the list. -/
theorem outcome_classpath_eq_error_iff {failure : Failure} :
    (settings.classpath files).outcome = .error failure ↔
      (PathList.resolve files settings.properties Property.classpath Property.classpathFile
        settings.separator).outcome = .error failure ∨
      (settings.properties.value? Property.classpath = none ∧
        settings.properties.value? Property.classpathFile = none ∧
        failure = .config (.missingRequired Property.classpath)) := by
  rw [outcome_classpath, Except.bind_eq_error_iff]
  refine or_congr_right ⟨?_, ?_⟩
  · rintro ⟨_ | found, hfound, h⟩
    · obtain ⟨hkey, hfile⟩ := PathList.outcome_resolve_eq_ok_none_iff.mp hfound
      exact ⟨hkey, hfile, (Except.error.inj h).symm⟩
    · exact absurd h (by simp)
  · rintro ⟨hkey, hfile, rfl⟩
    exact ⟨none, PathList.outcome_resolve_eq_ok_none_iff.mpr ⟨hkey, hfile⟩, rfl⟩

/-- All settings are found just if each one is. -/
theorem resolve_eq_ok_iff {snapshot : Snapshot} :
    (settings.resolve files).outcome = .ok snapshot ↔
      settings.bytecodeVersion.outcome = .ok snapshot.bytecodeVersion ∧
      settings.inputDir.outcome = .ok snapshot.inputDir ∧
      settings.outputDir.outcome = .ok snapshot.outputDir ∧
      (settings.classpath files).outcome = .ok snapshot.classpath ∧
      (settings.includedFiles files).outcome = .ok snapshot.includedFiles ∧
      settings.defaultMethods = snapshot.defaultMethods ∧
      settings.javacHacks = snapshot.javacHacks ∧ settings.quiet = snapshot.quiet := by
  simp only [resolve, Traced.outcome_bind, Traced.outcome_pure, Except.bind_eq_ok_iff]
  constructor
  · rintro ⟨version, hversion, input, hinput, output, houtput, paths, hpaths, files, hfiles, h⟩
    obtain rfl := Except.ok.inj h
    exact ⟨hversion, hinput, houtput, hpaths, hfiles, rfl, rfl, rfl⟩
  · rintro ⟨hversion, hinput, houtput, hpaths, hfiles, hdefault, hjavac, hquiet⟩
    exact ⟨_, hversion, _, hinput, _, houtput, _, hpaths, _, hfiles, by
      rw [hdefault, hjavac, hquiet]⟩

/-- The first setting that is not found tells why not all are. -/
theorem resolve_eq_error_iff {failure : Failure} :
    (settings.resolve files).outcome = .error failure ↔
      settings.bytecodeVersion.outcome = .error failure ∨
      ∃ version, settings.bytecodeVersion.outcome = .ok version ∧
        (settings.inputDir.outcome = .error failure ∨
        ∃ input, settings.inputDir.outcome = .ok input ∧
          (settings.outputDir.outcome = .error failure ∨
          ∃ output, settings.outputDir.outcome = .ok output ∧
            ((settings.classpath files).outcome = .error failure ∨
            ∃ paths, (settings.classpath files).outcome = .ok paths ∧
              (settings.includedFiles files).outcome = .error failure))) := by
  simp only [resolve, Traced.outcome_bind, Traced.outcome_pure, Except.bind_eq_error_iff,
    reduceCtorEq, and_false, exists_false, or_false]

/-- A version that is found can be written. -/
theorem hasText_bytecodeVersion {version : Int}
    (h : settings.bytecodeVersion.outcome = .ok version) : (Value.int version).hasText = true :=
  decide_eq_true (length_ofNat_of_readInteger (by decide) h)

end Settings

/-! ### Values of a summary -/

theorem Value.itemsHaveText_of_forall {items : List Value}
    (h : ∀ item ∈ items, item.hasText = true) : itemsHaveText items = true := by
  induction items with
  | nil => rfl
  | cons item rest ih =>
    obtain ⟨hitem, hrest⟩ := List.forall_mem_cons.mp h
    rw [itemsHaveText, hitem, ih hrest]
    rfl

theorem Snapshot.hasText_pathValues (paths : List Path) : (pathValues paths).hasText = true :=
  Value.itemsHaveText_of_forall (List.forall_mem_map.mpr fun _ _ => rfl)

/-- In a summary only the version could be too long to be written. -/
theorem Snapshot.hasText_summary {snapshot : Snapshot}
    (h : (Value.int snapshot.bytecodeVersion).hasText = true) :
    ∀ entry ∈ snapshot.summary.toList, entry.2.hasText = true := by
  -- the values in the order of the labels
  have hvalues : snapshot.summary.toList.map (·.2.hasText)
      = [(Value.int snapshot.bytecodeVersion).hasText, true, true, true,
          (pathValues snapshot.classpath).hasText, true, true] := by
    obtain ⟨_, _, _, _, _, _ | _, _, _⟩ := snapshot <;> rfl
  rw [h, hasText_pathValues] at hvalues
  intro entry hentry
  have hmem := List.mem_map_of_mem (f := (·.2.hasText)) hentry
  rw [hvalues] at hmem
  simpa using hmem

end PropertySettings
