import Mathlib
import PropertySettings.Proofs.Completeness
import PropertySettings.Proofs.PathText
import PropertySettings.Proofs.Runs

/-!
# Failures that are foreseen

A setting that is asked for is meant to be answered, or to fail with an error that says which
property is missing or malformed or which file could not be read: a failure that is **foreseen**.
There are two ways out of that, and no other: a version in so many digits that it is not read
(`Numeral.Overlong`), and a list file whose name holds `U+0000` (`PropertySet.Unopenable`). So it is
told exactly when every setting is answered as foreseen, and when a run ends with an exit
(`CommandLine.foreseen_unless_overlong_or_unopenable`).
-/

namespace PropertySettings

/-- An error about a property or a file. -/
def Failure.Foreseen : Failure → Prop
  | .config (.missingRequired _) => True
  | .config (.invalidFormat _ _) => True
  | .config (.unreadable _ _) => True
  | _ => False

namespace Traced

variable {α β : Type} {x : Traced α}

/-- There is an answer, or a failure that is foreseen. -/
def Sound (x : Traced α) : Prop :=
  (∃ a, x.outcome = .ok a) ∨ ∃ failure, x.outcome = .error failure ∧ failure.Foreseen

theorem Sound.foreseen {failure : Failure} (h : x.Sound) (hx : x.outcome = .error failure) :
    failure.Foreseen := by
  rcases h with ⟨a, ha⟩ | ⟨other, hother, hforeseen⟩
  · exact absurd (ha.symm.trans hx) (by simp)
  · exact Except.error.inj (hother.symm.trans hx) ▸ hforeseen

theorem sound_pure (a : α) : (pure a : Traced α).Sound :=
  .inl ⟨a, rfl⟩

theorem sound_of_forall (h : ∀ failure, x.outcome = .error failure → failure.Foreseen) :
    x.Sound := by
  cases hx : x.outcome with
  | ok a => exact .inl ⟨a, hx⟩
  | error failure => exact .inr ⟨failure, hx, h failure hx⟩

/-- Steps that follow one another are sound just if the first one is, and what follows its
answer. -/
theorem sound_bind_iff {f : α → Traced β} :
    (x >>= f).Sound ↔ x.Sound ∧ ∀ a, x.outcome = .ok a → (f a).Sound := by
  rw [Sound, Sound, outcome_bind]
  cases x.outcome <;> simp [Except.bind, Sound]

end Traced

/-! ### Lists -/

/-- A list is given by a list file whose name holds `U+0000`. -/
def PropertySet.Unopenable (properties : PropertySet) (key fileKey : Text) : Prop :=
  properties.value? key = none ∧ ∃ file, properties.value? fileKey = some file ∧ '\x00' ∈ file

theorem FileTree.readText_of_nul_mem (files : FileTree) {name : Text} (h : '\x00' ∈ name) :
    files.readText (.ofText name) = .error .nulInFileName :=
  if_pos ((Path.mem_toText_ofText_iff (by decide) (by decide)).mpr h)

/-- A file whose name can be opened is read, or there is an error about it. -/
theorem FileTree.foreseen_of_readText {files : FileTree} {name : Text} {failure : Failure}
    (hname : '\x00' ∉ name) (h : files.readText (.ofText name) = .error failure) :
    failure.Foreseen := by
  rcases readText_eq_error h with ⟨hnul, -⟩ | ⟨-, cause, rfl⟩
  · exact absurd ((Path.mem_toText_ofText_iff (by decide) (by decide)).mp hnul) hname
  · trivial

namespace PathList

variable {properties : PropertySet} {key fileKey separator : Text}

theorem sound_resolve_iff (files : FileTree) (hsep : separator ≠ []) :
    (resolve files properties key fileKey separator).Sound ↔
      ¬ properties.Unopenable key fileKey := by
  constructor
  · rintro hsound ⟨hkey, file, hfile, hnul⟩
    have herror : (resolve files properties key fileKey separator).outcome
        = .error .nulInFileName := by
      rw [outcome_resolve, hkey, hfile]
      simp only [files.readText_of_nul_mem hnul]
      rfl
    exact hsound.foreseen herror
  · refine fun hopen => Traced.sound_of_forall fun failure hfailure => ?_
    rcases outcome_resolve_eq_error hfailure with ⟨hnil, -⟩ | ⟨hkey, file, hfile, hread⟩
    · exact absurd hnil hsep
    · exact FileTree.foreseen_of_readText (fun hnul => hopen ⟨hkey, file, hfile, hnul⟩) hread

end PathList

/-! ### Settings -/

namespace Settings

variable {settings : Settings} {files : FileTree}

theorem outcome_bytecodeVersion_of_overlong {t : Text} {numeral : Numeral}
    (ht : settings.properties.value? Property.bytecodeVersion = some t)
    (hnumeral : Numeral.ofText? t = some numeral)
    (hlong : Numeral.digitLimit < numeral.digits.length) :
    settings.bytecodeVersion.outcome = .error (.tooManyDigits numeral.digits.length) :=
  readInteger_eq_error_iff.mpr ⟨t, ht, .inr ⟨numeral, hnumeral, hlong, rfl⟩⟩

theorem sound_bytecodeVersion_iff :
    settings.bytecodeVersion.Sound ↔
      ∀ t, settings.properties.value? Property.bytecodeVersion = some t → ¬ Numeral.Overlong t := by
  constructor
  · rintro hsound t ht ⟨numeral, hnumeral, hlong⟩
    exact hsound.foreseen (outcome_bytecodeVersion_of_overlong ht hnumeral hlong)
  · refine fun hshort => Traced.sound_of_forall fun failure hfailure => ?_
    obtain ⟨t, ht, ⟨-, rfl⟩ | ⟨numeral, hnumeral, hlong, -⟩⟩ := readInteger_eq_error_iff.mp hfailure
    · trivial
    · exact absurd ⟨numeral, hnumeral, hlong⟩ (hshort t ht)

theorem sound_inputDir : settings.inputDir.Sound := by
  refine Traced.sound_of_forall fun failure hfailure => ?_
  obtain ⟨-, rfl⟩ := outcome_inputDir_eq_error_iff.mp hfailure
  trivial

theorem sound_outputDir : settings.outputDir.Sound := by
  refine Traced.sound_of_forall fun failure hfailure => ?_
  rw [outcome_outputDir] at hfailure
  split at hfailure
  · exact absurd hfailure (by simp)
  · obtain ⟨-, rfl⟩ := outcome_inputDir_eq_error_iff.mp hfailure
    trivial

theorem sound_classpath_iff (hsep : settings.separator ≠ []) :
    (settings.classpath files).Sound ↔
      ¬ settings.properties.Unopenable Property.classpath Property.classpathFile := by
  rw [← PathList.sound_resolve_iff files hsep, classpath, Traced.sound_bind_iff]
  refine and_iff_left fun paths _ => ?_
  cases paths with
  | some paths => exact Traced.sound_pure paths
  | none => exact .inr ⟨_, rfl, trivial⟩

/-- What it takes for the settings to be told as foreseen. They are asked for in turn, so that only
those matter that come before the first failure. -/
theorem sound_resolve_iff (hsep : settings.separator ≠ []) :
    (settings.resolve files).Sound ↔
      settings.bytecodeVersion.Sound ∧
      ∀ version, settings.bytecodeVersion.outcome = .ok version →
        ∀ dir, settings.properties.value? Property.inputDir = some dir →
          ¬ settings.properties.Unopenable Property.classpath Property.classpathFile ∧
          ∀ paths, (settings.classpath files).outcome = .ok paths →
            ¬ settings.properties.Unopenable Property.includedFiles Property.includedFilesFile := by
  simp only [resolve, Traced.sound_bind_iff, Traced.sound_pure, sound_inputDir, sound_outputDir,
    sound_classpath_iff hsep, includedFiles, PathList.sound_resolve_iff files hsep, true_and,
    and_true, implies_true]
  -- the directories that are found come to the one property that gives the input directory
  refine and_congr_right fun _ => forall₂_congr fun version _ => ⟨fun h dir hdir => ?_, ?_⟩
  · have hinput := outcome_inputDir_eq_ok_iff.mpr ⟨dir, hdir, rfl⟩
    obtain ⟨output, houtput⟩ := exists_outcome_outputDir hinput
    exact h _ hinput output houtput
  · intro h input hinput output _
    obtain ⟨dir, hdir, -⟩ := outcome_inputDir_eq_ok_iff.mp hinput
    exact h dir hdir

/-- A configuration error that keeps the settings from being told is one that is foreseen. -/
theorem foreseen_of_resolve_config {err : ConfigError}
    (h : (settings.resolve files).outcome = .error (.config err)) :
    (Failure.config err).Foreseen := by
  have hlist : ∀ {key fileKey}, (PathList.resolve files settings.properties key fileKey
      settings.separator).outcome = .error (.config err) → (Failure.config err).Foreseen := by
    intro key fileKey hlist
    rcases PathList.outcome_resolve_eq_error hlist with ⟨-, hempty⟩ | ⟨-, file, -, hread⟩
    · exact absurd hempty (by simp)
    · rcases FileTree.readText_eq_error hread with ⟨-, hnul⟩ | ⟨-, cause, hcause⟩
      · exact absurd hnul (by simp)
      · exact hcause ▸ trivial
  rcases resolve_eq_error_iff.mp h with hversion | ⟨_, -, hinput | ⟨_, -, houtput | ⟨_, -, hpaths⟩⟩⟩
  · obtain ⟨t, -, ⟨-, hformat⟩ | ⟨numeral, -, -, hlong⟩⟩ := readInteger_eq_error_iff.mp hversion
    · exact hformat ▸ trivial
    · exact absurd hlong (by simp)
  · exact sound_inputDir.foreseen hinput
  · exact sound_outputDir.foreseen houtput
  · rcases hpaths with hclasspath | ⟨_, -, hincluded⟩
    · rcases outcome_classpath_eq_error_iff.mp hclasspath with hclasspath | ⟨-, -, hmissing⟩
      · exact hlist hclasspath
      · exact hmissing ▸ trivial
    · exact hlist hincluded

end Settings

/-! ### Runs -/

namespace CommandLine

variable {files : FileTree} {arguments : List Text} {a : Arguments} {level : Level}

/-- The settings of collected properties are told as foreseen, as far as they are asked for. -/
def SettingsSound (files : FileTree) (a : Arguments) : Prop :=
  ∀ properties, collected files a = .ok properties → a.showProperties = false →
    Registry.standard.missing (.ofValues properties) = [] →
      ((Settings.ofProperties (.ofValues properties)).resolve files).Sound

/-- The run ends with the page of help, or with an exit for success or for a configuration
error. -/
def Exits (o : Outcome) : Prop :=
  o.ending = .help ∨ ∃ e, o.ending = .exit e ∧ (e.code = 0 ∨ e.code = 2)

theorem exits_success (written : List (Stream × Text)) : Exits ⟨.exit (.success none), written⟩ :=
  .inr ⟨_, rfl, .inl rfl⟩

theorem exits_configError (written : List (Stream × Text)) :
    Exits ⟨.exit (.configError none), written⟩ :=
  .inr ⟨_, rfl, .inr rfl⟩

theorem not_exits_failed {o : Outcome} {failure : Failure} (h : o.ending = .failed failure) :
    ¬ Exits o := by
  rintro (hhelp | ⟨e, hexit, -⟩)
  · exact absurd (h.symm.trans hhelp) (by simp)
  · exact absurd (h.symm.trans hexit) (by simp)

/-- With complete properties a run ends with an exit just if the settings are told as foreseen. -/
theorem Accepted.exits_iff_of_complete (h : Accepted arguments a level)
    {properties : Assignments Text Text} (hcollected : collected files a = .ok properties)
    (hshow : a.showProperties = false)
    (hmissing : Registry.standard.missing (.ofValues properties) = []) :
    Exits (run files arguments) ↔
      ((Settings.ofProperties (.ofValues properties)).resolve files).Sound := by
  cases hresolved : ((Settings.ofProperties (.ofValues properties)).resolve files).outcome with
  | ok snapshot =>
    refine iff_of_true ?_ (.inl ⟨snapshot, hresolved⟩)
    exact h.run_of_resolved hcollected hshow hmissing hresolved ▸ exits_success _
  | error failure =>
    cases failure with
    | config err =>
      refine iff_of_true ?_ (.inr ⟨_, hresolved, Settings.foreseen_of_resolve_config hresolved⟩)
      exact h.run_of_unresolved hcollected hshow hmissing hresolved ▸ exits_configError _
    | _ =>
      have hrun := h.run_of_complete hcollected hshow hmissing
      simp only [hresolved] at hrun
      exact iff_of_false (not_exits_failed (congrArg Outcome.ending hrun))
        fun hsound => hsound.foreseen hresolved

/-- With accepted arguments a run ends with an exit just if the settings that it asks for are told
as foreseen. -/
theorem Accepted.exits_iff (h : Accepted arguments a level)
    (hrefused : ∀ fault, (run files arguments).ending ≠ .refused fault) :
    Exits (run files arguments) ↔ SettingsSound files a := by
  cases hcollected : collected files a with
  | error fault =>
    -- no setting is asked for, and the name of the file can be opened
    refine iff_of_true ?_ fun properties hproperties => ?_
    · cases fault with
      | definition fault =>
        refine absurd ?_ (hrefused (.badParameter fault.message none))
        rw [h.run_eq, hcollected]
      | file failure =>
        obtain ⟨name, hname, hread⟩ := readText_of_collected hcollected
        have hnul : '\x00' ∉ name := by simpa [hname] using h.name
        have hforeseen := FileTree.foreseen_of_readText hnul hread
        cases failure with
        | config err => exact h.run_of_uncollected hcollected ▸ exits_configError _
        | _ => exact hforeseen.elim
    · exact absurd (hcollected.symm.trans hproperties) (by simp)
  | ok properties =>
    have hsound : SettingsSound files a ↔ (a.showProperties = false →
        Registry.standard.missing (.ofValues properties) = [] →
          ((Settings.ofProperties (.ofValues properties)).resolve files).Sound) :=
      ⟨fun hall => hall properties hcollected, fun hone other hother =>
        Except.ok.inj (hcollected.symm.trans hother) ▸ hone⟩
    rw [hsound]
    cases hshow : a.showProperties with
    | true =>
      refine iff_of_true ?_ fun hfalse => absurd hfalse (by simp)
      exact h.run_of_showProperties hcollected hshow ▸ exits_success _
    | false =>
      by_cases hmissing : Registry.standard.missing (.ofValues properties) = []
      · rw [h.exits_iff_of_complete hcollected hshow hmissing]
        exact ⟨fun hone _ _ => hone, fun hone => hone rfl hmissing⟩
      · refine iff_of_true ?_ fun _ hnil => absurd hnil hmissing
        exact h.run_of_missing hcollected hshow hmissing ▸ exits_configError _

/-- **Every failure is foreseen, but for two kinds.** Flags, the check for completeness and the
usage text cannot fail at all. Of the other settings, if the separator is not empty, the version is
told as foreseen unless its numeral has too many digits, the directories always are, and a list is
unless it is given by a file whose name holds `U+0000`; all settings are if those are that come
before the first failure. A run that does not refuse its arguments ends with code `0` or `2`, unless
the name of the properties file holds `U+0000` or the settings that it asks for are not told as
foreseen. -/
theorem foreseen_unless_overlong_or_unopenable (files : FileTree) :
    (∀ settings : Settings, settings.separator ≠ [] →
      let properties := settings.properties
      (settings.bytecodeVersion.Sound ↔
        ∀ t, properties.value? Property.bytecodeVersion = some t → ¬ Numeral.Overlong t) ∧
      settings.inputDir.Sound ∧ settings.outputDir.Sound ∧
      ((settings.classpath files).Sound ↔
        ¬ properties.Unopenable Property.classpath Property.classpathFile) ∧
      ((settings.includedFiles files).Sound ↔
        ¬ properties.Unopenable Property.includedFiles Property.includedFilesFile) ∧
      ((settings.resolve files).Sound ↔
        settings.bytecodeVersion.Sound ∧
        ∀ version, settings.bytecodeVersion.outcome = .ok version →
          ∀ dir, properties.value? Property.inputDir = some dir →
            ¬ properties.Unopenable Property.classpath Property.classpathFile ∧
            ∀ paths, (settings.classpath files).outcome = .ok paths →
              ¬ properties.Unopenable Property.includedFiles Property.includedFilesFile)) ∧
    ∀ arguments, (∀ fault, (run files arguments).ending ≠ .refused fault) →
      ∃ a, Arguments.read arguments = .ok a ∧
        (Exits (run files arguments) ↔
          a.help = true ∨
          (∀ name, a.propertiesFile = some name → '\x00' ∉ name) ∧ SettingsSound files a) := by
  refine ⟨fun settings hsep => ?_, fun arguments hrefused => ?_⟩
  · exact ⟨settings.sound_bytecodeVersion_iff, settings.sound_inputDir, settings.sound_outputDir,
      settings.sound_classpath_iff hsep, PathList.sound_resolve_iff files hsep,
      settings.sound_resolve_iff hsep⟩
  · cases hread : Arguments.read arguments with
    | error fault => exact absurd (by rw [run, hread]) (hrefused fault)
    | ok a =>
      refine ⟨a, rfl, ?_⟩
      cases hhelp : a.help with
      | true =>
        refine iff_of_true (.inl ?_) (.inl rfl)
        simp only [run, hread, hhelp, if_true]
      | false =>
        have hname : (∀ name, a.propertiesFile = some name → '\x00' ∉ name) ↔
            a.propertiesFile.any ('\x00' ∈ ·) = false := by
          cases a.propertiesFile <;> simp
        simp only [Bool.false_eq_true, false_or, hname]
        rcases accepted_or_failed_or_refused hread hhelp with
          ⟨level, h⟩ | ⟨hnul, hrun⟩ | ⟨fault, hrun⟩
        · rw [h.exits_iff hrefused]
          exact (and_iff_right h.name).symm
        · refine iff_of_false (not_exits_failed (congrArg Outcome.ending (hrun files))) ?_
          exact fun hnot => absurd (hnul.symm.trans hnot.1) (by decide)
        · exact absurd (by rw [hrun]) (hrefused fault)

/-- A version in ones is not read if there are too many. -/
theorem outcome_bytecodeVersion_of_ones {count : Nat} (h : Numeral.digitLimit < count) :
    (Settings.ofProperties (.ofValues
      (.ofList [(Property.bytecodeVersion, List.replicate count '1')]))).bytecodeVersion.outcome
        = .error (.tooManyDigits count) := by
  have hne : List.replicate count '1' ≠ [] := by
    rw [ne_eq, List.replicate_eq_nil_iff]
    omega
  have hdigits : (List.replicate count '1').all Char.isDigit := by
    rw [List.all_replicate]
    split
    · rfl
    · decide
  have hnumeral := Numeral.ofText?_of_isDigit hne hdigits
  have hlength : (List.replicate count '1').length = count := List.length_replicate
  rw [Settings.outcome_bytecodeVersion_of_overlong rfl hnumeral (hlength.symm ▸ h), hlength]

/-- Both kinds of failure that are not foreseen occur: a version in 4301 digits, and a complete set
of properties with a class path from a file that cannot be opened, which a run fails on. -/
theorem overlong_version_and_unopenable_class_path_fail :
    let overlong := Settings.ofProperties
      (.ofValues (.ofList [(Property.bytecodeVersion, List.replicate 4301 '1')]))
    let unopenable := Settings.ofProperties (.ofValues (.ofList
      [(Property.inputDir, "i".toList), (Property.classpathFile, "a\x00b".toList)]))
    (overlong.bytecodeVersion.outcome = .error (.tooManyDigits 4301) ∧
      ¬ overlong.bytecodeVersion.Sound) ∧
    (unopenable.Complete ∧ (unopenable.classpath ∅).outcome = .error .nulInFileName ∧
      (unopenable.resolve ∅).outcome = .error .nulInFileName ∧ ¬ (unopenable.resolve ∅).Sound) ∧
    ¬ Exits (run ∅
      ["-Dretrolambda.inputDir=i".toList, "-Dretrolambda.classpathFile=a\x00b".toList]) := by
  intro overlong unopenable
  have hversion : overlong.bytecodeVersion.outcome = .error (.tooManyDigits 4301) :=
    outcome_bytecodeVersion_of_ones (by decide)
  have hresolve : (unopenable.resolve ∅).outcome = .error .nulInFileName := rfl
  have hrun : (run ∅ ["-Dretrolambda.inputDir=i".toList,
      "-Dretrolambda.classpathFile=a\x00b".toList]).ending = .failed .nulInFileName := by
    decide +kernel
  refine ⟨⟨hversion, fun hsound => hsound.foreseen hversion⟩,
    ⟨(Registry.missing_eq_nil_iff ..).mp rfl, rfl, hresolve,
      fun hsound => hsound.foreseen hresolve⟩, not_exits_failed hrun⟩

end CommandLine

end PropertySettings
