import Mathlib
import PropertySettings.Proofs.Collecting
import PropertySettings.Proofs.Missing
import PropertySettings.Proofs.Runs
import PropertySettings.Proofs.Sources

/-!
# The order of definitions

Properties stand in the order in which they are defined, but nobody asks for that order: what is
missing, what the settings are, and so all that a run does depends on what is found under each key
(`CommandLine.withProperties_congr`). Definitions of different keys are found in whatever order they
are made (`CommandLine.collected_of_perm`), and so a run takes the same course and writes the same
texts to the same streams (`CommandLine.run_of_permuted_definitions`).
-/

namespace PropertySettings

/-! ### What is found under each key -/

section Found

variable {properties others : Assignments Text Text}

theorem PropertySet.value?_ofValues_congr (h : ∀ key, others.get? key = properties.get? key)
    (key : Text) : (ofValues others).value? key = (ofValues properties).value? key := by
  rw [value?_ofValues, value?_ofValues, h key]

/-- What is missing depends on what is found. -/
theorem Registry.missing_ofValues_congr (registry : Registry)
    (h : ∀ key, others.get? key = properties.get? key) :
    registry.missing (.ofValues others) = registry.missing (.ofValues properties) := by
  refine missing_congr fun key => ?_
  rw [PropertySet.Gives, PropertySet.Gives, PropertySet.value?_ofValues_congr h]

/-- The settings depend on what is found. -/
theorem Settings.resolve_ofValues_congr (h : ∀ key, others.get? key = properties.get? key)
    (files : FileTree) :
    (ofProperties (.ofValues others)).resolve files
      = (ofProperties (.ofValues properties)).resolve files := by
  have hsame : SameSources (.ofValues properties) files (.ofValues others) files :=
    ⟨fun key _ _ => PropertySet.value?_ofValues_congr h key, fun _ _ _ _ _ => rfl⟩
  obtain ⟨hversion, hinput, houtput, hdefault, hjavac, hquiet⟩ :=
    declared_eq hsame .standard .standard PathList.defaultSeparator
  have hclasspath := classpath_eq hsame .standard .standard PathList.defaultSeparator
  have hincluded := includedFiles_eq hsame .standard .standard PathList.defaultSeparator
  simp only [resolve, ofProperties, hversion, hinput, houtput, hdefault, hjavac, hquiet, hclasspath,
    hincluded]

end Found

namespace CommandLine

variable {files : FileTree} {a : Arguments} {others : List Text}

/-- What a run does once properties are collected depends on what is found under each key. -/
theorem withProperties_congr {properties permuted : Assignments Text Text}
    (h : ∀ key, permuted.get? key = properties.get? key) (w : Workspace) (a : Arguments) :
    withProperties w a permuted = withProperties w a properties := by
  have hmissing := Registry.standard.missing_ofValues_congr h
  have hcomplaints : complaintRecords (.ofProperties (.ofValues permuted))
      = complaintRecords (.ofProperties (.ofValues properties)) := by
    rw [complaintRecords_ofProperties, complaintRecords_ofProperties, hmissing]
  have hcomplete : (Settings.ofProperties (.ofValues permuted)).Complete ↔
      (Settings.ofProperties (.ofValues properties)).Complete := by
    rw [Settings.Complete, Settings.Complete, ← Registry.missing_eq_nil_iff,
      ← Registry.missing_eq_nil_iff]
    exact iff_of_eq (congrArg (· = []) hmissing)
  -- the usage text is that of the registry, whatever the properties are
  have husage (w : Workspace) : printUsage w (.ofProperties (.ofValues permuted))
      = printUsage w (.ofProperties (.ofValues properties)) := rfl
  unfold withProperties
  simp only [hcomplaints, husage, Settings.resolve_ofValues_congr h, hcomplete]

/-! ### Definitions in another order -/

/-- From definitions of different keys the same is collected in any order, but for the order; or the
same keeps it from being collected. -/
theorem collected_of_perm (files : FileTree) (hperm : a.definitions.Perm others)
    (hkeys : ∀ d ∈ a.definitions, Definition.key d ≠ [])
    (hdistinct : (a.definitions.map Definition.key).Nodup) :
    (∃ fault, collected files a = .error fault ∧
      collected files { a with definitions := others } = .error fault) ∨
    ∃ properties permuted, collected files a = .ok properties ∧
      collected files { a with definitions := others } = .ok permuted ∧
      ∀ key, permuted.get? key = properties.get? key := by
  have hfile : fileProperties files { a with definitions := others } = fileProperties files a := rfl
  have hparse : Definition.parse a.definitions
      = .ok (.ofList (a.definitions.map Definition.entry)) :=
    Definition.parse_of_not_blank fun d hd => mt Definition.key_eq_nil_iff.mpr (hkeys d hd)
  have hparse' : Definition.parse others = .ok (.ofList (others.map Definition.entry)) :=
    Definition.parse_of_not_blank fun d hd =>
      mt Definition.key_eq_nil_iff.mpr (hkeys d (hperm.mem_iff.mpr hd))
  have hnames : ((a.definitions.map Definition.entry).map Prod.fst).Nodup := by
    rw [List.map_map]
    exact hdistinct
  rw [collected_eq, collected_eq, hfile, hparse, hparse']
  cases fileProperties files a with
  | error failure => exact .inl ⟨_, rfl, rfl⟩
  | ok fromFile =>
    refine .inr ⟨_, _, rfl, rfl, fun key => ?_⟩
    rw [Assignments.get?_update, Assignments.get?_update,
      Assignments.get?_ofList_perm (hperm.map _) hnames]

/-- **The order of definitions does not matter.** Put definitions of different keys, none of them
blank, into another order: whatever the files, the properties file and the other arguments are, the
run ends in the same way and writes the same texts to the same streams. -/
theorem run_of_permuted_definitions (files : FileTree) (a : Arguments) (others : List Text)
    (hperm : a.definitions.Perm others) (hkeys : ∀ d ∈ a.definitions, Definition.key d ≠ [])
    (hdistinct : (a.definitions.map Definition.key).Nodup) :
    runWith files { a with definitions := others } = runWith files a ∧
      ∀ arguments permuted, Arguments.read arguments = .ok a →
        Arguments.read permuted = .ok { a with definitions := others } →
          run files permuted = run files arguments := by
  have hrun : runWith files { a with definitions := others } = runWith files a := by
    rcases collected_of_perm files hperm hkeys hdistinct with
      ⟨fault, hfault, hpermuted⟩ | ⟨properties, permuted, hproperties, hpermuted, hget⟩
    · rw [collected] at hfault hpermuted
      simp only [runWith, hfault, hpermuted]
      rfl
    · rw [collected] at hproperties hpermuted
      simp only [runWith, hproperties, hpermuted, withProperties_congr hget]
      rfl
  refine ⟨hrun, fun arguments permuted hread hread' => ?_⟩
  simp only [run, hread, hread', hrun]

/-- The properties file defines a key that one of the definitions defines again; the other ones stand
behind it, in an order that is not the same. -/
theorem run_of_reversed_definitions :
    let files : FileTree :=
      (∅ : FileTree).write ["f".toList] (Utf8.encode "x: y\nretrolambda.outputDir=o".toList)
    let definitions : List Text := ["retrolambda.inputDir=i".toList,
      " retrolambda.classpath =a:a".toList, "x=z".toList]
    let a : Arguments := ⟨definitions, some "f".toList, false, true, "debug".toList, false, []⟩
    let others := definitions.reverse
    (definitions.Perm others ∧ (∀ d ∈ definitions, Definition.key d ≠ []) ∧
      (definitions.map Definition.key).Nodup) ∧
      (collected files { a with definitions := others }).map Assignments.names
        ≠ (collected files a).map Assignments.names ∧
      runWith files { a with definitions := others } = runWith files a := by
  intro files definitions a others
  have hperm : definitions.Perm others := definitions.reverse_perm.symm
  have hkeys : ∀ d ∈ definitions, Definition.key d ≠ [] := by decide +kernel
  have hdistinct : (definitions.map Definition.key).Nodup := by decide +kernel
  have hnames : (collected files { a with definitions := others }).map Assignments.names
      ≠ (collected files a).map Assignments.names := by
    decide +kernel
  exact ⟨⟨hperm, hkeys, hdistinct⟩, hnames,
    (run_of_permuted_definitions files a others hperm hkeys hdistinct).1⟩

end CommandLine

end PropertySettings
