import Mathlib
import PropertySettings.Proofs.JsonReading
import PropertySettings.Proofs.PathText
import PropertySettings.Proofs.Runs

/-!
# The document of a run

A run that is asked for a JSON document, and succeeds, writes that document to the standard output
and nothing else there; what is recorded on the way goes to the standard error stream. The document
is read as the settings that have been resolved, and as no others
(`CommandLine.run_writes_one_document`), since reading undoes writing (`Value.ofJson?_json`) and the
shown values tell settings apart (`Snapshot.toValue_injective`).
-/

namespace PropertySettings

/-! ### Shown settings -/

namespace Snapshot

theorem pathValues_injective : Function.Injective pathValues := fun _ _ h =>
  List.map_injective_iff.mpr (fun _ _ heq => Path.toText_injective (Value.text.inj heq))
    (Value.list.inj h)

/-- The value that is shown tells settings apart: no file to process is not the same as all. -/
theorem toValue_injective : Function.Injective toValue := by
  intro s t h
  simp only [toValue, Value.fields.injEq, List.cons.injEq, Prod.mk.injEq, Value.int.injEq,
    Value.bool.injEq, Value.text.injEq, true_and, and_true] at h
  obtain ⟨hversion, hmethods, hinput, houtput, hclasspath, hincluded, hhacks, hquiet⟩ := h
  have hfiles : s.includedFiles = t.includedFiles := by
    cases hs : s.includedFiles with
    | none =>
      cases ht : t.includedFiles with
      | none => rfl
      | some paths => simp [hs, ht, pathValues] at hincluded
    | some paths =>
      cases ht : t.includedFiles with
      | none => simp [hs, ht, pathValues] at hincluded
      | some others => rw [hs, ht] at hincluded; rw [pathValues_injective hincluded]
  cases s
  cases t
  exact Snapshot.mk.injEq .. ▸ ⟨hversion, hmethods, Path.toText_injective hinput,
    Path.toText_injective houtput, pathValues_injective hclasspath, hfiles, hhacks, hquiet⟩

end Snapshot

/-! ### Streams -/

/-- What is written to a stream, in one piece. -/
def Outcome.textOn (o : Outcome) (stream : Stream) : Text :=
  (o.written.filter (·.1 = stream)).flatMap Prod.snd

/-- The lines on another stream count for nothing. -/
theorem Outcome.textOn_of_lines {o : Outcome} {stream other : Stream} {threshold : Level}
    {records : List Record} {t : Text} (hne : other ≠ stream)
    (h : o.written = Journal.lines other threshold records ++ [(stream, t)]) :
    o.textOn stream = t := by
  have hnone : (Journal.lines other threshold records).filter (·.1 = stream) = [] := by
    refine List.filter_eq_nil_iff.mpr fun chunk hmem => ?_
    obtain ⟨record, -, rfl⟩ := Journal.exists_of_mem_lines hmem
    exact fun heq => hne (of_decide_eq_true heq)
  rw [textOn, h, List.filter_append, hnone]
  simp

/-! ### Runs -/

namespace CommandLine

variable {files : FileTree} {arguments : List Text} {a : Arguments} {level : Level} {e : Exit}

/-- A run that ends with code `0`, and is not asked for the usage text, has resolved its
settings. -/
theorem Accepted.resolved_of_success (h : Accepted arguments a level)
    (hshow : a.showProperties = false) (hexit : (run files arguments).ending = .exit e)
    (hcode : e.code = 0) :
    ∃ properties snapshot, collected files a = .ok properties ∧
      Registry.standard.missing (.ofValues properties) = [] ∧
      ((Settings.ofProperties (.ofValues properties)).resolve files).outcome = .ok snapshot := by
  have hfailed : ∀ written, run files arguments ≠ ⟨.exit (.configError none), written⟩ := by
    intro written hrun
    obtain rfl : e = .configError none :=
      Ending.exit.inj (hexit.symm.trans (congrArg Outcome.ending hrun))
    exact absurd hcode (by decide)
  rcases h.collected_of_exit hexit with ⟨err, hcollected⟩ | ⟨properties, hcollected⟩
  · exact absurd (h.run_of_uncollected hcollected) (hfailed _)
  · by_cases hmissing : Registry.standard.missing (.ofValues properties) = []
    · rcases h.resolved_of_exit hcollected hshow hmissing hexit with
        ⟨err, hresolved⟩ | ⟨snapshot, hresolved⟩
      · exact absurd (h.run_of_unresolved hcollected hshow hmissing hresolved) (hfailed _)
      · exact ⟨properties, snapshot, hcollected, hmissing, hresolved⟩
    · exact absurd (h.run_of_missing hcollected hshow hmissing) (hfailed _)

/-- **A successful run that is asked for a document writes one.** Let a run be asked for the
document, and neither for help nor for the usage text, and let it end with code `0`. Then the
properties have been collected and the settings resolved, whatever the level is and whether they are
quiet or not. On the standard output there is one document and the end of its line. It is read as
the value that shows the settings, and as that of no other settings. All records are written to the
standard error stream. -/
theorem run_writes_one_document (hread : Arguments.read arguments = .ok a) (hhelp : a.help = false)
    (hjson : a.json = true) (hshow : a.showProperties = false)
    (hexit : (run files arguments).ending = .exit e) (hcode : e.code = 0) :
    let o := run files arguments
    ∃ level properties snapshot document,
      Level.ofName? a.logLevel = some level ∧
      collectProperties files a.definitions (a.propertiesFile.map Path.ofText) = .ok properties ∧
      let resolved := (Settings.ofProperties (.ofValues properties)).resolve files
      resolved.outcome = .ok snapshot ∧
      o.textOn .stdout = document ++ ['\n'] ∧
      Value.ofJson? document = some snapshot.toValue ∧
      (∀ other : Snapshot, Value.ofJson? document = some other.toValue → other = snapshot) ∧
      o.written
        = Journal.lines .stderr level resolved.records ++ [(.stdout, document ++ ['\n'])] := by
  intro o
  obtain ⟨level, h⟩ := accepted_of_exit hread hhelp hexit
  obtain ⟨properties, snapshot, hcollected, hmissing, hresolved⟩ :=
    h.resolved_of_success hshow hexit hcode
  have hread := Value.ofJson?_json snapshot.toValue
  have hstream : journalStream a = .stderr := by rw [journalStream, hjson]; rfl
  have hreport : reportTexts a level snapshot = [(.stdout, snapshot.toValue.json ++ ['\n'])] := by
    rw [reportTexts, hjson]; rfl
  have hwritten := congrArg Outcome.written (h.run_of_resolved hcollected hshow hmissing hresolved)
  rw [hstream, hreport] at hwritten
  refine ⟨level, properties, snapshot, snapshot.toValue.json, h.level, hcollected, hresolved,
    Outcome.textOn_of_lines (by decide) hwritten, hread, fun other hother => ?_, hwritten⟩
  exact Snapshot.toValue_injective (Option.some.inj (hother.symm.trans hread))

/-- A quiet configuration at the level for debugging, with an input directory that needs escapes, a
version beyond machine words, a class path without paths and all files to process. -/
theorem run_with_odd_input_directory :
    let arguments : List Text :=
      ["--json".toList, "--log-level=debug".toList, "-D".toList,
        "retrolambda.inputDir=\x22\\\n\x01\u2028😀".toList, "-Dretrolambda.classpath=".toList,
        "-Dretrolambda.bytecodeVersion=98765432109876543210".toList,
        "-Dretrolambda.quiet=true".toList]
    let a : Arguments :=
      ⟨["retrolambda.inputDir=\x22\\\n\x01\u2028😀".toList, "retrolambda.classpath=".toList,
        "retrolambda.bytecodeVersion=98765432109876543210".toList, "retrolambda.quiet=true".toList],
        none, false, true, "debug".toList, false, []⟩
    let shown : Value := .fields [
      ("bytecode_version".toList, .int 98765432109876543210),
      ("default_methods".toList, .bool false),
      ("input_dir".toList, .text "\x22\\\n\x01\u2028😀".toList),
      ("output_dir".toList, .text "\x22\\\n\x01\u2028😀".toList),
      ("classpath".toList, .list []),
      ("included_files".toList, .null),
      ("javac_hacks".toList, .bool false),
      ("quiet".toList, .bool true)]
    (Arguments.read arguments = .ok a ∧ a.help = false ∧ a.json = true ∧ a.showProperties = false ∧
      (run ∅ arguments).ending = .exit (.success none) ∧ (Exit.success none).code = 0) ∧
    ∃ document, (run ∅ arguments).textOn .stdout = document ++ ['\n'] ∧
      Value.ofJson? document = some shown := by
  intro arguments a shown
  have hread : Arguments.read arguments = .ok a := by
    dsimp only [arguments, a]
    cbv
  have hexit : (run ∅ arguments).ending = .exit (.success none) := by decide +kernel
  refine ⟨⟨hread, rfl, rfl, rfl, hexit, rfl⟩, ?_⟩
  obtain ⟨level, properties, snapshot, document, -, hcollected, hresolved, htext, hvalue, -⟩ :=
    run_writes_one_document hread rfl rfl rfl hexit rfl
  obtain ⟨given, hgiven, hshown⟩ : ∃ given,
      collectProperties ∅ a.definitions (a.propertiesFile.map Path.ofText) = .ok given ∧
      ((Settings.ofProperties (.ofValues given)).resolve ∅).outcome.map Snapshot.toValue
        = .ok shown :=
    ⟨.ofList [(Property.inputDir, "\x22\\\n\x01\u2028😀".toList), (Property.classpath, []),
        (Property.bytecodeVersion, "98765432109876543210".toList),
        (Property.quiet, "true".toList)], rfl, rfl⟩
  obtain rfl : given = properties := Except.ok.inj (hgiven.symm.trans hcollected)
  rw [hresolved] at hshown
  exact ⟨document, htext, hvalue.trans (congrArg some (Except.ok.inj hshown))⟩

end CommandLine

end PropertySettings
