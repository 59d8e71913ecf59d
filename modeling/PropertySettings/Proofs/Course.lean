import Mathlib
import PropertySettings.Proofs.Shown

/-!
# The course of a run

A run that ends with an exit takes one of five courses, by an ordered chain of questions: whether
the properties can be collected, whether the usage text is asked for, whether the properties are
complete, and whether they can be resolved. `CommandLine.run_takes_one_course` tells for each course
its code and all that is written, on which stream and in which order.
-/

namespace PropertySettings.CommandLine

variable {files : FileTree} {arguments : List Text} {a : Arguments} {e : Exit}

/-- **The five courses of a run.** Let a run that is not asked for help end with an exit. Then a
level has been chosen, the properties have been collected or there is a configuration error that
prevents it, and in turn:

* If they have not been collected, the code is `2`, and the record of the error is all there is.
* If the usage text is asked for, the code is `0`, and that text is all there is, whatever the
  properties and the level are.
* If properties are missing, the code is `2`; there is a warning for each of them, in order, and
  then the usage text, once. Of the files none but the properties file matters.
* If the settings cannot be resolved, it is because of a configuration error; the code is `2`, and
  behind the details there is the record of the error, and neither usage text nor settings.
* Otherwise the code is `0`, and behind the details the settings are shown: by their document if
  that is asked for, and else by their summary, unless the configuration is quiet or the level too
  high. -/
theorem run_takes_one_course (hread : Arguments.read arguments = .ok a) (hhelp : a.help = false)
    (hexit : (run files arguments).ending = .exit e) :
    ∃ level, Level.ofName? a.logLevel = some level ∧
      let o := run files arguments
      let line := Journal.line (journalStream a)
      ((∃ err, collected files a = .error (.file (.config err))) ∨
        ∃ properties, collected files a = .ok properties) ∧
      (∀ err, collected files a = .error (.file (.config err)) →
        e.code = 2 ∧
        o.written = (if level ≤ .error then [line (collectRecord err)] else []) ∧
        ¬ o.ShowsUsage ∧ ¬ o.ShowsDocument ∧ ¬ o.ShowsSummary) ∧
      ∀ properties, collected files a = .ok properties →
        let missed := Registry.standard.missing (.ofValues properties)
        let resolved := (Settings.ofProperties (.ofValues properties)).resolve files
        (a.showProperties = true →
          e.code = 0 ∧ o.written = [(.stdout, usageText)]) ∧
        (a.showProperties = false → missed ≠ [] →
          e.code = 2 ∧
          o.written
            = (if level ≤ .warning then missed.map fun key => line (missingRecord key)
                else []) ++ [(.stdout, usageText)] ∧
          o.written.count (.stdout, usageText) = 1 ∧
          ¬ o.ShowsDocument ∧ ¬ o.ShowsSummary ∧
          ∀ other : FileTree,
            (∀ name, a.propertiesFile = some name →
              other.readText (.ofText name) = files.readText (.ofText name)) →
            run other arguments = o) ∧
        (a.showProperties = false → missed = [] →
          let details := if level ≤ .debug then resolved.records.map line else []
          ((∃ err, resolved.outcome = .error (.config err)) ∨
            ∃ snapshot, resolved.outcome = .ok snapshot) ∧
          (∀ err, resolved.outcome = .error (.config err) →
            e.code = 2 ∧
            o.written
              = details ++ (if level ≤ .error then [line (resolveRecord err)] else []) ∧
            ¬ o.ShowsUsage ∧ ¬ o.ShowsDocument ∧ ¬ o.ShowsSummary) ∧
          ∀ snapshot, resolved.outcome = .ok snapshot →
            e.code = 0 ∧
            o.written = details ++ reportTexts a level snapshot ∧
            snapshot.summary.names = summaryLabels ∧
            ¬ o.ShowsUsage ∧ (o.ShowsDocument ↔ a.json = true) ∧
            (o.ShowsSummary ↔ a.json = false ∧ snapshot.quiet = false ∧ level ≤ .info)) := by
  obtain ⟨level, h⟩ := accepted_of_exit hread hhelp hexit
  have hcode : ∀ {other written}, run files arguments = ⟨.exit other, written⟩ → e = other :=
    fun hrun => Ending.exit.inj (hexit.symm.trans (congrArg Outcome.ending hrun))
  have hsingle : ∀ record : Record, Journal.lines (journalStream a) level [record]
      = if level ≤ record.level then [Journal.line (journalStream a) record] else [] :=
    fun record => Journal.lines_of_level fun _ hmem => congrArg _ (List.mem_singleton.mp hmem)
  refine ⟨level, h.level, h.collected_of_exit hexit, ?_, fun properties hcollected => ⟨?_, ?_, ?_⟩⟩
  -- the properties are not collected
  · intro err hcollected
    have hrun := h.run_of_uncollected hcollected
    have hwritten := congrArg Outcome.written hrun
    refine ⟨hcode hrun ▸ rfl, hwritten.trans (hsingle _), not_shows_of_notices ?_ hwritten⟩
    simp [collectRecord, Record.isNotice_error]
  -- the usage text is asked for
  · intro hshow
    have hrun := h.run_of_showProperties hcollected hshow
    exact ⟨hcode hrun ▸ rfl, congrArg Outcome.written hrun⟩
  -- properties are missing; the equation for this course names no files, so it holds of others too
  · intro hshow hmissing
    have hrun := h.run_of_missing hcollected hshow hmissing
    have hwritten := congrArg Outcome.written hrun
    obtain ⟨hcount, hdocument, hsummary⟩ :=
      shows_of_notices_and_usage (List.forall_mem_map.mpr fun _ _ => Record.isNotice_warning ..)
        hwritten
    refine ⟨hcode hrun ▸ rfl, ?_, hcount, hdocument, hsummary, ?_⟩
    · rw [hwritten, lines_missingRecord]
    · intro other hother
      have hagain := h.run_of_missing ((collected_congr hother).trans hcollected) hshow hmissing
      exact hagain.trans hrun.symm
  -- the properties are complete
  · intro hshow hmissing
    refine ⟨h.resolved_of_exit hcollected hshow hmissing hexit, ?_, ?_⟩
    · intro err hresolved
      have hrun := h.run_of_unresolved hcollected hshow hmissing hresolved
      have hwritten := congrArg Outcome.written hrun
      refine ⟨hcode hrun ▸ rfl, ?_, not_shows_of_notices ?_ hwritten⟩
      · rw [hwritten, Journal.lines_append, lines_resolve, hsingle]
        rfl
      · intro record hmem
        rcases List.mem_append.mp hmem with hmem | hmem
        · exact (Settings.isDetail_of_mem_records record hmem).2
        · exact List.mem_singleton.mp hmem ▸ Record.isNotice_error ..
    · intro snapshot hresolved
      have hrun := h.run_of_resolved hcollected hshow hmissing hresolved
      have hwritten := congrArg Outcome.written hrun
      refine ⟨hcode hrun ▸ rfl, ?_, snapshot.names_summary, shows_of_notices_and_report
        (fun record hmem => (Settings.isDetail_of_mem_records record hmem).2) hwritten⟩
      rw [hwritten, lines_resolve]

/-- With a class path from a file that is not there, and a document asked for, the record of the
error goes to the standard error stream and nothing else is shown. -/
theorem run_with_absent_class_path_file :
    let arguments : List Text :=
      ["-Dretrolambda.inputDir=in".toList, "-D".toList, "retrolambda.classpathFile=a b".toList,
        "--json".toList]
    let a : Arguments :=
      ⟨["retrolambda.inputDir=in".toList, "retrolambda.classpathFile=a b".toList], none, false,
        true, "INFO".toList, false, []⟩
    (Arguments.read arguments = .ok a ∧ a.help = false ∧
      (run ∅ arguments).ending = .exit (.configError none)) ∧
    (run ∅ arguments).written =
      [Journal.line .stderr
        (resolveRecord (.unreadable "a b".toList (.system .notFound (.ofText "a b".toList))))] ∧
    ¬ (run ∅ arguments).ShowsUsage ∧ ¬ (run ∅ arguments).ShowsDocument ∧
      ¬ (run ∅ arguments).ShowsSummary := by
  intro arguments a
  have hread : Arguments.read arguments = .ok a := by
    dsimp only [arguments, a]
    cbv
  have hexit : (run ∅ arguments).ending = .exit (.configError none) := by decide +kernel
  refine ⟨⟨hread, rfl, hexit⟩, ?_⟩
  obtain ⟨level, hlevel, -, -, hcourse⟩ := run_takes_one_course hread rfl hexit
  obtain rfl : level = .info := (Option.some.inj hlevel).symm
  obtain ⟨-, -, hcomplete⟩ := hcourse (.ofList
    [(Property.inputDir, "in".toList), (Property.classpathFile, "a b".toList)]) (by cbv)
  obtain ⟨-, hunresolved, -⟩ := hcomplete rfl rfl
  obtain ⟨-, hwritten, hnot⟩ := hunresolved _ rfl
  exact ⟨hwritten, hnot⟩

end PropertySettings.CommandLine
