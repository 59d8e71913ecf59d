import Mathlib
import PropertySettings.CommandLine.Run
import PropertySettings.Proofs.ConsoleJournal
import PropertySettings.Proofs.Outcomes

/-!
# Runs with accepted arguments

Arguments that are read without fault, and ask for no help, are accepted, or name a properties file
that cannot be opened, or are refused (`CommandLine.accepted_or_failed_or_refused`). With accepted
arguments a run is told by the properties that it collects (`CommandLine.Accepted.run_eq`): there is
one equation for each course that it can take, which gives its end and all that it writes.
-/

namespace PropertySettings.CommandLine

/-! ### Accepted arguments -/

/-- The arguments are read as `a` without fault, they name a level, and no help is asked for. -/
structure Accepted (arguments : List Text) (a : Arguments) (level : Level) : Prop where
  read : Arguments.read arguments = .ok a
  help : a.help = false
  name : a.propertiesFile.any ('\x00' ∈ ·) = false
  leftOver : a.leftOver = []
  named : Text.upper a.logLevel ∈ levelNames
  level : Level.ofName? a.logLevel = some level

/-- A level that can be chosen is a level to be set. -/
theorem exists_level_of_mem_levelNames {word : Text} (h : Text.upper word ∈ levelNames) :
    ∃ level, Level.ofName? word = some level ∧ level ≠ .notSet := by
  have hall : ∀ name ∈ levelNames, ∃ level ∈ [Level.debug, .info, .warning, .error, .critical],
      Level.byName.lookup name = some level := by decide
  obtain ⟨level, hmem, hlevel⟩ := hall _ h
  refine ⟨level, hlevel, ?_⟩
  rintro rfl
  exact absurd hmem (by decide)

variable {files : FileTree} {arguments : List Text} {a : Arguments} {level : Level} {e : Exit}

/-- Arguments that are read without fault, and ask for no help, are accepted, or name a properties
file that cannot be opened, or are refused for what they say. -/
theorem accepted_or_failed_or_refused (hread : Arguments.read arguments = .ok a)
    (hhelp : a.help = false) :
    (∃ level, Accepted arguments a level) ∨
    (a.propertiesFile.any ('\x00' ∈ ·) = true ∧
      ∀ files, run files arguments = ⟨.failed .nulInFileName, []⟩) ∨
    ∃ fault, ∀ files, run files arguments = ⟨.refused fault, []⟩ := by
  -- the questions in the order in which a run asks them
  cases hname : a.propertiesFile.any ('\x00' ∈ ·) with
  | true => exact .inr (.inl ⟨rfl, fun files => by simp only [run, hread, hhelp, hname]; rfl⟩)
  | false =>
    by_cases hleft : a.leftOver = []
    · by_cases hnamed : Text.upper a.logLevel ∈ levelNames
      · obtain ⟨level, hlevel, -⟩ := exists_level_of_mem_levelNames hnamed
        exact .inl ⟨level, hread, hhelp, hname, hleft, hnamed, hlevel⟩
      · refine .inr (.inr ⟨.badParameter (levelMessage a.logLevel) (some "--log-level".toList), ?_⟩)
        intro files
        simp only [run, hread, hhelp, hname, hleft, runWith, hnamed]
        rfl
    · refine .inr (.inr ⟨.leftOver, fun files => ?_⟩)
      simp only [run, hread, hhelp, hname, Bool.false_eq_true, if_false]
      exact if_pos hleft

/-- Only accepted arguments lead to an exit. -/
theorem accepted_of_exit (hread : Arguments.read arguments = .ok a) (hhelp : a.help = false)
    (hexit : (run files arguments).ending = .exit e) : ∃ level, Accepted arguments a level := by
  rcases accepted_or_failed_or_refused hread hhelp with h | ⟨-, hrun⟩ | ⟨fault, hrun⟩
  · exact h
  · simp [hrun] at hexit
  · simp [hrun] at hexit

/-! ### The properties of a run -/

/-- The properties that a run collects. -/
def collected (files : FileTree) (a : Arguments) : Except CollectFault (Assignments Text Text) :=
  collectProperties files a.definitions (a.propertiesFile.map Path.ofText)

/-- The properties of the properties file of a run, if there is one. -/
def fileProperties (files : FileTree) (a : Arguments) : Except Failure (Assignments Text Text) :=
  match a.propertiesFile with
  | none => .ok ∅
  | some name => PropertyText.load files (.ofText name)

/-- What keeps the properties file from being read is told first, and then what is wrong with the
definitions. -/
theorem collected_eq (files : FileTree) (a : Arguments) :
    collected files a =
      match fileProperties files a, Definition.parse a.definitions with
      | .error failure, _ => .error (.file failure)
      | .ok _, .error fault => .error (.definition fault)
      | .ok fromFile, .ok defined => .ok (fromFile.update defined) := by
  unfold collected collectProperties fileProperties
  cases a.propertiesFile with
  | none => cases Definition.parse a.definitions <;> rfl
  | some name =>
    simp only [Option.map_some]
    cases PropertyText.load files (.ofText name) <;> cases Definition.parse a.definitions <;> rfl

/-- What is collected depends on the files only by the text of the properties file. -/
theorem collected_congr {other : FileTree}
    (h : ∀ name, a.propertiesFile = some name →
      other.readText (.ofText name) = files.readText (.ofText name)) :
    collected other a = collected files a := by
  have hfile : fileProperties other a = fileProperties files a := by
    unfold fileProperties
    split
    · rfl
    · rw [PropertyText.load, PropertyText.load, h _ ‹_›]
  rw [collected_eq, collected_eq, hfile]

/-- A failure to collect that is none of the definitions is one to read the file. -/
theorem readText_of_collected {failure : Failure}
    (h : collected files a = .error (.file failure)) :
    ∃ name, a.propertiesFile = some name ∧ files.readText (.ofText name) = .error failure := by
  rw [collected_eq] at h
  split at h
  case h_1 other hfile =>
    obtain rfl : other = failure := by simpa using h
    unfold fileProperties at hfile
    split at hfile
    · exact absurd hfile (by simp)
    case h_2 name hname =>
      refine ⟨name, hname, ?_⟩
      unfold PropertyText.load at hfile
      split at hfile
      · exact (Except.error.inj hfile) ▸ ‹_›
      · exact absurd hfile (by simp)
  all_goals simp at h

/-! ### What a run writes -/

/-- The text that tells how the command is used. -/
def usageText : Text :=
  Registry.standard.usage Registry.defaultProgram

/-- A run with its journal set up. -/
def workspace (files : FileTree) (a : Arguments) (level : Level) : Workspace :=
  ⟨files, .console (journalStream a) level, []⟩

/-- The record for a key that is missing. -/
def missingRecord (key : Text) : Record :=
  Record.warning area (key ++ ": ".toList ++ Registry.standard.missingMessage key) []

theorem complaintRecords_ofProperties (properties : PropertySet) :
    complaintRecords (.ofProperties properties)
      = (Registry.standard.missing properties).map missingRecord :=
  List.map_map

/-- The texts that report settings: the document, or the lines of the summary unless the
configuration is quiet. -/
def reportTexts (a : Arguments) (level : Level) (snapshot : Snapshot) : List (Stream × Text) :=
  if a.json then [(.stdout, snapshot.toValue.json ++ ['\n'])]
  else if snapshot.quiet = false ∧ level ≤ .info then
    (Record.configuration snapshot.summary).map (Journal.line .stdout)
  else []

/-- An exit without a message writes nothing. -/
theorem finish_of_message_eq_none {w : Workspace} (h : e.message = none) :
    finish w e = ⟨.exit e, w.written⟩ := by
  rw [finish, Exit.printed, h, List.append_nil]

theorem finish_success (w : Workspace) :
    finish w (.success none) = ⟨.exit (.success none), w.written⟩ :=
  finish_of_message_eq_none rfl

theorem finish_configError (w : Workspace) :
    finish w (.configError none) = ⟨.exit (.configError none), w.written⟩ :=
  finish_of_message_eq_none rfl

/-! ### The courses of a run -/

namespace Accepted

theorem level_ne_notSet (h : Accepted arguments a level) : level ≠ .notSet := by
  obtain ⟨other, hother, hne⟩ := exists_level_of_mem_levelNames h.named
  exact Option.some.inj (h.level.symm.trans hother) ▸ hne

/-- A run with accepted arguments goes by its properties. -/
theorem run_eq (h : Accepted arguments a level) (files : FileTree) :
    run files arguments =
      match collected files a with
      | .ok properties => withProperties (workspace files a level) a properties
      | .error (.definition fault) => ⟨.refused (.badParameter fault.message none), []⟩
      | .error (.file (.config e)) =>
        finish ((workspace files a level).log (collectRecord e)) (.configError none)
      | .error (.file failure) => ⟨.failed failure, []⟩ := by
  have hsetUp : setUp (Workspace.start files) a a.logLevel = workspace files a level :=
    Workspace.setUp_console h.level
  simp only [run, h.read, h.help, h.name, h.leftOver, runWith, h.named, hsetUp, collected]
  rfl

variable {properties : Assignments Text Text}

theorem run_of_uncollected (h : Accepted arguments a level) {err : ConfigError}
    (hcollected : collected files a = .error (.file (.config err))) :
    run files arguments =
      ⟨.exit (.configError none), Journal.lines (journalStream a) level [collectRecord err]⟩ := by
  rw [h.run_eq, hcollected]
  simp only [finish_configError, workspace, Workspace.log_console h.level_ne_notSet,
    List.nil_append]

theorem run_of_showProperties (h : Accepted arguments a level)
    (hcollected : collected files a = .ok properties) (hshow : a.showProperties = true) :
    run files arguments = ⟨.exit (.success none), [(.stdout, usageText)]⟩ := by
  rw [h.run_eq, hcollected]
  simp only [withProperties, hshow, if_pos, finish_success]
  rfl

theorem run_of_missing (h : Accepted arguments a level)
    (hcollected : collected files a = .ok properties) (hshow : a.showProperties = false)
    (hmissing : Registry.standard.missing (.ofValues properties) ≠ []) :
    run files arguments =
      ⟨.exit (.configError none),
        Journal.lines (journalStream a) level
          ((Registry.standard.missing (.ofValues properties)).map missingRecord)
          ++ [(.stdout, usageText)]⟩ := by
  have hincomplete : ¬ (Settings.ofProperties (.ofValues properties)).Complete :=
    mt (Registry.missing_eq_nil_iff ..).mpr hmissing
  rw [h.run_eq, hcollected]
  simp only [withProperties, hshow, Bool.false_eq_true, if_false, if_pos hincomplete,
    finish_configError, complaintRecords_ofProperties, workspace,
    Workspace.logAll_console h.level_ne_notSet, List.nil_append]
  rfl

theorem run_of_complete (h : Accepted arguments a level)
    (hcollected : collected files a = .ok properties) (hshow : a.showProperties = false)
    (hmissing : Registry.standard.missing (.ofValues properties) = []) :
    run files arguments =
      let resolved := (Settings.ofProperties (.ofValues properties)).resolve files
      let w := (workspace files a level).logAll resolved.records
      match resolved.outcome with
      | .ok snapshot => report w a snapshot
      | .error (.config err) => finish (w.log (resolveRecord err)) (.configError none)
      | .error failure => ⟨.failed failure, w.written⟩ := by
  have hcomplete : (Settings.ofProperties (.ofValues properties)).Complete :=
    (Registry.missing_eq_nil_iff ..).mp hmissing
  rw [h.run_eq, hcollected]
  simp only [withProperties, hshow, Bool.false_eq_true, if_false, if_neg (not_not_intro hcomplete)]
  rfl

theorem run_of_unresolved (h : Accepted arguments a level) {err : ConfigError}
    (hcollected : collected files a = .ok properties) (hshow : a.showProperties = false)
    (hmissing : Registry.standard.missing (.ofValues properties) = [])
    (hresolved : ((Settings.ofProperties (.ofValues properties)).resolve files).outcome
      = .error (.config err)) :
    run files arguments =
      ⟨.exit (.configError none), Journal.lines (journalStream a) level
        (((Settings.ofProperties (.ofValues properties)).resolve files).records
          ++ [resolveRecord err])⟩ := by
  rw [h.run_of_complete hcollected hshow hmissing]
  simp only [hresolved, finish_configError, workspace,
    Workspace.logAll_console h.level_ne_notSet, Workspace.log_console h.level_ne_notSet,
    List.nil_append, Journal.lines_append]

theorem run_of_resolved (h : Accepted arguments a level) {snapshot : Snapshot}
    (hcollected : collected files a = .ok properties) (hshow : a.showProperties = false)
    (hmissing : Registry.standard.missing (.ofValues properties) = [])
    (hresolved : ((Settings.ofProperties (.ofValues properties)).resolve files).outcome
      = .ok snapshot) :
    run files arguments =
      ⟨.exit (.success none), Journal.lines (journalStream a) level
        ((Settings.ofProperties (.ofValues properties)).resolve files).records
          ++ reportTexts a level snapshot⟩ := by
  rw [h.run_of_complete hcollected hshow hmissing]
  simp only [hresolved, workspace, Workspace.logAll_console h.level_ne_notSet, List.nil_append]
  generalize Journal.lines (journalStream a) level _ = traced
  -- a quiet configuration sets the journal up again, for warnings
  have hquiet : ∀ w : Workspace, setUp w a "WARNING".toList
      = { w with journal := .console (journalStream a) .warning } :=
    fun w => Workspace.setUp_console rfl
  have hwarning : ¬ Level.warning ≤ Level.info := by decide
  -- the summary is told to its end
  have hversion := Settings.hasText_bytecodeVersion (Settings.resolve_eq_ok_iff.mp hresolved).1
  have htold := Record.tell_of_hasText (Snapshot.hasText_summary hversion)
  simp only [report, reportTexts, hquiet, finish_success, htold]
  cases hjson : a.json with
  | true => cases snapshot.quiet <;> simp [Workspace.print]
  | false =>
    have hstream : journalStream a = .stdout := by rw [journalStream, hjson]; rfl
    cases snapshot.quiet with
    | true =>
      simp [hstream, Workspace.logAll_console,
        Journal.lines_of_level Record.level_of_mem_configuration, hwarning]
    | false =>
      simp [hstream, Workspace.logAll_console h.level_ne_notSet,
        Journal.lines_of_level Record.level_of_mem_configuration]

/-! ### No other course leads to an exit -/

theorem collected_of_exit (h : Accepted arguments a level)
    (hexit : (run files arguments).ending = .exit e) :
    (∃ err, collected files a = .error (.file (.config err))) ∨
      ∃ properties, collected files a = .ok properties := by
  rw [h.run_eq] at hexit
  split at hexit
  case h_1 properties hcollected => exact .inr ⟨properties, hcollected⟩
  case h_3 err hcollected => exact .inl ⟨err, hcollected⟩
  all_goals simp at hexit

theorem resolved_of_exit (h : Accepted arguments a level)
    (hcollected : collected files a = .ok properties) (hshow : a.showProperties = false)
    (hmissing : Registry.standard.missing (.ofValues properties) = [])
    (hexit : (run files arguments).ending = .exit e) :
    let resolved := (Settings.ofProperties (.ofValues properties)).resolve files
    (∃ err, resolved.outcome = .error (.config err)) ∨
      ∃ snapshot, resolved.outcome = .ok snapshot := by
  rw [h.run_of_complete hcollected hshow hmissing] at hexit
  dsimp only at hexit
  split at hexit
  case h_1 snapshot hresolved => exact .inr ⟨snapshot, hresolved⟩
  case h_2 err hresolved => exact .inl ⟨err, hresolved⟩
  case h_3 => simp at hexit

end Accepted

end PropertySettings.CommandLine
