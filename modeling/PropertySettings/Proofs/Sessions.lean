import Mathlib
import PropertySettings.Proofs.ConsoleJournal
import PropertySettings.Proofs.Outcomes
import PropertySettings.Proofs.Setups
import PropertySettings.Settings.Session

/-!
# What a session answers

Questions leave no mark. Each step of a session is answered, and leaves the same text in the log, as
in a session that is new: it has the properties and the files to which the changes made so far lead,
and nothing has been asked in it (`Session.reply_after`, `Session.logText_concat`).

To ask for all settings is to ask for those that may fail one after the other, up to the first one
that does (`Settings.discard_resolve`). So the answer is made up of what each setting comes to, or
the failure is that of the first setting that fails, and the records are those of the settings that
were asked for (`Settings.resolve_cases`).
-/

namespace PropertySettings

/-! ### Asking in turn -/

namespace Traced

variable {α β : Type}

/-- Takes answers one after the other, up to the first failure. -/
def inTurn (f : β → Traced α) : List β → Traced Unit
  | [] => pure ()
  | b :: rest => do
    let _ ← f b
    inTurn f rest

/-- Either all are answered, or there is a first failure, and nothing behind it leaves a record. -/
theorem inTurn_cases (f : β → Traced α) (items : List β) :
    ((∀ b ∈ items, ∃ a, (f b).outcome = .ok a) ∧
      inTurn f items = ⟨items.flatMap fun b => (f b).records, .ok ()⟩) ∨
    ∃ failure before b after, items = before ++ b :: after ∧
      (∀ c ∈ before, ∃ a, (f c).outcome = .ok a) ∧ (f b).outcome = .error failure ∧
      inTurn f items = ⟨(before ++ [b]).flatMap fun c => (f c).records, .error failure⟩ := by
  induction items with
  | nil => exact .inl ⟨by simp, rfl⟩
  | cons b rest ih =>
    have hnext : inTurn f (b :: rest) = (f b).next fun _ => inTurn f rest := rfl
    cases hb : (f b).outcome with
    | error failure =>
      refine .inr ⟨failure, [], b, rest, rfl, by simp, hb, ?_⟩
      rw [hnext, next, hb]
      simp
    | ok a =>
      rcases ih with ⟨hall, hrest⟩ | ⟨failure, before, c, after, rfl, hbefore, hc, hrest⟩
      · refine .inl ⟨List.forall_mem_cons.mpr ⟨⟨a, hb⟩, hall⟩, ?_⟩
        rw [hnext, next, hb, hrest]
        rfl
      · refine .inr ⟨failure, b :: before, c, after, rfl,
          List.forall_mem_cons.mpr ⟨⟨a, hb⟩, hbefore⟩, hc, ?_⟩
        rw [hnext, next, hb, hrest]
        rfl

end Traced

/-! ### All settings at once -/

/-- The settings that may fail, in the order in which they are asked for. -/
def Query.fallible : List Query :=
  [.bytecodeVersion, .inputDir, .outputDir, .classpath, .includedFiles]

/-- What a snapshot answers to a question about a setting. -/
def Snapshot.answer? (s : Snapshot) : Query → Option Answer
  | .bytecodeVersion => some (.number s.bytecodeVersion)
  | .defaultMethods => some (.truth s.defaultMethods)
  | .inputDir => some (.path s.inputDir)
  | .outputDir => some (.path s.outputDir)
  | .classpath => some (.paths s.classpath)
  | .includedFiles => some (.selection s.includedFiles)
  | .javacHacks => some (.truth s.javacHacks)
  | .quiet => some (.truth s.quiet)
  | .complete | .usage _ | .resolve => none

namespace Settings

variable (settings : Settings) (files : FileTree)

/-- But for the answer, to ask for all settings is to ask for those that may fail in turn. -/
theorem discard_resolve :
    (fun _ => ()) <$> settings.resolve files
      = Traced.inTurn (settings.ask files) Query.fallible := by
  simp only [resolve, Traced.inTurn, ask, Query.fallible, map_bind, bind_map_left, map_pure]

variable {settings files}

/-- A snapshot answers as each setting does. -/
theorem outcome_ask_of_resolve {snapshot : Snapshot}
    (h : (settings.resolve files).outcome = .ok snapshot) {query : Query} {answer : Answer}
    (hanswer : snapshot.answer? query = some answer) :
    (settings.ask files query).outcome = .ok answer := by
  obtain ⟨hversion, hinput, houtput, hclasspath, hincluded, hmethods, hjavac, hquiet⟩ :=
    resolve_eq_ok_iff.mp h
  cases query with
  | complete | usage | resolve => exact absurd hanswer (by simp [Snapshot.answer?])
  | _ =>
    obtain rfl := Option.some.inj hanswer
    simp [ask, Except.map, *]

/-- **What it comes to to ask for all settings.** -/
theorem resolve_cases (settings : Settings) (files : FileTree) :
    (∃ snapshot, (settings.ask files .resolve).outcome = .ok (.snapshot snapshot) ∧
      (∀ query answer, snapshot.answer? query = some answer →
        (settings.ask files query).outcome = .ok answer) ∧
      (settings.ask files .resolve).records
        = Query.fallible.flatMap fun query => (settings.ask files query).records) ∨
    ∃ failure before query after, Query.fallible = before ++ query :: after ∧
      (settings.ask files .resolve).outcome = .error failure ∧
      (∀ earlier ∈ before, ∃ answer, (settings.ask files earlier).outcome = .ok answer) ∧
      (settings.ask files query).outcome = .error failure ∧
      (settings.ask files .resolve).records
        = (before ++ [query]).flatMap fun earlier => (settings.ask files earlier).records := by
  have hrecords : (settings.ask files .resolve).records
      = (Traced.inTurn (settings.ask files) Query.fallible).records := by
    rw [← discard_resolve, ask, Traced.records_map, Traced.records_map]
  have houtcome : (settings.resolve files).outcome.map (fun _ => ())
      = (Traced.inTurn (settings.ask files) Query.fallible).outcome := by
    rw [← discard_resolve, Traced.outcome_map]
  rcases Traced.inTurn_cases (settings.ask files) Query.fallible with
    ⟨-, hturn⟩ | ⟨failure, before, query, after, hsplit, hbefore, hquery, hturn⟩
  · rw [hturn, Except.map_eq_ok_iff] at houtcome
    obtain ⟨snapshot, hsnapshot, -⟩ := houtcome
    refine .inl ⟨snapshot, ?_, fun _ _ => outcome_ask_of_resolve hsnapshot, ?_⟩
    · rw [ask, Traced.outcome_map, hsnapshot]
      rfl
    · rw [hrecords, hturn]
  · rw [hturn, Except.map_eq_error_iff] at houtcome
    refine .inr ⟨failure, before, query, after, hsplit, ?_, hbefore, hquery, ?_⟩
    · rw [ask, Traced.outcome_map, houtcome]
      rfl
    · rw [hrecords, hturn]

end Settings

/-! ### Changes and questions -/

namespace Session

namespace Step

/-- The step changes something; otherwise it is a question. -/
def isChange : Step → Bool
  | .ask _ => false
  | _ => true

/-- The properties after a step. -/
def onProperties (properties : PropertySet) : Step → PropertySet
  | .setProperty key value => properties.assign key value
  | .unsetProperty key => properties.erase key
  | _ => properties

/-- The files after a step. -/
def onFiles (files : FileTree) : Step → FileTree
  | .writeFile name content => files.write (files.locate (.ofText name)) content
  | .makeDirectory name =>
    let location := files.locate (.ofText name)
    (files.makeParents location).makeDirectory location
  | .removeFile name => files.remove (files.locate (.ofText name))
  | _ => files

end Step

/-- A new session, over the properties and the files that changes lead to. -/
def renewed (session : Session) (changes : List Step) : Session :=
  ⟨⟨changes.foldl Step.onProperties session.settings.properties, session.settings.registry,
    session.settings.separator⟩, changes.foldl Step.onFiles session.files⟩

/-- The session after steps that follow one another. -/
def afterAll (session : Session) (steps : List Step) : Session :=
  steps.foldl after session

/-- All that one journal for details takes in the course of a session. -/
def logText (session : Session) (steps : List Step) : Text :=
  detailText ((session.replies steps).flatMap Traced.records)

/-- Questions do not count. -/
theorem afterAll_eq_renewed (session : Session) (steps : List Step) :
    session.afterAll steps = session.renewed (steps.filter Step.isChange) := by
  induction steps generalizing session with
  | nil => rfl
  | cons step rest ih =>
    have hcons : session.afterAll (step :: rest) = (session.after step).afterAll rest := rfl
    rw [hcons, ih]
    cases step <;> rfl

theorem replies_append (session : Session) (first second : List Step) :
    session.replies (first ++ second)
      = session.replies first ++ (session.afterAll first).replies second := by
  induction first generalizing session with
  | nil => rfl
  | cons step rest ih => exact congrArg (session.reply step :: ·) (ih (session.after step))

theorem length_replies (session : Session) (steps : List Step) :
    (session.replies steps).length = steps.length := by
  induction steps generalizing session with
  | nil => rfl
  | cons step rest ih => exact congrArg Nat.succ (ih (session.after step))

/-- A step is answered as in a new session. -/
theorem reply_after (session : Session) (before : List Step) (step : Step) (after : List Step) :
    (session.replies (before ++ step :: after))[before.length]?
      = some ((session.renewed (before.filter Step.isChange)).reply step) := by
  rw [replies_append, ← session.length_replies before, List.getElem?_append_right le_rfl,
    Nat.sub_self, afterAll_eq_renewed]
  rfl

/-! ### The log -/

/-- What a journal for details takes of records does not depend on what it took before. -/
theorem detailText_append (first second : List Record) :
    detailText (first ++ second) = detailText first ++ detailText second := by
  have hlines (records : List Record) : detailText records
      = ((Journal.lines .stdout .debug records).filter (·.1 = .stdout)).flatMap Prod.snd := by
    let details : Journal.Setup := ⟨"DEBUG".toList, none, none, .stdout⟩
    calc detailText records
        = (((Workspace.start ∅).setUp details).1.logAll records).textOn .stdout := rfl
      _ = ((⟨∅, .console .stdout .debug, []⟩ : Workspace).logAll records).textOn .stdout := by
          rw [Workspace.setUp_console (show Level.ofName? details.level = some .debug from rfl)]
          rfl
      _ = _ := by rw [Workspace.logAll_console (by decide), Workspace.textOn, List.nil_append]
  rw [hlines, hlines, hlines, Journal.lines_append, List.filter_append, List.flatMap_append]

/-- A step leaves the same text in the log as in a new session. -/
theorem logText_concat (session : Session) (before : List Step) (step : Step) :
    session.logText (before ++ [step])
      = session.logText before
        ++ detailText ((session.renewed (before.filter Step.isChange)).reply step).records := by
  rw [logText, replies_append, List.flatMap_append, detailText_append, afterAll_eq_renewed, logText]
  exact congrArg (_ ++ detailText ·) (List.append_nil _)

/-- **A session answers as if nothing had been asked before.** Whatever the steps before it, a step is
answered, and leaves the text in the log, as in a new session over the properties and the files that
the changes among these steps lead to.

To ask for all settings is to ask for each one. Either a snapshot is answered: then each of its
settings is what the question for that setting is answered, and the records are those of the settings
that may fail, in order. Or there is a first setting, in that order, that is not told: then its failure
is told, and the records are those of the settings up to that one. -/
theorem answers_like_new_session (session : Session) (before : List Step) :
    let fresh := session.renewed (before.filter Step.isChange)
    let asked (query : Query) : Traced Answer := fresh.reply (.ask query)
    (∀ step after,
      (session.replies (before ++ step :: after))[before.length]? = some (fresh.reply step) ∧
      session.logText (before ++ [step])
        = session.logText before ++ detailText (fresh.reply step).records) ∧
    ((∃ snapshot, (asked .resolve).outcome = .ok (.snapshot snapshot) ∧
        (∀ query answer, snapshot.answer? query = some answer →
          (asked query).outcome = .ok answer) ∧
        (asked .resolve).records = Query.fallible.flatMap fun query => (asked query).records) ∨
      ∃ failure earlier query later, Query.fallible = earlier ++ query :: later ∧
        (asked .resolve).outcome = .error failure ∧
        (∀ other ∈ earlier, ∃ answer, (asked other).outcome = .ok answer) ∧
        (asked query).outcome = .error failure ∧
        (asked .resolve).records
          = (earlier ++ [query]).flatMap fun other => (asked other).records) := by
  intro fresh asked
  exact ⟨fun step after => ⟨reply_after session before step after, logText_concat session before step⟩,
    Settings.resolve_cases fresh.settings fresh.files⟩

end Session

end PropertySettings
