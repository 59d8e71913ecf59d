import Mathlib
import PropertySettings.Workspace

/-!
# What actions do to a journal

A setup ends in one of five ways (`Journal.SetsUp`): its level is unknown, its format is no layout,
its log file cannot be opened, or it succeeds, with a log file or without. Each way leaves a journal
and files that are known completely. Records leave the journal as it is, whatever they are
(`Workspace.journal_logAll`). So what each action keeps can be told, and what each one keeps all
histories keep (`Workspace.invariant_afterAll`).
-/

namespace PropertySettings

namespace Journal

/-- The name of the log file that a setup asks for, if it asks for one. -/
def Setup.fileName? (setup : Setup) : Option Text :=
  match setup.logFile with
  | none | some [] => none
  | some name => some name

/-- The handler that a setup attaches for its stream. -/
def Setup.streamHandler (setup : Setup) (level : Level) (layout : Layout) : Handler :=
  ⟨.stream setup.stream, level, layout⟩

/-- The handler for the log file of a name. -/
def fileHandler (files : FileTree) (name : Text) (level : Level) (layout : Layout) : Handler :=
  ⟨.file (files.locate (.ofText name)), level, layout⟩

/-- The fault is that the log file cannot be opened. -/
def SetupFault.OfLogFile : SetupFault → Prop
  | .nulInFileName | .fileRefused _ _ => True
  | _ => False

/-- The five ways in which a setup ends, with the journal and the files that it leaves, and the
fault if there is one. -/
inductive SetsUp (journal : Journal) (files : FileTree) (setup : Setup) :
    Journal → FileTree → Option SetupFault → Prop
  | levelRefused {fault : SetupFault} (hlevel : Level.ofName? setup.level = none)
      (hfault : ¬ fault.OfLogFile) :
      SetsUp journal files setup
        ⟨journal.configured, journal.threshold, [], journal.propagates⟩ files (some fault)
  | formatRefused {level : Level} (hlevel : Level.ofName? setup.level = some level)
      (hlayout : Layout.ofText? setup.formatText = none) :
      SetsUp journal files setup ⟨journal.configured, level, [], false⟩ files
        (some (.badFormat setup.formatText))
  | fileRefused {level : Level} {layout : Layout} {name : Text} {fault : SetupFault}
      (hlevel : Level.ofName? setup.level = some level)
      (hlayout : Layout.ofText? setup.formatText = some layout)
      (hname : setup.fileName? = some name) (hfault : fault.OfLogFile) :
      SetsUp journal files setup
        ⟨journal.configured, level, [setup.streamHandler level layout], false⟩ files (some fault)
  | withoutFile {level : Level} {layout : Layout}
      (hlevel : Level.ofName? setup.level = some level)
      (hlayout : Layout.ofText? setup.formatText = some layout)
      (hname : setup.fileName? = none) :
      SetsUp journal files setup ⟨true, level, [setup.streamHandler level layout], false⟩ files none
  | withFile {level : Level} {layout : Layout} {name : Text} {opened : FileTree}
      (hlevel : Level.ofName? setup.level = some level)
      (hlayout : Layout.ofText? setup.formatText = some layout)
      (hname : setup.fileName? = some name) (hopen : files.openAppend (.ofText name) = .ok opened) :
      SetsUp journal files setup
        ⟨true, level, [setup.streamHandler level layout, fileHandler files name level layout],
          false⟩ opened none

theorem levelNamed_of_some {word : Text} {level : Level} (h : Level.ofName? word = some level) :
    levelNamed word = .ok level := by
  rw [levelNamed, h]

/-- A word that names no level is refused, and not on account of a file. -/
theorem levelNamed_of_none {word : Text} (h : Level.ofName? word = none) :
    ∃ fault, levelNamed word = .error fault ∧ ¬ fault.OfLogFile := by
  simp only [levelNamed, h]
  split_ifs <;> exact ⟨_, rfl, id⟩

theorem attachFile_of_error {journal : Journal} {files : FileTree} {level : Level}
    {layout : Layout} {name : Text} {fault : SetupFault}
    (h : journal.attachFile files level layout name = .error fault) : fault.OfLogFile := by
  simp only [attachFile] at h
  split at h
  · exact Except.error.inj h ▸ trivial
  · split at h
    · exact Except.error.inj h ▸ trivial
    · exact absurd h (by simp)

theorem attachFile_of_ok {journal attached : Journal} {files opened : FileTree} {level : Level}
    {layout : Layout} {name : Text}
    (h : journal.attachFile files level layout name = .ok (attached, opened)) :
    attached = { journal with
        handlers := journal.handlers ++ [fileHandler files name level layout] } ∧
      files.openAppend (.ofText name) = .ok opened := by
  simp only [attachFile] at h
  split at h
  · exact absurd h (by simp)
  · split at h
    · exact absurd h (by simp)
    · next hopen =>
      obtain ⟨rfl, rfl⟩ := Prod.mk.inj (Except.ok.inj h)
      exact ⟨rfl, hopen⟩

/-- **A setup ends in one of the five ways.** -/
theorem setsUp_setUp (journal : Journal) (files : FileTree) (setup : Setup) :
    SetsUp journal files setup (journal.setUp files setup).1 (journal.setUp files setup).2.1
      (journal.setUp files setup).2.2 := by
  cases hlevel : Level.ofName? setup.level with
  | none =>
    obtain ⟨fault, hnamed, hfault⟩ := levelNamed_of_none hlevel
    simp only [setUp, hnamed]
    exact .levelRefused hlevel hfault
  | some level =>
    simp only [setUp, levelNamed_of_some hlevel]
    cases hlayout : Layout.ofText? setup.formatText with
    | none => exact .formatRefused hlevel hlayout
    | some layout =>
      simp only
      split
      · exact .withoutFile hlevel hlayout (by simp [Setup.fileName?, *])
      · exact .withoutFile hlevel hlayout (by simp [Setup.fileName?, *])
      · next name hname _ =>
        have hname : setup.fileName? = some name := by simp [Setup.fileName?, *]
        split
        · next hattach => exact .fileRefused hlevel hlayout hname (attachFile_of_error hattach)
        · next hattach =>
          obtain ⟨rfl, hopen⟩ := attachFile_of_ok hattach
          exact .withFile hlevel hlayout hname hopen

end Journal

/-! ### Actions -/

namespace Workspace

theorem journal_put (w : Workspace) (chunk : Sink × Text) : (w.put chunk).journal = w.journal := by
  obtain ⟨_ | _, _⟩ := chunk <;> rfl

/-- What each writing keeps, a record keeps. -/
theorem log_of_put {α : Type} (f : Workspace → α) (hput : ∀ w chunk, f (w.put chunk) = f w)
    (w : Workspace) (record : Record) : f (w.log record) = f w := by
  rw [log]
  induction w.journal.deliver record generalizing w with
  | nil => rfl
  | cons chunk rest ih => rw [List.foldl_cons, ih, hput]

/-- What each writing keeps, records keep. -/
theorem logAll_of_put {α : Type} (f : Workspace → α) (hput : ∀ w chunk, f (w.put chunk) = f w)
    (w : Workspace) (records : List Record) : f (w.logAll records) = f w := by
  induction records generalizing w with
  | nil => rfl
  | cons record rest ih => exact (ih (w.log record)).trans (log_of_put f hput w record)

theorem journal_logAll (w : Workspace) (records : List Record) :
    (w.logAll records).journal = w.journal :=
  logAll_of_put journal journal_put w records

/-- What a setup does to a workspace, in one of the five ways. -/
theorem exists_setsUp (w : Workspace) (setup : Journal.Setup) :
    ∃ journal files fault, Journal.SetsUp w.journal w.files setup journal files fault ∧
      w.perform (.setUp setup) = ({ w with journal, files }, fault) :=
  ⟨_, _, _, Journal.setsUp_setUp w.journal w.files setup, rfl⟩

theorem afterAll_append (w : Workspace) (first second : List Action) :
    w.afterAll (first ++ second) = (w.afterAll first).afterAll second :=
  List.foldl_append

/-- What each action keeps, a history keeps. -/
theorem invariant_afterAll {p : Workspace → Prop}
    (hstep : ∀ (w : Workspace) (action : Action), p w → p (w.after action)) {w : Workspace} (h : p w)
    (history : List Action) : p (w.afterAll history) := by
  induction history generalizing w with
  | nil => exact h
  | cons action rest ih => exact ih (hstep w action h)

end Workspace

end PropertySettings
