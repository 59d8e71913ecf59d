import Mathlib
import PropertySettings.Proofs.LogFiles

/-!
# What a setup forgets

What a history **writes** is what comes of its records in the journal that each of them finds
(`Workspace.output`), reports of records that a layout cannot write included. Of that, the texts for
streams are added to what has been written, the texts for files are appended to their contents, and
nothing else is written (`Workspace.Appendable.adds_afterAll`).

A setup that succeeds leaves the journal that it asks for, of which each part is told by the setup
alone (`Journal.SetsUp.journal?_eq`). So nothing that was done before, setups that failed half-way
included, has an effect on what is written afterwards (`Workspace.setup_forgets_history`).
-/

namespace PropertySettings

namespace Journal

/-- The journal that a setup asks for. -/
def Setup.journal? (setup : Setup) (files : FileTree) : Option Journal := do
  let level ← Level.ofName? setup.level
  let layout ← Layout.ofText? setup.formatText
  some ⟨true, level, setup.streamHandler level layout ::
    setup.fileName?.toList.map fun name => fileHandler files name level layout, false⟩

variable {journal after : Journal} {files otherFiles opened : FileTree} {setup : Setup}

/-- A setup that succeeds leaves the journal that it asks for, whatever it finds. -/
theorem SetsUp.journal?_eq (h : SetsUp journal files setup after opened none) :
    setup.journal? files = some after := by
  cases h with
  | withoutFile hlevel hlayout hname => simp [Setup.journal?, hlevel, hlayout, hname]
  | withFile hlevel hlayout hname hopen => simp [Setup.journal?, hlevel, hlayout, hname]

/-- Of the files it only matters where the log file is. -/
theorem Setup.journal?_congr (h : ∀ name, setup.fileName? = some name →
    otherFiles.locate (.ofText name) = files.locate (.ofText name)) :
    setup.journal? otherFiles = setup.journal? files := by
  unfold journal?
  cases hname : setup.fileName? with
  | none => rfl
  | some name => simp only [fileHandler, Option.toList_some, List.map_cons, List.map_nil, h name hname]

end Journal

namespace Workspace

/-! ### What a history writes -/

/-- What an action writes, and where, with the journal that it finds. -/
def Action.output (journal : Journal) : Action → List (Sink × Text)
  | .log records => records.flatMap journal.deliver
  | .setUp _ | .reset => []

/-- What a history writes, and where. -/
def output (w : Workspace) : List Action → List (Sink × Text)
  | [] => []
  | action :: rest => action.output w.journal ++ (w.after action).output rest

/-- The texts that go to streams. -/
def onStreams (chunks : List (Sink × Text)) : List (Stream × Text) :=
  chunks.filterMap fun
    | (.stream stream, text) => some (stream, text)
    | (.file _, _) => none

/-- The text that goes to the file at a location. -/
def inFile (location : Location) (chunks : List (Sink × Text)) : Text :=
  (chunks.filter (·.1 = .file location)).flatMap Prod.snd

/-- From one workspace to another, texts are added to what has been written to streams, and to the
contents of files. -/
structure Adds (w later : Workspace) (chunks : List (Sink × Text)) : Prop where
  streams : later.written = w.written ++ onStreams chunks
  files : ∀ location, later.files.content location
    = w.files.content location ++ Utf8.encode (inFile location chunks)

/-- What the journal appends to can be a file: it is neither the working directory nor above it. -/
def Appendable (w : Workspace) : Prop :=
  ∀ handler ∈ w.journal.handlers, ∀ location, handler.sink = .file location →
    ¬ location <+: w.files.home

variable {w v later latest : Workspace} {chunks more : List (Sink × Text)}

theorem adds_nil (hstreams : later.written = w.written)
    (hfiles : ∀ location, later.files.content location = w.files.content location) :
    Adds w later [] :=
  ⟨hstreams.trans (List.append_nil _).symm,
    fun location => (hfiles location).trans (List.append_nil _).symm⟩

theorem Adds.append (h : Adds w later chunks) (hnext : Adds later latest more) :
    Adds w latest (chunks ++ more) where
  streams := by
    rw [hnext.streams, h.streams, List.append_assoc, onStreams, onStreams, onStreams,
      List.filterMap_append]
  files location := by
    rw [hnext.files, h.files, List.append_assoc, ← Utf8.encode_append, inFile, inFile, inFile,
      List.filter_append, List.flatMap_append]

/-- What is put into a stream or a file is added there and nowhere else. -/
theorem adds_put {chunk : Sink × Text}
    (h : ∀ location, chunk.1 = .file location → ¬ location <+: w.files.home) :
    Adds w (w.put chunk) [chunk] := by
  obtain ⟨stream | place, text⟩ := chunk
  · exact ⟨rfl, fun _ => (List.append_nil _).symm⟩
  · refine ⟨(List.append_nil _).symm, fun location => ?_⟩
    by_cases hplace : location = place
    · subst hplace
      rw [put, FileTree.content_append_self (h location rfl)]
      simp [inFile]
    · rw [put, FileTree.content_append_of_ne hplace]
      simp [inFile, Ne.symm hplace, Utf8.encode]

theorem adds_foldl_put
    (h : ∀ chunk ∈ chunks, ∀ location, chunk.1 = .file location → ¬ location <+: w.files.home) :
    Adds w (chunks.foldl put w) chunks := by
  induction chunks generalizing w with
  | nil => exact adds_nil rfl fun _ => rfl
  | cons chunk rest ih =>
    obtain ⟨hchunk, hrest⟩ := List.forall_mem_cons.mp h
    exact (adds_put hchunk).append (ih (by rwa [home_put]))

/-- Records find the journal as it was, so that they are delivered all at once. -/
theorem after_log (w : Workspace) (records : List Record) :
    w.after (.log records) = (Action.output w.journal (.log records)).foldl put w := by
  show w.logAll records = _
  induction records generalizing w with
  | nil => rfl
  | cons record rest ih =>
    have hjournal : (w.log record).journal = w.journal := log_of_put journal journal_put w record
    calc w.logAll (record :: rest)
        = (rest.flatMap (w.log record).journal.deliver).foldl put (w.log record) := ih (w.log record)
      _ = (w.journal.deliver record ++ rest.flatMap w.journal.deliver).foldl put w := by
          rw [hjournal, List.foldl_append, log]

/-! ### Log files can be appended to -/

theorem home_after (w : Workspace) (action : Action) : (w.after action).files.home = w.files.home := by
  cases action with
  | log records => exact logAll_of_put (fun w => w.files.home) home_put w records
  | setUp setup =>
    obtain ⟨journal, files, fault, hsets, hperform⟩ := w.exists_setsUp setup
    rw [after, hperform]
    cases hsets with
    | withFile hlevel hlayout hname hopen => exact FileTree.home_of_openAppend hopen
    | _ => rfl
  | reset => rfl

theorem home_afterAll (w : Workspace) (history : List Action) :
    (w.afterAll history).files.home = w.files.home :=
  invariant_afterAll (p := fun v => v.files.home = w.files.home)
    (fun v action h => (home_after v action).trans h) rfl history

theorem appendable_start (files : FileTree) : (start files).Appendable :=
  fun _ h => absurd h List.not_mem_nil

theorem Appendable.after (h : w.Appendable) (action : Action) : (w.after action).Appendable := by
  unfold Appendable
  rw [home_after]
  cases action with
  | log records =>
    have hjournal : (w.after (.log records)).journal = w.journal := w.journal_logAll records
    exact hjournal ▸ h
  | setUp setup =>
    obtain ⟨journal, files, fault, hsets, hperform⟩ := w.exists_setsUp setup
    rw [Workspace.after, hperform]
    cases hsets with
    | levelRefused | formatRefused => exact fun _ h => absurd h List.not_mem_nil
    | fileRefused | withoutFile =>
      intro handler hhandler location hsink
      obtain rfl := List.mem_singleton.mp hhandler
      exact absurd hsink (by simp [Journal.Setup.streamHandler])
    | withFile hlevel hlayout hname hopen =>
      intro handler hhandler location hsink
      rcases List.mem_pair.mp hhandler with rfl | rfl
      · exact absurd hsink (by simp [Journal.Setup.streamHandler])
      · exact Sink.file.inj hsink ▸ FileTree.not_prefix_of_openAppend hopen
  | reset => exact fun _ h => absurd h List.not_mem_nil

theorem appendable_afterAll (files : FileTree) (history : List Action) :
    ((start files).afterAll history).Appendable :=
  invariant_afterAll (fun _ action h => h.after action) (appendable_start files) history

/-! ### Histories -/

/-- An action adds what it writes. -/
theorem Appendable.adds_after (h : w.Appendable) (action : Action) :
    Adds w (w.after action) (action.output w.journal) := by
  cases action with
  | log records =>
    rw [after_log]
    refine adds_foldl_put fun chunk hchunk location hlocation => ?_
    obtain ⟨sink, text⟩ := chunk
    obtain rfl : sink = .file location := hlocation
    obtain ⟨record, -, hdeliver⟩ := List.mem_flatMap.mp hchunk
    obtain ⟨handler, hhandler, hsink⟩ := Journal.exists_of_mem_deliver_file hdeliver
    exact h handler hhandler location hsink
  | setUp setup => exact adds_nil rfl (content_after_setUp w setup)
  | reset => exact adds_nil rfl fun _ => rfl

/-- **A history adds what it writes**, to streams and to files, and nothing else. -/
theorem Appendable.adds_afterAll (h : w.Appendable) (history : List Action) :
    Adds w (w.afterAll history) (w.output history) := by
  induction history generalizing w with
  | nil => exact adds_nil rfl fun _ => rfl
  | cons action rest ih => exact (h.adds_after action).append (ih (h.after action))

/-! ### Two histories -/

/-- The action is a setup. -/
def Action.IsSetUp : Action → Prop
  | .setUp _ => True
  | .log _ | .reset => False

theorem journal_after_congr (hjournal : v.journal = w.journal) {action : Action}
    (haction : ¬ action.IsSetUp) : (v.after action).journal = (w.after action).journal := by
  cases action with
  | log records => exact (v.journal_logAll records).trans (hjournal.trans (w.journal_logAll records).symm)
  | setUp setup => exact absurd trivial haction
  | reset => exact congrArg Journal.reset hjournal

/-- Without setups, what a history writes is known from the journal that it finds. -/
theorem output_congr (hjournal : v.journal = w.journal) {later : List Action}
    (hlater : ∀ action ∈ later, ¬ action.IsSetUp) : v.output later = w.output later := by
  induction later generalizing v w with
  | nil => rfl
  | cons action rest ih =>
    obtain ⟨haction, hrest⟩ := List.forall_mem_cons.mp hlater
    rw [output, output, hjournal, ih (journal_after_congr hjournal haction) hrest]

theorem journal?_of_success {setup : Journal.Setup} (h : (w.perform (.setUp setup)).2 = none) :
    setup.journal? w.files = some (w.after (.setUp setup)).journal := by
  obtain ⟨journal, files, fault, hsets, hperform⟩ := w.exists_setsUp setup
  rw [hperform] at h
  obtain rfl : fault = none := h
  rw [after, hperform]
  exact hsets.journal?_eq

/-- **A setup forgets all history.** Let a setup succeed after each of two histories, where its log
file, if it names one, is in the same place. Then it leaves the same journal after both, the one that
it asks for. And whatever the layout is, and whatever records follow, in whatever circumstances, and
resets, the same texts are added to what has been written to streams, and the same text is appended
to each file. -/
theorem setup_forgets_history (files otherFiles : FileTree) (history otherHistory : List Action)
    (setup : Journal.Setup)
    (hplace : ∀ name, setup.fileName? = some name →
      otherFiles.locate (.ofText name) = files.locate (.ofText name))
    (hsuccess : (((start files).afterAll history).perform (.setUp setup)).2 = none)
    (hother : (((start otherFiles).afterAll otherHistory).perform (.setUp setup)).2 = none) :
    let w := ((start files).afterAll history).after (.setUp setup)
    let v := ((start otherFiles).afterAll otherHistory).after (.setUp setup)
    setup.journal? files = some w.journal ∧ v.journal = w.journal ∧
    ∀ later, (∀ action ∈ later, ¬ action.IsSetUp) →
      ∃ chunks, Adds w (w.afterAll later) chunks ∧ Adds v (v.afterAll later) chunks := by
  intro w v
  -- histories do not move the places of files
  have hlocate (files : FileTree) (history : List Action) (path : Path) :
      ((start files).afterAll history).files.locate path = files.locate path :=
    FileTree.locate_congr (home_afterAll (start files) history) path
  have hw : setup.journal? files = some w.journal :=
    (Journal.Setup.journal?_congr fun name _ => hlocate files history _).symm.trans
      (journal?_of_success hsuccess)
  have hv : setup.journal? files = some v.journal :=
    (Journal.Setup.journal?_congr fun name hname =>
      (hlocate otherFiles otherHistory _).trans (hplace name hname)).symm.trans
        (journal?_of_success hother)
  have hjournal : v.journal = w.journal := Option.some.inj (hv.symm.trans hw)
  refine ⟨hw, hjournal, fun later hlater => ⟨w.output later, ?_, ?_⟩⟩
  · have happend : w.Appendable := (appendable_afterAll files history).after (.setUp setup)
    exact happend.adds_afterAll later
  · have happend : v.Appendable := (appendable_afterAll otherFiles otherHistory).after (.setUp setup)
    exact output_congr hjournal hlater ▸ happend.adds_afterAll later

/-- A setup that comes after one that failed at its log file, and the same setup as the first thing
that is done, where its log file is not there yet. Its layout asks for the time. -/
theorem setup_forgets_refused_log_file :
    let files := FileTree.write ∅ ["l".toList] (Utf8.encode "old\n".toList)
    let refused : Journal.Setup :=
      ⟨"debug".toList, some "l/x".toList, some "%(levelno)d".toList, .custom⟩
    let history : List Action :=
      [.setUp refused, .log [Record.error "a".toList "b".toList [] none], .reset, .setUp refused]
    let setup : Journal.Setup :=
      ⟨"error".toList, some "./l".toList, some "%(asctime)s %(message)s".toList, .stdout⟩
    let noon : Record.Circumstances := { Record.Circumstances.unknown with
      field := fun _ _ => .text "12:00".toList }
    let later : List Action :=
      [.log [Record.warning "a".toList "c".toList [],
          (Record.error "a".toList "d".toList [] none).under noon],
        .reset, .log [Record.error "a".toList "e".toList [] none]]
    let shown : List (Stream × Text) :=
      [(.stdout, "12:00 [A] d\n".toList), (.stderr, "[A] e\n".toList)]
    let w := ((start files).afterAll history).after (.setUp setup)
    let v := ((start ∅).afterAll []).after (.setUp setup)
    ((∀ name, setup.fileName? = some name →
        FileTree.locate ∅ (.ofText name) = files.locate (.ofText name)) ∧
      (((start files).afterAll history).perform (.setUp setup)).2 = none ∧
      (((start ∅).afterAll []).perform (.setUp setup)).2 = none ∧
      ∀ action ∈ later, ¬ action.IsSetUp) ∧
    v.journal = w.journal ∧
    (∃ chunks, Adds w (w.afterAll later) chunks ∧ Adds v (v.afterAll later) chunks ∧
      onStreams chunks = shown) ∧
    (w.afterAll later).files.content ["l".toList] = Utf8.encode "old\n12:00 [A] d\n".toList := by
  intro files refused history setup noon later shown w v
  have hplace : ∀ name, setup.fileName? = some name →
      FileTree.locate ∅ (.ofText name) = files.locate (.ofText name) := fun _ _ => rfl
  have hsuccess : (((start files).afterAll history).perform (.setUp setup)).2 = none := by
    decide +kernel
  have hother : (((start ∅).afterAll []).perform (.setUp setup)).2 = none := by decide +kernel
  have hlater : ∀ action ∈ later, ¬ action.IsSetUp := by simp [later, Action.IsSetUp]
  have hshown : (v.afterAll later).written = v.written ++ shown := by decide +kernel
  obtain ⟨-, hjournal, hforgets⟩ :=
    setup_forgets_history files ∅ history [] setup hplace hsuccess hother
  obtain ⟨chunks, hw, hv⟩ := hforgets later hlater
  have hchunks : onStreams chunks = shown := List.append_cancel_left (hv.streams.symm.trans hshown)
  exact ⟨⟨hplace, hsuccess, hother, hlater⟩, hjournal, ⟨chunks, hw, hv, hchunks⟩, by decide +kernel⟩

end Workspace

end PropertySettings
