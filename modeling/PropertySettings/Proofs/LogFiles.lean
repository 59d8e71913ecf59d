import Mathlib
import PropertySettings.Proofs.Handlers
import PropertySettings.Proofs.Layouts

/-!
# What log files take

A setup is **in force** from the time it succeeds until the next setup, or a reset. While it is in
force, the records that its level lets through are **due** in the log file that it names, one line
for each. The content of a file after a history is what it was before, followed by the lines that
have become due in it, in order, and by nothing else (`Workspace.content_after_history`). So a log
file only ever grows: setups that name it again go on with it, and handlers of the past write
nothing.
-/

namespace PropertySettings

/-! ### Appending to files -/

namespace FileTree

variable {tree opened : FileTree} {location other : Location} {path : Path}

theorem content_append_self (h : ¬ location <+: tree.home) (bytes : List UInt8) :
    (tree.append location bytes).content location = tree.content location ++ bytes := by
  have hentry : entry? (tree.append location bytes) location
      = some (.file (tree.content location ++ bytes)) := by
    show (if location <+: tree.home then _ else _) = _
    rw [if_neg h, append, Assignments.get?_assign, if_pos rfl]
  rw [content, hentry]

theorem content_append_of_ne (h : other ≠ location) (bytes : List UInt8) :
    (tree.append location bytes).content other = tree.content other := by
  have hentry : entry? (tree.append location bytes) other = tree.entry? other := by
    simp only [ entry?, append, Assignments.get?_assign, if_neg h]
  rw [content, content, hentry]

theorem locate_congr (h : opened.home = tree.home) (path : Path) :
    opened.locate path = tree.locate path := by
  rw [locate, locate, start, start, h]

/-- A file that is opened for appending is there already, or it is made, empty. -/
theorem openAppend_cases (h : tree.openAppend path = .ok opened) :
    ((∃ content, tree.entry? (tree.locate path) = some (.file content)) ∧ opened = tree) ∨
      tree.entry? (tree.locate path) = none ∧
        opened = { tree with entries := tree.entries.assign (tree.locate path) (.file []) } := by
  simp only [openAppend] at h
  split at h
  · exact absurd h (by simp)
  split at h
  · exact absurd h (by simp)
  · exact absurd h (by simp)
  split at h
  · exact absurd h (by simp)
  split at h
  · exact absurd h (by simp)
  · next content hentry => exact .inl ⟨⟨content, hentry⟩, (Except.ok.inj h).symm⟩
  · next hentry => exact .inr ⟨hentry, (Except.ok.inj h).symm⟩

theorem home_of_openAppend (h : tree.openAppend path = .ok opened) : opened.home = tree.home := by
  obtain ⟨-, rfl⟩ | ⟨-, rfl⟩ := openAppend_cases h <;> rfl

/-- A file that is opened for appending is neither the working directory nor above it. -/
theorem not_prefix_of_openAppend (h : tree.openAppend path = .ok opened) :
    ¬ tree.locate path <+: tree.home := by
  intro hprefix
  have hentry : tree.entry? (tree.locate path) = some .directory := if_pos hprefix
  obtain ⟨⟨content, hfile⟩, -⟩ | ⟨hnone, -⟩ := openAppend_cases h
  · exact absurd (hentry.symm.trans hfile) (by simp)
  · exact absurd (hentry.symm.trans hnone) (by simp)

/-- Opening a file for appending changes no content. -/
theorem content_of_openAppend (h : tree.openAppend path = .ok opened) (location : Location) :
    opened.content location = tree.content location := by
  obtain ⟨-, rfl⟩ | ⟨hnone, hmade⟩ := openAppend_cases h
  · rfl
  -- to make the file is to append nothing where there is nothing
  have happend : opened = tree.append (tree.locate path) [] := by
    rw [hmade, append, content, hnone]
    rfl
  rw [happend]
  by_cases hlocation : location = tree.locate path
  · rw [hlocation, content_append_self (not_prefix_of_openAppend h), List.append_nil]
  · exact content_append_of_ne hlocation []

end FileTree

/-! ### What handlers write -/

/-- A handler writes to its own sink, or reports on the standard error stream. -/
theorem Handler.sink_chunk (handler : Handler) (record : Record) :
    (handler.chunk record).1 = handler.sink ∨ (handler.chunk record).1 = .stream .stderr := by
  rw [chunk]
  cases handler.layout.write handler.sink record with
  | some text => exact .inl rfl
  | none => exact .inr rfl

/-- What goes to a file is written by a handler for that file. -/
theorem Handler.sink_of_chunk?_file {handler : Handler} {record : Record} {location : Location}
    {text : Text} (h : handler.chunk? record = some (.file location, text)) :
    handler.sink = .file location := by
  obtain ⟨-, h⟩ := Option.ite_none_right_eq_some.mp h
  rcases handler.sink_chunk record with hsink | hsink <;> rw [Option.some.inj h] at hsink
  · exact hsink.symm
  · exact absurd hsink (by simp)

theorem Handler.chunk_of_write {handler : Handler} {record : Record} {text : Text}
    (h : handler.layout.write handler.sink record = some text) :
    handler.chunk record = (handler.sink, text ++ ['\n']) := by
  rw [chunk, h]

/-- What is written for a record is written by a handler, or by the one that is used where there is
none. -/
theorem Journal.exists_of_mem_deliver {journal : Journal} {record : Record} {chunk : Sink × Text}
    (h : chunk ∈ journal.deliver record) :
    ∃ handler, (handler ∈ journal.handlers ∨ handler = .lastResort) ∧
      handler.chunk? record = some chunk := by
  simp only [deliver] at h
  split_ifs at h with _ hnone
  · obtain ⟨handler, hhandler, hchunk⟩ := List.mem_filterMap.mp h
    exact ⟨handler, .inr (List.mem_singleton.mp hhandler), hchunk⟩
  · obtain ⟨handler, hhandler, hchunk⟩ := List.mem_filterMap.mp h
    exact ⟨handler, .inl hhandler, hchunk⟩
  · exact absurd h List.not_mem_nil

/-- What is written to a file for a record is written by a handler for that file. -/
theorem Journal.exists_of_mem_deliver_file {journal : Journal} {record : Record}
    {location : Location} {text : Text} (h : (.file location, text) ∈ journal.deliver record) :
    ∃ handler ∈ journal.handlers, handler.sink = .file location := by
  obtain ⟨handler, hhandler, hchunk⟩ := exists_of_mem_deliver h
  have hsink := Handler.sink_of_chunk?_file hchunk
  rcases hhandler with hhandler | rfl
  · exact ⟨handler, hhandler, hsink⟩
  · exact absurd hsink (by simp [Handler.lastResort])

/-- A handler that has the threshold of its journal lets through what the journal does. -/
theorem Journal.chunk?_of_admits {journal : Journal} {handler : Handler} {record : Record}
    (hlevel : handler.level = journal.threshold) (h : journal.Admits record) :
    handler.chunk? record = some (handler.chunk record) := by
  have hforce : journal.threshold ≤ journal.threshold.orWarning := by
    cases journal.threshold <;> decide
  refine if_pos ?_
  rw [hlevel]
  exact Nat.le_trans hforce h

/-- Where all handlers have the threshold of the journal, each of them takes each record that the
journal lets through. -/
theorem Journal.deliver_of_admits {journal : Journal} {record : Record}
    (hlevels : ∀ handler ∈ journal.handlers, handler.level = journal.threshold)
    (hne : journal.handlers ≠ []) (h : journal.Admits record) :
    journal.deliver record = journal.handlers.map (·.chunk record) := by
  have hdeliver : journal.deliver record = journal.handlers.filterMap (·.chunk? record) := by
    simp [deliver, h, hne]
  rw [hdeliver, ← List.filterMap_eq_map']
  exact List.filterMap_congr fun handler hhandler => chunk?_of_admits (hlevels handler hhandler) h

/-! ### Setups in force and what is due -/

namespace Journal.Setup

/-- The setup asks for the record to be written to the file at a location: it names the file, and
its level lets the record through. -/
def Asks (setup : Setup) (files : FileTree) (location : Location) (record : Record) : Prop :=
  setup.fileName?.map (fun name => files.locate (.ofText name)) = some location ∧
    ∃ level ∈ Level.ofName? setup.level, level.orWarning ≤ record.level

instance (setup : Setup) (files : FileTree) (location : Location) (record : Record) :
    Decidable (setup.Asks files location record) :=
  inferInstanceAs (Decidable (_ ∧ _))

theorem asks_congr {setup : Setup} {files otherFiles : FileTree} {location : Location}
    {record : Record} (h : otherFiles.home = files.home) :
    setup.Asks otherFiles location record ↔ setup.Asks files location record := by
  simp only [Asks, FileTree.locate_congr h]

/-- The layout of the setup, if it has one, writes every record to every sink. -/
def Formats (setup : Setup) : Prop :=
  ∀ layout, Layout.ofText? setup.formatText = some layout → layout.Total

theorem formats_of_fits {setup : Setup}
    (h : ∀ layout ∈ Layout.ofText? setup.formatText, ∀ piece ∈ layout, piece.Fits) : setup.Formats :=
  fun layout hlayout => Layout.total_of_fits (h layout hlayout)

/-- The line is the record as the layout of the setup writes it to the file at a location. -/
def Writes (setup : Setup) (location : Location) (record : Record) (line : Text) : Prop :=
  ∃ layout, Layout.ofText? setup.formatText = some layout ∧
    layout.write (.file location) record = some line

end Journal.Setup

namespace Workspace

open Journal (Setup)

/-- The setup in force after an action: a setup that succeeds comes into force, one that fails and a
reset leave none. -/
def inForceAfter (w : Workspace) (inForce : Option Setup) : Action → Option Setup
  | .setUp setup => if (w.perform (.setUp setup)).2.isNone then some setup else none
  | .log _ => inForce
  | .reset => none

@[simp]
theorem inForceAfter_log (w : Workspace) (inForce : Option Setup) (records : List Record) :
    w.inForceAfter inForce (.log records) = inForce := rfl

@[simp]
theorem inForceAfter_reset (w : Workspace) (inForce : Option Setup) :
    w.inForceAfter inForce .reset = none := rfl

/-- The records of an action that are due in the file at a location, with the setup in force. -/
def dueNow (files : FileTree) (location : Location) (inForce : Option Setup) :
    Action → List (Setup × Record)
  | .log records =>
    match inForce with
    | some setup => (records.filter (setup.Asks files location)).map (setup, ·)
    | none => []
  | .setUp _ | .reset => []

/-- The records of a history that are due in the file at a location, each with the setup that is in
force when it is made. -/
def due (location : Location) (w : Workspace) (inForce : Option Setup) :
    List Action → List (Setup × Record)
  | [] => []
  | action :: rest =>
    dueNow w.files location inForce action
      ++ due location (w.after action) (w.inForceAfter inForce action) rest

/-! ### What the setup in force makes of a workspace -/

/-- The journal appends to files as the setup in force asks, by a layout that writes every record,
and to none if no setup is in force. -/
inductive Obeys (w : Workspace) : Option Setup → Prop
  | nothing (hstreams : ∀ handler ∈ w.journal.handlers, handler.sink.isFile = false) : Obeys w none
  | setup {setup : Setup} {level : Level} {layout : Layout}
      (hlevel : Level.ofName? setup.level = some level)
      (hlayout : Layout.ofText? setup.formatText = some layout) (htotal : layout.Total)
      (hthreshold : w.journal.threshold = level)
      (hhandlers : w.journal.handlers = setup.streamHandler level layout ::
        (setup.fileName?.toList.map fun name => Journal.fileHandler w.files name level layout))
      (hfree : ∀ name, setup.fileName? = some name →
        ¬ w.files.locate (.ofText name) <+: w.files.home) : Obeys w (some setup)

variable {w : Workspace} {inForce : Option Setup} {location : Location}

theorem home_put (w : Workspace) (chunk : Sink × Text) : (w.put chunk).files.home = w.files.home := by
  obtain ⟨_ | _, _⟩ := chunk <;> rfl

theorem home_log (w : Workspace) (record : Record) : (w.log record).files.home = w.files.home :=
  log_of_put (fun w => w.files.home) home_put w record

/-- Whether a workspace obeys depends on its journal and its working directory. -/
theorem Obeys.congr {later : Workspace} (h : w.Obeys inForce) (hjournal : later.journal = w.journal)
    (hhome : later.files.home = w.files.home) : later.Obeys inForce := by
  cases h with
  | nothing hstreams => exact .nothing (hjournal ▸ hstreams)
  | setup hlevel hlayout htotal hthreshold hhandlers hfree =>
    refine .setup hlevel hlayout htotal (hjournal ▸ hthreshold) ?_ fun name hname => ?_
    · simp only [Journal.fileHandler, FileTree.locate_congr hhome, hjournal]
      exact hhandlers
    · rw [FileTree.locate_congr hhome, hhome]
      exact hfree name hname

theorem Obeys.log (h : w.Obeys inForce) (record : Record) : (w.log record).Obeys inForce :=
  h.congr (log_of_put journal journal_put w record) (home_log w record)

theorem Obeys.logAll (h : w.Obeys inForce) (records : List Record) :
    (w.logAll records).Obeys inForce :=
  h.congr (journal_logAll w records) (logAll_of_put (fun w => w.files.home) home_put w records)

/-- A setup that succeeds comes into force. -/
theorem obeys_after_setUp (w : Workspace) (inForce : Option Setup) {setup : Setup}
    (hformats : setup.Formats) :
    (w.after (.setUp setup)).Obeys (w.inForceAfter inForce (.setUp setup)) := by
  obtain ⟨journal, files, fault, hsets, hperform⟩ := w.exists_setsUp setup
  rw [after, inForceAfter, hperform]
  cases hsets with
  | levelRefused | formatRefused => exact .nothing fun handler h => absurd h List.not_mem_nil
  | fileRefused =>
    refine .nothing fun handler h => ?_
    obtain rfl := List.mem_singleton.mp h
    rfl
  | withoutFile hlevel hlayout hname =>
    exact .setup hlevel hlayout (hformats _ hlayout) rfl (by rw [hname]; rfl) (by simp [hname])
  | withFile hlevel hlayout hname hopen =>
    have hhome := FileTree.home_of_openAppend hopen
    refine .setup hlevel hlayout (hformats _ hlayout) rfl ?_ fun other hother => ?_
    · simp [hname, Journal.fileHandler, FileTree.locate_congr hhome]
    · obtain rfl := Option.some.inj (hname.symm.trans hother)
      rw [FileTree.locate_congr hhome, hhome]
      exact FileTree.not_prefix_of_openAppend hopen

/-! ### Files that grow by lines -/

/-- From one workspace to another, the file at a location grows by a line for each of the records,
as the layout of its setup writes it. -/
def Grows (location : Location) (w later : Workspace) (calls : List (Setup × Record)) : Prop :=
  ∃ lines, List.Forall₂ (fun call line => call.1.Writes location call.2 line) calls lines ∧
    later.files.content location
      = w.files.content location ++ Utf8.encode (Text.unlines lines)

variable {later latest : Workspace} {calls others : List (Setup × Record)}

theorem grows_nil (h : later.files.content location = w.files.content location) :
    Grows location w later [] :=
  ⟨[], .nil, by rw [h]; exact (List.append_nil _).symm⟩

theorem Grows.append (h : Grows location w later calls) (hnext : Grows location later latest others) :
    Grows location w latest (calls ++ others) := by
  obtain ⟨lines, hlines, hcontent⟩ := h
  obtain ⟨more, hmore, hmoreContent⟩ := hnext
  refine ⟨lines ++ more, List.rel_append hlines hmore, ?_⟩
  rw [hmoreContent, hcontent, List.append_assoc, Text.unlines, Text.unlines, Text.unlines,
    List.flatMap_append, Utf8.encode_append]

theorem Grows.isPrefix (h : Grows location w later calls) :
    w.files.content location <+: later.files.content location := by
  obtain ⟨lines, -, hcontent⟩ := h
  exact hcontent ▸ List.prefix_append _ _

/-! ### Records -/

theorem files_put_of_stream {chunk : Sink × Text} (h : chunk.1.isFile = false) (w : Workspace) :
    (w.put chunk).files = w.files := by
  obtain ⟨_ | _, _⟩ := chunk
  · rfl
  · exact absurd h (by simp [Sink.isFile])

theorem files_foldl_put_of_streams {chunks : List (Sink × Text)}
    (h : ∀ chunk ∈ chunks, chunk.1.isFile = false) (w : Workspace) :
    (chunks.foldl put w).files = w.files := by
  induction chunks generalizing w with
  | nil => rfl
  | cons chunk rest ih =>
    obtain ⟨hchunk, hrest⟩ := List.forall_mem_cons.mp h
    exact (ih hrest _).trans (files_put_of_stream hchunk w)

/-- Without a handler for a file, records leave the files alone. -/
theorem files_log_of_streams (h : ∀ handler ∈ w.journal.handlers, handler.sink.isFile = false)
    (record : Record) : (w.log record).files = w.files := by
  refine files_foldl_put_of_streams (fun chunk hchunk => ?_) w
  obtain ⟨_ | location, text⟩ := chunk
  · rfl
  · obtain ⟨handler, hhandler, hsink⟩ := Journal.exists_of_mem_deliver_file hchunk
    exact absurd (hsink ▸ h handler hhandler) (by simp [Sink.isFile])

/-- With a handler for a stream and one for a file, a record that the threshold lets through is
appended to that file as one line. -/
theorem files_log_of_both {setup : Setup} {level : Level} {layout : Layout} {name text : Text}
    {record : Record} (hthreshold : w.journal.threshold = level)
    (hhandlers : w.journal.handlers = [setup.streamHandler level layout,
      Journal.fileHandler w.files name level layout])
    (htext : layout.write (.file (w.files.locate (.ofText name))) record = some text) :
    (w.log record).files =
      if level.orWarning ≤ record.level then
        w.files.append (w.files.locate (.ofText name)) (Utf8.encode (text ++ ['\n']))
      else w.files := by
  subst hthreshold
  -- the thresholds of both handlers let through all that the one of the journal does
  by_cases h : w.journal.Admits record
  · have hlevels : ∀ handler ∈ w.journal.handlers, handler.level = w.journal.threshold := by
      simp [hhandlers, Setup.streamHandler, Journal.fileHandler]
    have hfile : (Journal.fileHandler w.files name w.journal.threshold layout).chunk record
        = (.file (w.files.locate (.ofText name)), text ++ ['\n']) := Handler.chunk_of_write htext
    have hdeliver : w.journal.deliver record
        = [(setup.streamHandler w.journal.threshold layout).chunk record,
            (.file (w.files.locate (.ofText name)), text ++ ['\n'])] := by
      rw [Journal.deliver_of_admits hlevels (by simp [hhandlers]) h, hhandlers, ← hfile]
      rfl
    have hstream : ((setup.streamHandler w.journal.threshold layout).chunk record).1.isFile
        = false := by
      rcases Handler.sink_chunk (setup.streamHandler w.journal.threshold layout) record with
        hsink | hsink <;> rw [hsink] <;> rfl
    rw [log, hdeliver, if_pos (show w.journal.threshold.orWarning ≤ record.level from h),
      ← files_put_of_stream hstream w]
    rfl
  · rw [log, Journal.deliver, if_neg h,
      if_neg (show ¬ w.journal.threshold.orWarning ≤ record.level from h)]
    rfl

theorem dueNow_record (files : FileTree) (location : Location) (setup : Setup) (record : Record) :
    dueNow files location (some setup) (.log [record])
      = if setup.Asks files location record then [(setup, record)] else [] := by
  by_cases h : setup.Asks files location record <;> simp [dueNow, h]

/-- The file at a location grows by a line for a record just if the setup in force asks for it. -/
theorem Obeys.grows_log (h : w.Obeys inForce) (location : Location) (record : Record) :
    Grows location w (w.log record) (dueNow w.files location inForce (.log [record])) := by
  cases h with
  | nothing hstreams =>
    exact grows_nil (congrArg (·.content location) (files_log_of_streams hstreams record))
  | @setup setup level layout hlevel hlayout htotal hthreshold hhandlers hfree =>
    -- the setup may be in force without a file of its own
    cases hname : setup.fileName? with
    | none =>
      have hnot : ¬ setup.Asks w.files location record := fun h => by simp [Setup.Asks, hname] at h
      have hfiles : (w.log record).files = w.files := by
        refine files_log_of_streams (fun handler hhandler => ?_) record
        rw [hhandlers, hname] at hhandler
        exact List.mem_singleton.mp hhandler ▸ rfl
      rw [dueNow_record, if_neg hnot]
      exact grows_nil (by rw [hfiles])
    | some name =>
      obtain ⟨text, htext⟩ := htotal (.file (w.files.locate (.ofText name))) record
      have hfiles := files_log_of_both hthreshold (by rw [hhandlers, hname]; rfl) htext
      have hasks : setup.Asks w.files location record ↔
          w.files.locate (.ofText name) = location ∧ level.orWarning ≤ record.level := by
        simp [Setup.Asks, hname, hlevel]
      rw [dueNow_record]
      by_cases h : setup.Asks w.files location record
      · obtain ⟨rfl, hle⟩ := hasks.mp h
        rw [if_pos h]
        refine ⟨[text], .cons ⟨layout, hlayout, htext⟩ .nil, ?_⟩
        rw [hfiles, if_pos hle, FileTree.content_append_self (hfree name hname), Text.unlines,
          List.flatMap_singleton]
      · rw [if_neg h]
        refine grows_nil ?_
        rw [hfiles]
        split
        case isTrue hle =>
          exact FileTree.content_append_of_ne (fun heq => h (hasks.mpr ⟨heq.symm, hle⟩)) _
        case isFalse => rfl

theorem dueNow_log_cons (files : FileTree) (location : Location) (inForce : Option Setup)
    (record : Record) (records : List Record) :
    dueNow files location inForce (.log (record :: records))
      = dueNow files location inForce (.log [record])
        ++ dueNow files location inForce (.log records) := by
  cases inForce with
  | none => rfl
  | some setup =>
    simp only [dueNow]
    rw [← List.map_append, ← List.filter_append]
    rfl

theorem dueNow_congr {files otherFiles : FileTree} (h : otherFiles.home = files.home)
    (location : Location) (inForce : Option Setup) (action : Action) :
    dueNow otherFiles location inForce action = dueNow files location inForce action := by
  cases action with
  | setUp | reset => rfl
  | log records =>
    cases inForce with
    | none => rfl
    | some setup =>
      exact congrArg (List.map (setup, ·))
        (List.filter_congr fun record _ => decide_eq_decide.mpr (Setup.asks_congr h))

theorem Obeys.grows_logAll (h : w.Obeys inForce) (location : Location) (records : List Record) :
    Grows location w (w.logAll records) (dueNow w.files location inForce (.log records)) := by
  induction records generalizing w with
  | nil =>
    have hnone : dueNow w.files location inForce (.log []) = [] := by cases inForce <;> rfl
    rw [hnone]
    exact grows_nil rfl
  | cons record rest ih =>
    have hrest := ih (h.log record)
    -- a record may change the files, but not where names lead
    rw [dueNow_congr (home_log w record)] at hrest
    rw [dueNow_log_cons]
    exact (h.grows_log location record).append hrest

/-! ### Histories -/

theorem obeys_start (files : FileTree) : (start files).Obeys none :=
  .nothing fun _ h => absurd h List.not_mem_nil

theorem Obeys.after (h : w.Obeys inForce) {action : Action}
    (hformats : ∀ setup, action = .setUp setup → setup.Formats) :
    (w.after action).Obeys (w.inForceAfter inForce action) := by
  cases action with
  | setUp setup => exact obeys_after_setUp w inForce (hformats setup rfl)
  | log records => exact h.logAll records
  | reset => exact .nothing fun handler hhandler => absurd hhandler List.not_mem_nil

/-- A setup changes the content of no file. -/
theorem content_after_setUp (w : Workspace) (setup : Setup) (location : Location) :
    (w.after (.setUp setup)).files.content location = w.files.content location := by
  obtain ⟨journal, files, fault, hsets, hperform⟩ := w.exists_setsUp setup
  rw [Workspace.after, hperform]
  cases hsets with
  | withFile hlevel hlayout hname hopen => exact FileTree.content_of_openAppend hopen location
  | _ => rfl

/-- An action makes a file grow by what is due in it. -/
theorem Obeys.grows_after (h : w.Obeys inForce) (location : Location) (action : Action) :
    Grows location w (w.after action) (dueNow w.files location inForce action) := by
  cases action with
  | setUp setup => exact grows_nil (content_after_setUp w setup location)
  | log records => exact h.grows_logAll location records
  | reset => exact grows_nil rfl

/-- A history makes a file grow by what becomes due in it, and leaves a workspace that obeys. -/
theorem Obeys.grows_afterAll (h : w.Obeys inForce) {history : List Action}
    (hformats : ∀ setup, .setUp setup ∈ history → setup.Formats) (location : Location) :
    Grows location w (w.afterAll history) (due location w inForce history) ∧
      ∃ last, (w.afterAll history).Obeys last := by
  -- on the history; each action finds a workspace that obeys the setup then in force
  induction history generalizing w inForce with
  | nil => exact ⟨grows_nil rfl, inForce, h⟩
  | cons action rest ih =>
    have hafter := h.after fun setup hsetup => hformats setup (hsetup ▸ List.mem_cons_self)
    obtain ⟨hgrows, hlast⟩ :=
      ih hafter fun setup hsetup => hformats setup (List.mem_cons_of_mem action hsetup)
    exact ⟨(h.grows_after location action).append hgrows, hlast⟩

/-- **What a file holds after a history.** It is what the file held before, and then a line for each
record that was due in it, in order, as the layout of the setup in force writes it, provided that
all layouts write every record. Whatever the file holds at any time, it still holds at its front at
any later time. -/
theorem content_after_history (files : FileTree) (history : List Action) (location : Location)
    (hformats : ∀ setup, .setUp setup ∈ history → setup.Formats) :
    (∃ lines, List.Forall₂ (fun call line => call.1.Writes location call.2 line)
        (due location (start files) none history) lines ∧
      ((start files).afterAll history).files.content location
        = files.content location ++ Utf8.encode (Text.unlines lines)) ∧
    ∀ earlier later, history = earlier ++ later →
      ((start files).afterAll earlier).files.content location
        <+: ((start files).afterAll history).files.content location := by
  refine ⟨((obeys_start files).grows_afterAll hformats location).1, ?_⟩
  rintro earlier later rfl
  obtain ⟨-, inForce, hobeys⟩ := (obeys_start files).grows_afterAll
    (fun setup hsetup => hformats setup (List.mem_append_left later hsetup)) location
  rw [afterAll_append]
  exact (hobeys.grows_afterAll
    (fun setup hsetup => hformats setup (List.mem_append_right earlier hsetup)) location).1.isPrefix

/-- Two setups name one file, and a third one, which fails, stands between them. -/
theorem content_after_refused_setup_and_reset :
    let first : Setup :=
      ⟨"warning".toList, some "l".toList, some "%(levelname)-8s|%(levelno)03d %%".toList, .stderr⟩
    let refused : Setup := { first with logFile := some "l/x".toList }
    let second : Setup :=
      ⟨"NOTSET".toList, some "./l".toList, some "%(name).5s: %(message)s".toList, .stdout⟩
    let detail := Record.debug "a".toList "b".toList []
    let warning := Record.warning "a".toList "c".toList []
    let history : List Action :=
      [.setUp first, .log [detail, warning], .setUp refused, .log [warning], .setUp second,
        .log [warning, detail], .reset, .log [warning]]
    let files := FileTree.write ∅ ["l".toList] (Utf8.encode "old\n".toList)
    (∀ setup, .setUp setup ∈ history → setup.Formats) ∧
      (∃ lines, List.Forall₂ (fun call line => call.1.Writes ["l".toList] call.2 line)
          [(first, warning), (second, warning)] lines ∧
        ((start files).afterAll history).files.content ["l".toList]
          = files.content ["l".toList] ++ Utf8.encode (Text.unlines lines)) ∧
      ((start files).afterAll history).files.content ["l".toList]
        = Utf8.encode "old\nWARNING |030 %\nretro: [A] c\n".toList := by
  intro first refused second detail warning history files
  have hformats : ∀ setup, .setUp setup ∈ history → setup.Formats := by
    intro setup hsetup
    have hmem : setup ∈ [first, refused, second] := by simpa [history] using hsetup
    simp only [List.mem_cons, List.not_mem_nil, or_false] at hmem
    rcases hmem with rfl | rfl | rfl <;> exact Setup.formats_of_fits (by decide +kernel)
  have hdue : due ["l".toList] (start files) none history
      = [(first, warning), (second, warning)] := by
    let w₁ := (start files).after (.setUp first)
    let w₂ := w₁.after (.log [detail, warning])
    let w₃ := w₂.after (.setUp refused)
    let w₄ := w₃.after (.log [warning])
    let w₅ := w₄.after (.setUp second)
    have hforce : (start files).inForceAfter none (.setUp first) = some first ∧
        w₂.inForceAfter (some first) (.setUp refused) = none ∧
        w₄.inForceAfter none (.setUp second) = some second := by decide +kernel
    have hasks : ¬ first.Asks w₁.files ["l".toList] detail ∧
        first.Asks w₁.files ["l".toList] warning ∧
        second.Asks w₅.files ["l".toList] warning ∧
        ¬ second.Asks w₅.files ["l".toList] detail := by decide +kernel
    simp only [w₁, w₂, w₃, w₄, w₅] at hforce hasks
    simp only [history, due, inForceAfter_log, inForceAfter_reset, hforce, dueNow, List.filter_cons,
      hasks, decide_true, decide_false, List.filter_nil]
    rfl
  refine ⟨hformats, ?_, by decide +kernel⟩
  rw [← hdue]
  exact (content_after_history files history ["l".toList] hformats).1

end Workspace

end PropertySettings
