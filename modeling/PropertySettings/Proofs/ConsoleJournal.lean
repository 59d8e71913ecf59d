import Mathlib
import PropertySettings.Journal.Configuration
import PropertySettings.Workspace

/-!
# Journals with a console handler

A setup without a log file and a format leaves the journal with one handler, which writes plain
lines to a stream (`Workspace.setUp_console`). A journal that writes such lines touches neither files
nor itself: what records come to is their lines on that stream, in order, except of those below its
threshold (`Workspace.logAll_of_deliversLines`).
-/

namespace PropertySettings

/-! ### Plain lines -/

/-- The record written plainly: its message, and the incident on lines of its own. -/
def Record.plain (record : Record) : Text :=
  match record.incident with
  | none => record.message
  | some incident =>
    (if record.message.getLast? = some '\n' then record.message else record.message ++ ['\n'])
      ++ incident.text record.circumstances.calls

/-- The directive that stands for the message. -/
def Directive.message : Directive :=
  ⟨some "message".toList, [], 0, none, 's'⟩

theorem Directive.fill_message (record : Record) (sink : Sink) (timed : Bool) :
    message.fill (record.fields sink timed) = some record.message := by
  show some (List.replicate (0 - record.message.length) ' ' ++ record.message) = _
  rw [Nat.zero_sub, List.replicate_zero, List.nil_append]

theorem Layout.plain_eq : plain = [.directive .message] := rfl

theorem Layout.line?_plain (sink : Sink) (record : Record) :
    plain.line? sink record = some record.message := by
  have hfill (timed : Bool) :
      plain.mapM (fill (record.fields sink timed)) = some [record.message] := by
    rw [plain_eq, List.mapM_cons, fill, Directive.fill_message]
    rfl
  rw [line?, if_pos (by decide), hfill]
  simp

/-- The plain layout writes every record, and nothing but its message and incident. -/
theorem Layout.write_plain (sink : Sink) (record : Record) :
    plain.write sink record = some record.plain := by
  rw [write, line?_plain, Record.plain]
  cases record.incident <;> rfl

/-- With the plain layout a handler writes every record as a line. -/
theorem Handler.chunk_of_plain {handler : Handler} (h : handler.layout = Layout.plain)
    (record : Record) : handler.chunk record = (handler.sink, record.plain ++ ['\n']) := by
  rw [chunk, h, Layout.write_plain]

/-! ### Records for labelled values -/

/-- Values that all have a text are told to the end. -/
theorem Record.tell_of_hasText {settings : Assignments Text Value}
    (h : ∀ entry ∈ settings.toList, entry.2.hasText = true) :
    tell settings = ⟨configuration settings, .ok ()⟩ := by
  have hwhole : settings.toList.takeWhile (·.2.hasText) = settings.toList :=
    List.takeWhile_eq_self_iff.mpr h
  refine Traced.ext ?_ ?_
  · rw [records_tell, hwhole, configuration]
  · rw [outcome_tell, if_pos (List.all_eq_true.mpr h)]

theorem Record.level_of_mem_configuration {settings : Assignments Text Value} :
    ∀ record ∈ configuration settings, record.level = .info := by
  intro record hmem
  obtain ⟨entry, -, rfl⟩ := List.mem_map.mp hmem
  rfl

/-- Of records of one level, a test of the level lets all through or none. -/
theorem Record.filter_of_level {p : Level → Prop} [DecidablePred p] {level : Level}
    {records : List Record} (h : ∀ record ∈ records, record.level = level) :
    records.filter (p ·.level) = if p level then records else [] := by
  have htest : ∀ record ∈ records, (decide (p record.level) = true ↔ p level) :=
    fun record hmem => h record hmem ▸ decide_eq_true_iff
  split
  case isTrue hp => exact List.filter_eq_self.mpr fun record hmem => (htest record hmem).mpr hp
  case isFalse hnot =>
    exact List.filter_eq_nil_iff.mpr fun record hmem => mt (htest record hmem).mp hnot

/-! ### The journal -/

namespace Journal

/-- The journal that writes plain lines to a stream. -/
def console (stream : Stream) (threshold : Level) : Journal :=
  ⟨true, threshold, [⟨.stream stream, threshold, Layout.plain⟩], false⟩

/-- The line for a record on a stream. -/
def line (stream : Stream) (record : Record) : Stream × Text :=
  (stream, record.plain ++ ['\n'])

/-- The lines for the records that a threshold lets through. -/
def lines (stream : Stream) (threshold : Level) (records : List Record) : List (Stream × Text) :=
  (records.filter (threshold ≤ ·.level)).map (line stream)

variable {stream : Stream} {threshold : Level} {records : List Record} {record : Record}

theorem lines_append (first second : List Record) :
    lines stream threshold (first ++ second)
      = lines stream threshold first ++ lines stream threshold second := by
  rw [lines, List.filter_append, List.map_append, lines, lines]

theorem lines_cons (record : Record) (records : List Record) :
    lines stream threshold (record :: records)
      = lines stream threshold [record] ++ lines stream threshold records :=
  lines_append [record] records

/-- Records of one level are written all or none. -/
theorem lines_of_level {level : Level} (h : ∀ record ∈ records, record.level = level) :
    lines stream threshold records
      = if threshold ≤ level then records.map (line stream) else [] := by
  rw [lines, Record.filter_of_level h]
  split <;> rfl

theorem exists_of_mem_lines {chunk : Stream × Text} (h : chunk ∈ lines stream threshold records) :
    ∃ record ∈ records, chunk = line stream record := by
  obtain ⟨record, hmem, rfl⟩ := List.mem_map.mp h
  exact ⟨record, (List.mem_filter.mp hmem).1, rfl⟩

/-- All that the journal writes for a record is its line on the stream, if the threshold lets it
through. -/
def DeliversLines (journal : Journal) (stream : Stream) (threshold : Level) : Prop :=
  ∀ record, journal.deliver record
    = (lines stream threshold [record]).map fun chunk => (.stream chunk.1, chunk.2)

theorem deliversLines_console (hset : threshold ≠ .notSet) :
    (console stream threshold).DeliversLines stream threshold := by
  intro record
  -- only a threshold that is not set is replaced by another one
  have hforce : threshold.orWarning = threshold := by cases threshold <;> trivial
  rw [deliver, lines]
  by_cases hle : threshold ≤ record.level
  · have hadmits : (console stream threshold).Admits record := by
      rw [Admits, console, hforce]
      exact hle
    rw [if_pos hadmits]
    simp [console, Handler.chunk?, hle, Handler.chunk_of_plain, line]
  · have hnot : ¬ (console stream threshold).Admits record := by
      rw [Admits, console, hforce]
      exact hle
    simp [hnot, hle]

end Journal

/-! ### The workspace -/

namespace Workspace

variable {stream : Stream} {threshold : Level}

theorem foldl_put_stream (chunks : List (Stream × Text)) (w : Workspace) :
    (chunks.map fun chunk => (Sink.stream chunk.1, chunk.2)).foldl put w
      = { w with written := w.written ++ chunks } := by
  induction chunks generalizing w with
  | nil => simp
  | cons chunk rest ih =>
    rw [List.map_cons, List.foldl_cons, ih]
    simp [put, print]

theorem log_of_deliversLines {w : Workspace} (h : w.journal.DeliversLines stream threshold)
    (record : Record) :
    w.log record = { w with written := w.written ++ Journal.lines stream threshold [record] } := by
  rw [log, h record, foldl_put_stream]

/-- **What records come to.** Where a journal writes lines to a stream, it is these lines and nothing
else. -/
theorem logAll_of_deliversLines {w : Workspace} (h : w.journal.DeliversLines stream threshold)
    (records : List Record) :
    w.logAll records = { w with written := w.written ++ Journal.lines stream threshold records } := by
  -- each record adds to what is written, while files and journal stay
  induction records generalizing w with
  | nil => simp [logAll, Journal.lines]
  | cons record rest ih =>
    have hlog := log_of_deliversLines h record
    have hrest : (w.log record).journal.DeliversLines stream threshold := by rwa [hlog]
    calc w.logAll (record :: rest)
        = (w.log record).logAll rest := rfl
      _ = { w with written := w.written ++ Journal.lines stream threshold [record]
              ++ Journal.lines stream threshold rest } := by rw [ih hrest, hlog]
      _ = _ := by rw [List.append_assoc, ← Journal.lines_cons]

theorem log_console (hset : threshold ≠ .notSet) (files : FileTree) (written : List (Stream × Text))
    (record : Record) :
    (⟨files, .console stream threshold, written⟩ : Workspace).log record
      = ⟨files, .console stream threshold,
          written ++ Journal.lines stream threshold [record]⟩ :=
  log_of_deliversLines (Journal.deliversLines_console hset) record

theorem logAll_console (hset : threshold ≠ .notSet) (files : FileTree)
    (written : List (Stream × Text)) (records : List Record) :
    (⟨files, .console stream threshold, written⟩ : Workspace).logAll records
      = ⟨files, .console stream threshold,
          written ++ Journal.lines stream threshold records⟩ :=
  logAll_of_deliversLines (Journal.deliversLines_console hset) records

/-- A setup by level and stream alone gives a console journal, whatever the journal was before. -/
theorem setUp_console {w : Workspace} {word : Text} (h : Level.ofName? word = some threshold) :
    (w.setUp ⟨word, none, none, stream⟩).1 = { w with journal := .console stream threshold } := by
  have hlevel : Journal.levelNamed word = .ok threshold := by rw [Journal.levelNamed, h]
  have hplain : Layout.ofText? (Journal.Setup.formatText ⟨word, none, none, stream⟩)
      = some Layout.plain := rfl
  simp only [setUp, Journal.setUp, hlevel, hplain]
  rfl

end Workspace

end PropertySettings
