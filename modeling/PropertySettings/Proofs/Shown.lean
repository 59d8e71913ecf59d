import Mathlib
import PropertySettings.Proofs.Outcomes
import PropertySettings.Proofs.Runs

/-!
# What a run shows

What is written is a list of texts, each written at once: the lines of records, the usage text
(`Outcome.ShowsUsage`), the document of the settings (`Outcome.ShowsDocument`), or the lines of
their summary (`Outcome.ShowsSummary`). No text of one kind is one of another, as their first characters
tell: those of notices are a bracket or the `F` of an operation on a file, and all that is recorded
on the way to settings is notices (`Settings.isDetail_of_mem_records`).
-/

namespace PropertySettings

/-! ### What is shown -/

namespace Outcome

/-- The usage text is written. -/
def ShowsUsage (o : Outcome) : Prop :=
  (Stream.stdout, CommandLine.usageText) ∈ o.written

/-- The document of some settings is written. -/
def ShowsDocument (o : Outcome) : Prop :=
  ∃ stream, ∃ snapshot : Snapshot, (stream, snapshot.toValue.json ++ ['\n']) ∈ o.written

/-- A line of a summary of some settings is written. -/
def ShowsSummary (o : Outcome) : Prop :=
  ∃ stream, ∃ snapshot : Snapshot,
    ∃ record ∈ Record.configuration snapshot.summary, Journal.line stream record ∈ o.written

end Outcome

/-! ### How texts begin -/

/-- A message with a tag, or one about an operation on a file, as their first characters tell. -/
def Record.IsNotice (record : Record) : Prop :=
  record.message.head? = some '[' ∨ record.message.head? = some 'F'

theorem Record.isNotice_error (area message context : Text) (incident : Option Incident) :
    (error area message context incident).IsNotice :=
  .inl rfl

theorem Record.isNotice_warning (area message context : Text) :
    (warning area message context).IsNotice :=
  .inl rfl

theorem Record.head?_plain {record : Record} {c : Char} (h : record.message.head? = some c) :
    (record.plain ++ ['\n']).head? = some c := by
  have hplain : record.plain.head? = some c := by
    unfold plain
    split
    · exact h
    · split <;> simp [h]
  rw [List.head?_append, hplain, Option.some_or]

/-- The labels of a summary in order. -/
def summaryLabels : List Text :=
  ["Bytecode version".toList, "Default methods".toList, "Input directory".toList,
    "Output directory".toList, "Classpath".toList, "Included files".toList, "Javac hacks".toList]

theorem Snapshot.names_summary (snapshot : Snapshot) : snapshot.summary.names = summaryLabels := rfl

theorem Snapshot.exists_mem_configuration (snapshot : Snapshot) :
    ∃ record, record ∈ Record.configuration snapshot.summary :=
  ⟨_, List.mem_cons_self⟩

/-- The first characters of the labels. -/
def summaryInitials : List Char := ['B', 'D', 'I', 'O', 'C', 'I', 'J']

theorem Snapshot.head?_of_mem_configuration {snapshot : Snapshot} {record : Record}
    (h : record ∈ Record.configuration snapshot.summary) :
    ∃ c ∈ summaryInitials, record.message.head? = some c := by
  have hinitials : (Record.configuration snapshot.summary).map (·.message.head?)
      = summaryInitials.map some := rfl
  have hmem := List.mem_map_of_mem (f := (·.message.head?)) h
  rw [hinitials] at hmem
  obtain ⟨c, hc, heq⟩ := List.mem_map.mp hmem
  exact ⟨c, hc, heq.symm⟩

namespace Outcome

/-- Every text that is written begins with one of some characters. -/
def BeginsIn (initials : List Char) (written : List (Stream × Text)) : Prop :=
  ∀ chunk ∈ written, ∃ c ∈ initials, chunk.2.head? = some c

variable {initials : List Char} {first second written : List (Stream × Text)}

theorem BeginsIn.append (hfirst : BeginsIn initials first) (hsecond : BeginsIn initials second) :
    BeginsIn initials (first ++ second) :=
  List.forall_mem_append.mpr ⟨hfirst, hsecond⟩

theorem BeginsIn.mono {others : List Char} (h : BeginsIn initials written)
    (hsub : initials ⊆ others) : BeginsIn others written := by
  intro chunk hmem
  obtain ⟨c, hc, heq⟩ := h chunk hmem
  exact ⟨c, hsub hc, heq⟩

theorem beginsIn_singleton {stream : Stream} {text : Text} {c : Char} (hc : c ∈ initials)
    (h : text.head? = some c) : BeginsIn initials [(stream, text)] := by
  intro chunk hmem
  rw [List.mem_singleton.mp hmem]
  exact ⟨c, hc, h⟩

/-- The lines of notices begin as notices do. -/
theorem beginsIn_lines {stream : Stream} {threshold : Level} {records : List Record}
    (h : ∀ record ∈ records, record.IsNotice) :
    BeginsIn ['[', 'F'] (Journal.lines stream threshold records) := by
  intro chunk hmem
  obtain ⟨record, hrecord, rfl⟩ := Journal.exists_of_mem_lines hmem
  rcases h record hrecord with hhead | hhead
  · exact ⟨'[', by decide, Record.head?_plain hhead⟩
  · exact ⟨'F', by decide, Record.head?_plain hhead⟩

theorem beginsIn_summary (stream : Stream) (snapshot : Snapshot) :
    BeginsIn summaryInitials
      ((Record.configuration snapshot.summary).map (Journal.line stream)) := by
  intro chunk hmem
  obtain ⟨record, hrecord, rfl⟩ := List.mem_map.mp hmem
  obtain ⟨c, hc, hhead⟩ := Snapshot.head?_of_mem_configuration hrecord
  exact ⟨c, hc, Record.head?_plain hhead⟩

variable {o : Outcome}

theorem not_showsUsage (h : BeginsIn initials o.written) (hnot : 'U' ∉ initials) :
    ¬ o.ShowsUsage := by
  intro hmem
  obtain ⟨c, hc, heq⟩ := h _ hmem
  have hhead : CommandLine.usageText.head? = some 'U' := rfl
  exact hnot (Option.some.inj (hhead.symm.trans heq) ▸ hc)

theorem not_showsDocument (h : BeginsIn initials o.written) (hnot : '\x7b' ∉ initials) :
    ¬ o.ShowsDocument := by
  rintro ⟨stream, snapshot, hmem⟩
  obtain ⟨c, hc, heq⟩ := h _ hmem
  have hhead : (snapshot.toValue.json ++ ['\n']).head? = some '\x7b' := rfl
  exact hnot (Option.some.inj (hhead.symm.trans heq) ▸ hc)

theorem not_showsSummary (h : BeginsIn initials o.written)
    (hnot : summaryInitials.all (· ∉ initials)) : ¬ o.ShowsSummary := by
  rintro ⟨stream, snapshot, record, hrecord, hmem⟩
  obtain ⟨c, hc, heq⟩ := h _ hmem
  obtain ⟨d, hd, hhead⟩ := Snapshot.head?_of_mem_configuration hrecord
  have hcd : d = c := Option.some.inj ((Record.head?_plain hhead).symm.trans heq)
  exact of_decide_eq_true (List.all_eq_true.mp hnot d hd) (hcd ▸ hc)

end Outcome

/-! ### The records of settings -/

/-- A notice of a detail. -/
def Record.IsDetail (record : Record) : Prop :=
  record.level = .debug ∧ record.IsNotice

theorem Record.isDetail_debug (area message context : Text) :
    (debug area message context).IsDetail :=
  ⟨rfl, .inl rfl⟩

theorem Record.isDetail_fileDone (operation path : Text) : (fileDone operation path).IsDetail :=
  ⟨rfl, .inr rfl⟩

theorem PathList.isDetail_of_mem_records {files : FileTree} {properties : PropertySet}
    {key fileKey separator : Text} :
    ∀ record ∈ (resolve files properties key fileKey separator).records, record.IsDetail := by
  have hnote : ∀ {r : Record}, r.IsDetail → ∀ record ∈ (Traced.note r).records, record.IsDetail :=
    fun hr record hmem => List.mem_singleton.mp hmem ▸ hr
  unfold resolve
  split
  · exact Traced.forall_mem_records_map (by simp [Traced.ofExcept])
  · split
    · refine Traced.forall_mem_records_bind (hnote (Record.isDetail_debug ..)) fun _ => ?_
      refine Traced.forall_mem_records_map ?_
      refine Traced.forall_mem_records_bind (by simp [Traced.ofExcept]) fun text => ?_
      exact Traced.forall_mem_records_bind (hnote (Record.isDetail_fileDone ..)) fun _ => by
        simp [pure, Traced.answer]
    · simp [pure, Traced.answer]

/-- All that is recorded on the way to the settings is details. -/
theorem Settings.isDetail_of_mem_records {settings : Settings} {files : FileTree} :
    ∀ record ∈ (settings.resolve files).records, record.IsDetail := by
  have hinput : ∀ record ∈ settings.inputDir.records, record.IsDetail := by
    unfold inputDir
    split <;> simp [pure, Traced.answer, Traced.fail]
  have houtput : ∀ record ∈ settings.outputDir.records, record.IsDetail := by
    unfold outputDir
    split
    · simp [pure, Traced.answer]
    · exact Traced.forall_mem_records_bind
        (fun record hmem => List.mem_singleton.mp hmem ▸ Record.isDetail_debug ..) fun _ => hinput
  have hpaths : ∀ record ∈ (settings.classpath files).records, record.IsDetail := by
    refine Traced.forall_mem_records_bind PathList.isDetail_of_mem_records fun paths => ?_
    cases paths <;> simp [pure, Traced.answer, Traced.fail]
  refine Traced.forall_mem_records_bind (by simp [bytecodeVersion, Traced.ofExcept]) fun _ => ?_
  refine Traced.forall_mem_records_bind hinput fun _ => ?_
  refine Traced.forall_mem_records_bind houtput fun _ => ?_
  refine Traced.forall_mem_records_bind hpaths fun _ => ?_
  refine Traced.forall_mem_records_bind PathList.isDetail_of_mem_records fun _ => ?_
  simp [pure, Traced.answer]

namespace CommandLine

/-! ### What notices and reports show -/

variable {files : FileTree} {a : Arguments} {level : Level}

/-- The lines for keys that are missing: one for each, or none. -/
theorem lines_missingRecord {stream : Stream} (keys : List Text) :
    Journal.lines stream level (keys.map missingRecord)
      = if level ≤ .warning then keys.map fun key => Journal.line stream (missingRecord key)
        else [] := by
  have hlevel : ∀ record ∈ keys.map missingRecord, record.level = .warning :=
    List.forall_mem_map.mpr fun _ _ => rfl
  rw [Journal.lines_of_level hlevel, List.map_map]
  rfl

/-- The lines for what is recorded on the way to settings: all of them, or none. -/
theorem lines_resolve {stream : Stream} (settings : Settings) :
    Journal.lines stream level (settings.resolve files).records
      = if level ≤ .debug then (settings.resolve files).records.map (Journal.line stream)
        else [] :=
  Journal.lines_of_level fun record hmem => (Settings.isDetail_of_mem_records record hmem).1

variable {o : Outcome} {stream : Stream} {records : List Record}

/-- Notices show none of the three. -/
theorem not_shows_of_notices (h : ∀ record ∈ records, record.IsNotice)
    (hwritten : o.written = Journal.lines stream level records) :
    ¬ o.ShowsUsage ∧ ¬ o.ShowsDocument ∧ ¬ o.ShowsSummary := by
  have hbegins : Outcome.BeginsIn ['[', 'F'] o.written := hwritten ▸ Outcome.beginsIn_lines h
  exact ⟨Outcome.not_showsUsage hbegins (by decide), Outcome.not_showsDocument hbegins (by decide),
    Outcome.not_showsSummary hbegins (by decide)⟩

/-- Behind notices the usage text is shown once, and nothing else. -/
theorem shows_of_notices_and_usage (h : ∀ record ∈ records, record.IsNotice)
    (hwritten : o.written = Journal.lines stream level records ++ [(.stdout, usageText)]) :
    o.written.count (.stdout, usageText) = 1 ∧ ¬ o.ShowsDocument ∧ ¬ o.ShowsSummary := by
  have hnotices : Outcome.BeginsIn ['[', 'F'] (Journal.lines stream level records) :=
    Outcome.beginsIn_lines h
  have hbegins : Outcome.BeginsIn ['U', '[', 'F'] o.written :=
    hwritten ▸ (hnotices.mono (by decide)).append (Outcome.beginsIn_singleton (by decide) rfl)
  refine ⟨?_, Outcome.not_showsDocument hbegins (by decide),
    Outcome.not_showsSummary hbegins (by decide)⟩
  have hnone : (Stream.stdout, usageText) ∉ Journal.lines stream level records := by
    intro hmem
    obtain ⟨c, hc, hhead⟩ := hnotices _ hmem
    obtain rfl : 'U' = c := Option.some.inj hhead
    exact absurd hc (by decide)
  rw [hwritten, List.count_append, List.count_eq_zero.mpr hnone, List.count_singleton_self]

/-- Behind notices settings are shown by their document or by their summary, or not at all. -/
theorem shows_of_notices_and_report {snapshot : Snapshot} (h : ∀ record ∈ records, record.IsNotice)
    (hwritten : o.written
      = Journal.lines stream level records ++ reportTexts a level snapshot) :
    ¬ o.ShowsUsage ∧ (o.ShowsDocument ↔ a.json = true) ∧
      (o.ShowsSummary ↔ a.json = false ∧ snapshot.quiet = false ∧ level ≤ .info) := by
  have hnotices : Outcome.BeginsIn ['[', 'F'] (Journal.lines stream level records) :=
    Outcome.beginsIn_lines h
  rw [reportTexts] at hwritten
  split at hwritten
  case isTrue hjson =>
    have hbegins : Outcome.BeginsIn ['\x7b', '[', 'F'] o.written :=
      hwritten ▸ (hnotices.mono (by decide)).append (Outcome.beginsIn_singleton (by decide) rfl)
    have hdocument : o.ShowsDocument :=
      ⟨.stdout, snapshot, hwritten ▸ List.mem_append_right _ (List.mem_singleton_self _)⟩
    have hsummary := Outcome.not_showsSummary hbegins (by decide)
    exact ⟨Outcome.not_showsUsage hbegins (by decide), iff_of_true hdocument hjson,
      iff_of_false hsummary fun hcond => by simp [hjson] at hcond⟩
  case isFalse hjson =>
    rw [Bool.not_eq_true] at hjson
    have hnot : ¬ a.json = true := by simp [hjson]
    split at hwritten
    case isTrue hcond =>
      have hbegins : Outcome.BeginsIn (['[', 'F'] ++ summaryInitials) o.written :=
        hwritten ▸ (hnotices.mono (by decide)).append
          ((Outcome.beginsIn_summary .stdout snapshot).mono (by decide))
      obtain ⟨record, hrecord⟩ := snapshot.exists_mem_configuration
      have hsummary : o.ShowsSummary :=
        ⟨.stdout, snapshot, record, hrecord,
          hwritten ▸ List.mem_append_right _ (List.mem_map_of_mem hrecord)⟩
      exact ⟨Outcome.not_showsUsage hbegins (by decide),
        iff_of_false (Outcome.not_showsDocument hbegins (by decide)) hnot,
        iff_of_true hsummary ⟨hjson, hcond⟩⟩
    case isFalse hcond =>
      rw [List.append_nil] at hwritten
      obtain ⟨husage, hdocument, hsummary⟩ := not_shows_of_notices h hwritten
      exact ⟨husage, iff_of_false hdocument hnot, iff_of_false hsummary fun h => hcond h.2⟩

end CommandLine

end PropertySettings
