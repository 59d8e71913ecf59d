import Mathlib
import PropertySettings.Proofs.Assignments
import PropertySettings.Proofs.Document
import PropertySettings.Proofs.PathLists
import PropertySettings.Proofs.Pieces
import PropertySettings.Proofs.Rebuilding
import PropertySettings.Proofs.Shown

/-!
# All files, or those of a list

Whether all files are processed, or those of a list that may be empty, is told by whether a property
for them is given, and never by what is given: an empty list is a list. This holds where the list is
resolved (`Settings.outcome_includedFiles_eq_ok_none_iff`), for the document, in which all files are
null and a list is a list (`Snapshot.shownFiles_eq_null_iff`), and for the summary, which says "all"
or tells a number (`Snapshot.toldFiles_eq_all_iff`), so for a whole run
(`CommandLine.all_files_iff_not_given`).
-/

namespace PropertySettings

/-! ### Lists without paths -/

/-- Folding leaves line feeds only just if there was nothing but new lines. -/
theorem Text.forall_mem_foldBreaks_iff {t : Text} :
    (∀ c ∈ foldBreaks t, c = '\n') ↔ ∀ c ∈ t, IsNewline c := by
  refine ⟨?_, foldBreaks_of_newlines⟩
  fun_induction foldBreaks t with
  | case1 => simp
  | case2 rest ih =>
    intro h
    have hrest := ih fun c hc => h c (List.mem_cons_of_mem _ hc)
    exact List.forall_mem_cons.mpr ⟨.inl rfl, List.forall_mem_cons.mpr ⟨.inr rfl, hrest⟩⟩
  | case3 c rest _ ih =>
    intro h
    obtain ⟨hc, hrest⟩ := List.forall_mem_cons.mp h
    refine List.forall_mem_cons.mpr ⟨?_, ih hrest⟩
    by_cases hreturn : c = '\r'
    · exact .inl hreturn
    · exact .inr (by rwa [if_neg hreturn] at hc)

namespace PathList

variable {files : FileTree} {properties : PropertySet} {key fileKey separator value : Text}

theorem ofPieces_eq_nil_iff {pieces : List Text} :
    ofPieces pieces = [] ↔ ∀ piece ∈ pieces, piece = [] := by
  simp [ofPieces, List.filter_eq_nil_iff]

/-- There are no paths between separators just if there are separators only. -/
theorem ofPieces_pieces_eq_nil_iff (h : separator ≠ []) :
    ofPieces (Text.pieces separator value) = [] ↔
      ∃ n, value = (List.replicate n separator).flatten := by
  rw [ofPieces_eq_nil_iff, Text.pieces_eq_nil_iff h]

/-- A list file has no paths just if all its lines are empty. -/
theorem ofLines_foldBreaks_eq_nil_iff :
    ofLines (Text.foldBreaks value) = [] ↔ ∀ c ∈ value, IsNewline c := by
  rw [← Text.forall_mem_foldBreaks_iff, ofLines,
    ofPieces_pieces_eq_nil_iff (List.cons_ne_nil _ _)]
  simp only [List.flatten_replicate_singleton, List.eq_replicate_iff]
  exact ⟨fun ⟨_, _, h⟩ => h, fun h => ⟨_, rfl, h⟩⟩

end PathList

/-! ### The files to process -/

namespace Settings

variable {settings : Settings} {files : FileTree} {values : Assignments Text Text}

/-- Neither property for the files to process is given. -/
def Unfiltered (settings : Settings) : Prop :=
  settings.properties.value? Property.includedFiles = none ∧
    settings.properties.value? Property.includedFilesFile = none

/-- **All files are processed just if neither property for them is given.** -/
theorem outcome_includedFiles_eq_ok_none_iff :
    (settings.includedFiles files).outcome = .ok none ↔ settings.Unfiltered :=
  PathList.outcome_resolve_eq_ok_none_iff

theorem includedFiles_eq_none_iff {snapshot : Snapshot}
    (h : (settings.resolve files).outcome = .ok snapshot) :
    snapshot.includedFiles = none ↔ settings.Unfiltered := by
  obtain ⟨-, -, -, -, hfiles, -⟩ := resolve_eq_ok_iff.mp h
  rw [← outcome_includedFiles_eq_ok_none_iff, hfiles, Except.ok.injEq]

theorem unfiltered_ofProperties_ofValues :
    (ofProperties (.ofValues values)).Unfiltered ↔
      Property.includedFiles ∉ values.names ∧ Property.includedFilesFile ∉ values.names := by
  rw [Unfiltered, ofProperties, PropertySet.value?_ofValues, PropertySet.value?_ofValues,
    Assignments.get?_eq_none_iff, Assignments.get?_eq_none_iff]

/-- Where a property for them is given, the files to process are those of a list, or there is no
telling them, because the separator is empty or the list file cannot be read. -/
theorem exists_paths_or_failure (h : ¬ settings.Unfiltered) :
    (∃ paths, (settings.includedFiles files).outcome = .ok (some paths)) ∨
    ∃ failure, (settings.includedFiles files).outcome = .error failure ∧
      ((settings.separator = [] ∧ failure = .emptySeparator) ∨
        (settings.properties.value? Property.includedFiles = none ∧
          ∃ file, settings.properties.value? Property.includedFilesFile = some file ∧
            files.readText (.ofText file) = .error failure)) := by
  cases htold : (settings.includedFiles files).outcome with
  | error failure => exact .inr ⟨failure, rfl, PathList.outcome_resolve_eq_error htold⟩
  | ok told =>
    cases told with
    | none => exact absurd (outcome_includedFiles_eq_ok_none_iff.mp htold) h
    | some paths => exact .inl ⟨paths, rfl⟩

/-- The empty list comes from an inline list of separators only, or from a list file of empty lines
only. -/
theorem outcome_includedFiles_eq_ok_nil_iff :
    (∀ value, settings.properties.value? Property.includedFiles = some value →
      settings.separator ≠ [] →
      ((settings.includedFiles files).outcome = .ok (some []) ↔
        ∃ n, value = (List.replicate n settings.separator).flatten)) ∧
    (∀ file content, settings.properties.value? Property.includedFiles = none →
      settings.properties.value? Property.includedFilesFile = some file →
      files.Holds (.ofText file) content →
      ((settings.includedFiles files).outcome = .ok (some []) ↔ ∀ c ∈ content, IsNewline c)) := by
  constructor
  · intro value hvalue hsep
    rw [← PathList.ofPieces_pieces_eq_nil_iff hsep, includedFiles,
      PathList.outcome_resolve_of_inline hsep hvalue]
    simp
  · intro file content hnone hfile hholds
    rw [← PathList.ofLines_foldBreaks_eq_nil_iff, includedFiles,
      PathList.outcome_resolve_of_listed hnone hfile hholds]
    simp

end Settings

/-! ### What is shown of them -/

namespace Snapshot

variable {snapshot : Snapshot}

/-- The files to process as the document shows them. -/
def shownFiles (snapshot : Snapshot) : Value :=
  match snapshot.includedFiles with
  | none => .null
  | some paths => pathValues paths

/-- The files to process as the summary tells them. -/
def toldFiles (snapshot : Snapshot) : Text :=
  match snapshot.includedFiles with
  | none => "all".toList
  | some paths => Numeral.ofNat paths.length

theorem field?_toValue :
    snapshot.toValue.field? "included_files".toList = some snapshot.shownFiles := rfl

theorem shownFiles_of_some {paths : List Path} (h : snapshot.includedFiles = some paths) :
    snapshot.shownFiles = pathValues paths := by
  rw [shownFiles, h]

theorem toldFiles_of_some {paths : List Path} (h : snapshot.includedFiles = some paths) :
    snapshot.toldFiles = Numeral.ofNat paths.length := by
  rw [toldFiles, h]

theorem shownFiles_eq_null_iff : snapshot.shownFiles = .null ↔ snapshot.includedFiles = none := by
  rw [shownFiles]
  cases snapshot.includedFiles <;> simp [pathValues]

/-- No number is told as "all". -/
theorem toldFiles_eq_all_iff :
    snapshot.toldFiles = "all".toList ↔ snapshot.includedFiles = none := by
  rw [toldFiles]
  cases snapshot.includedFiles with
  | none => simp
  | some paths =>
    refine iff_of_false (fun heq => ?_) (Option.some_ne_none _)
    have hall : Numeral.ofNat paths.length = "all".toList := heq
    have hdigits := Numeral.all_isDigit_ofNat paths.length
    rw [hall] at hdigits
    exact absurd hdigits (by decide)

end Snapshot

namespace Outcome

variable {initials : List Char} {written : List (Stream × Text)}

/-- The line of a summary that tells the files to process. -/
def isFilesLine (chunk : Stream × Text) : Bool :=
  "Included files:".toList.isPrefixOf chunk.2

theorem filter_isFilesLine_of_beginsIn (h : BeginsIn initials written) (hnot : 'I' ∉ initials) :
    written.filter isFilesLine = [] := by
  rw [List.filter_eq_nil_iff]
  intro chunk hmem hline
  obtain ⟨c, hc, hhead⟩ := h chunk hmem
  obtain ⟨rest, hrest⟩ := List.isPrefixOf_iff_prefix.mp hline
  rw [← hrest] at hhead
  obtain rfl : 'I' = c := Option.some.inj hhead
  exact hnot hc

/-- A summary has one line that tells the files to process. -/
theorem filter_isFilesLine_summary (snapshot : Snapshot) :
    ((Record.configuration snapshot.summary).map (Journal.line .stdout)).filter isFilesLine
      = [(.stdout, "Included files:   ".toList ++ snapshot.toldFiles ++ ['\n'])] := by
  obtain ⟨_, _, _, _, _, _ | _, _, _⟩ := snapshot <;> rfl

end Outcome

/-! ### Runs -/

namespace CommandLine

variable {a : Arguments} {level : Level} {snapshot : Snapshot}

/-- The summary has a line that tells the files to process, and the document has none. -/
theorem filter_isFilesLine_reportTexts :
    (reportTexts a level snapshot).filter Outcome.isFilesLine
      = if a.json = false ∧ snapshot.quiet = false ∧ level ≤ .info then
          [(.stdout, "Included files:   ".toList ++ snapshot.toldFiles ++ ['\n'])]
        else [] := by
  rw [reportTexts]
  cases a.json with
  | true =>
    have hbegins : Outcome.BeginsIn ['\x7b'] [(Stream.stdout, snapshot.toValue.json ++ ['\n'])] :=
      Outcome.beginsIn_singleton (by decide) rfl
    simpa using Outcome.filter_isFilesLine_of_beginsIn hbegins (by decide)
  | false =>
    by_cases hprinted : snapshot.quiet = false ∧ level ≤ .info
    · simp only [hprinted, and_self, Bool.false_eq_true, if_false, if_true]
      exact Outcome.filter_isFilesLine_summary snapshot
    · simp [hprinted]

/-- Notices have no line that tells the files to process. -/
theorem filter_isFilesLine_of_notices {o : Outcome} {stream : Stream} {records : List Record}
    (h : ∀ record ∈ records, record.IsNotice)
    (hwritten : o.written = Journal.lines stream level records ++ reportTexts a level snapshot) :
    o.written.filter Outcome.isFilesLine
      = (reportTexts a level snapshot).filter Outcome.isFilesLine := by
  have hnotices : Outcome.BeginsIn ['[', 'F'] (Journal.lines stream level records) :=
    Outcome.beginsIn_lines h
  rw [hwritten, List.filter_append,
    Outcome.filter_isFilesLine_of_beginsIn hnotices (by decide), List.nil_append]

/-- On the standard output a run that is asked for a document has the document only. -/
theorem textOn_stdout_of_document {o : Outcome} {records : List Record} (hjson : a.json = true)
    (hwritten : o.written
      = Journal.lines (journalStream a) level records ++ reportTexts a level snapshot) :
    o.textOn .stdout = snapshot.toValue.json ++ ['\n'] := by
  have hstream : journalStream a = .stderr := by rw [journalStream, hjson]; rfl
  have hreport : reportTexts a level snapshot = [(.stdout, snapshot.toValue.json ++ ['\n'])] := by
    rw [reportTexts, hjson]; rfl
  rw [hstream, hreport] at hwritten
  exact Outcome.textOn_of_lines (by decide) hwritten

/-- **No filter is not an empty filter.** The files to process are all files just if neither property
for them is given, absent and null being the same. Otherwise they are those of a list, or there is no
telling them. The list is empty for an inline value of separators only, and for a list file of empty
lines only.

In a run that reports settings, all files are told just if neither key is among the collected
properties: the document has null for them, and the summary, if there is one, says "all". Otherwise
the document has the list, which may be empty, and the summary its length. -/
theorem all_files_iff_not_given (files : FileTree) :
    (∀ settings : Settings,
      let told := (settings.includedFiles files).outcome
      let inline := settings.properties.value? Property.includedFiles
      let listed := settings.properties.value? Property.includedFilesFile
      let unfiltered := inline = none ∧ listed = none
      (told = .ok none ↔ unfiltered) ∧
      (¬ unfiltered →
        (∃ paths, told = .ok (some paths)) ∨
        ∃ failure, told = .error failure ∧
          ((settings.separator = [] ∧ failure = .emptySeparator) ∨
            (inline = none ∧ ∃ file, listed = some file ∧
              files.readText (.ofText file) = .error failure))) ∧
      (∀ value, inline = some value → settings.separator ≠ [] →
        (told = .ok (some []) ↔ ∃ n, value = (List.replicate n settings.separator).flatten)) ∧
      (∀ file content, inline = none → listed = some file →
        files.Holds (.ofText file) content →
        (told = .ok (some []) ↔ ∀ c ∈ content, IsNewline c))) ∧
    ∀ arguments a e, Arguments.read arguments = .ok a → a.help = false →
      a.showProperties = false → (run files arguments).ending = .exit e → e.code = 0 →
      let o := run files arguments
      ∃ level properties snapshot,
        Level.ofName? a.logLevel = some level ∧
        collectProperties files a.definitions (a.propertiesFile.map Path.ofText)
          = .ok properties ∧
        ((Settings.ofProperties (.ofValues properties)).resolve files).outcome = .ok snapshot ∧
        let unfiltered := Property.includedFiles ∉ properties.names ∧
          Property.includedFilesFile ∉ properties.names
        let printed := a.json = false ∧ snapshot.quiet = false ∧ level ≤ .info
        (snapshot.includedFiles = none ↔ unfiltered) ∧
        (a.json = true → ∃ document shown,
          o.textOn .stdout = document ++ ['\n'] ∧
          (Value.ofJson? document).bind (·.field? "included_files".toList) = some shown ∧
          (shown = .null ↔ unfiltered) ∧
          (¬ unfiltered → ∃ paths, snapshot.includedFiles = some paths ∧
            shown = Snapshot.pathValues paths)) ∧
        (printed → ∃ said,
          o.written.filter Outcome.isFilesLine
            = [(.stdout, "Included files:   ".toList ++ said ++ ['\n'])] ∧
          (said = "all".toList ↔ unfiltered) ∧
          (¬ unfiltered → ∃ paths, snapshot.includedFiles = some paths ∧
            said = Numeral.ofNat paths.length)) ∧
        (¬ printed → o.written.filter Outcome.isFilesLine = []) := by
  refine ⟨fun settings => ?_, fun arguments a e hread hhelp hshow hexit hcode => ?_⟩
  · exact ⟨Settings.outcome_includedFiles_eq_ok_none_iff, Settings.exists_paths_or_failure,
      Settings.outcome_includedFiles_eq_ok_nil_iff⟩
  intro o
  obtain ⟨level, h⟩ := accepted_of_exit hread hhelp hexit
  obtain ⟨properties, snapshot, hcollected, hmissing, hresolved⟩ :=
    h.resolved_of_success hshow hexit hcode
  have hwritten := congrArg Outcome.written (h.run_of_resolved hcollected hshow hmissing hresolved)
  have hall : snapshot.includedFiles = none ↔
      Property.includedFiles ∉ properties.names ∧ Property.includedFilesFile ∉ properties.names :=
    (Settings.includedFiles_eq_none_iff hresolved).trans Settings.unfiltered_ofProperties_ofValues
  have hline := filter_isFilesLine_of_notices
    (fun record hmem => (Settings.isDetail_of_mem_records record hmem).2) hwritten
  rw [filter_isFilesLine_reportTexts] at hline
  refine ⟨level, properties, snapshot, h.level, hcollected, hresolved, hall, fun hjson => ?_,
    fun hprinted => ?_, fun hprinted => hline.trans (if_neg hprinted)⟩
  · refine ⟨snapshot.toValue.json, snapshot.shownFiles, textOn_stdout_of_document hjson hwritten, ?_,
      Snapshot.shownFiles_eq_null_iff.trans hall, fun hgiven => ?_⟩
    · rw [Value.ofJson?_json]
      exact Snapshot.field?_toValue
    · obtain ⟨paths, hpaths⟩ := Option.ne_none_iff_exists'.mp (mt hall.mp hgiven)
      exact ⟨paths, hpaths, Snapshot.shownFiles_of_some hpaths⟩
  · refine ⟨snapshot.toldFiles, hline.trans (if_pos hprinted),
      Snapshot.toldFiles_eq_all_iff.trans hall, fun hgiven => ?_⟩
    obtain ⟨paths, hpaths⟩ := Option.ne_none_iff_exists'.mp (mt hall.mp hgiven)
    exact ⟨paths, hpaths, Snapshot.toldFiles_of_some hpaths⟩

/-- A list file with four empty lines is an empty list in the document; without any of the two keys
the summary says "all". -/
theorem run_with_blank_list_file :
    let content : Text := "\r\n\n\r".toList
    let files : FileTree := (∅ : FileTree).write ["l".toList] (Utf8.encode content)
    let required : List Text := ["retrolambda.inputDir=in".toList, "retrolambda.classpath=".toList]
    let listed : Text := "retrolambda.includedFilesFile=l".toList
    let filtered : List Text :=
      ["--json".toList, "-Dretrolambda.inputDir=in".toList, "-Dretrolambda.classpath=".toList,
        "-Dretrolambda.includedFilesFile=l".toList]
    let plain : List Text :=
      ["-Dretrolambda.inputDir=in".toList, "-Dretrolambda.classpath=".toList]
    let a : Arguments := ⟨required ++ [listed], none, false, true, "INFO".toList, false, []⟩
    let b : Arguments := ⟨required, none, false, false, "INFO".toList, false, []⟩
    (Arguments.read filtered = .ok a ∧ a.help = false ∧ a.showProperties = false ∧
      (run files filtered).ending = .exit (.success none)) ∧
    (Arguments.read plain = .ok b ∧ b.help = false ∧ b.showProperties = false ∧
      (run files plain).ending = .exit (.success none)) ∧
    (Exit.success none).code = 0 ∧
    (∃ document, (run files filtered).textOn .stdout = document ++ ['\n'] ∧
      (Value.ofJson? document).bind (·.field? "included_files".toList) = some (.list [])) ∧
    (run files plain).written.filter Outcome.isFilesLine
      = [(.stdout, "Included files:   all\n".toList)] := by
  intro content files required listed filtered plain a b
  have hread : Arguments.read filtered = .ok a := by
    dsimp only [filtered, a, required, listed]
    cbv
  have hread' : Arguments.read plain = .ok b := by
    dsimp only [plain, b, required]
    cbv
  have hexit : (run files filtered).ending = .exit (.success none) := by decide +kernel
  have hexit' : (run files plain).ending = .exit (.success none) := by decide +kernel
  obtain ⟨hsettings, hruns⟩ := all_files_iff_not_given files
  refine ⟨⟨hread, rfl, rfl, hexit⟩, ⟨hread', rfl, rfl, hexit'⟩, rfl, ?_, ?_⟩
  · obtain ⟨level, properties, snapshot, -, hcollected, hresolved, -, hdocument, -⟩ :=
      hruns filtered a _ hread rfl rfl hexit rfl
    obtain ⟨document, shown, htext, hshown, -, hgiven⟩ := hdocument rfl
    let given : Assignments Text Text := .ofList
      [(Property.inputDir, "in".toList), (Property.classpath, []),
        (Property.includedFilesFile, "l".toList)]
    have hcollects : collectProperties files a.definitions none = .ok given := rfl
    obtain rfl : given = properties := Except.ok.inj (hcollects.symm.trans hcollected)
    obtain ⟨paths, hpaths, rfl⟩ := hgiven (by decide)
    have hholds : files.Holds (.ofText "l".toList) content := ⟨by decide, rfl⟩
    obtain ⟨-, -, -, hblank⟩ := hsettings (Settings.ofProperties (.ofValues given))
    have htold := (hblank _ content rfl rfl hholds).mpr (by simp [content, IsNewline])
    obtain ⟨-, -, -, -, hfiles, -⟩ := Settings.resolve_eq_ok_iff.mp hresolved
    have hempty : some [] = snapshot.includedFiles := Except.ok.inj (htold.symm.trans hfiles)
    obtain rfl : [] = paths := Option.some.inj (hempty.trans hpaths)
    exact ⟨document, htext, hshown⟩
  · obtain ⟨level, properties, snapshot, hlevel, hcollected, hresolved, -, -, hsummary, -⟩ :=
      hruns plain b _ hread' rfl rfl hexit' rfl
    obtain rfl : level = .info := (Option.some.inj hlevel).symm
    let given : Assignments Text Text := .ofList
      [(Property.inputDir, "in".toList), (Property.classpath, [])]
    have hcollects : collectProperties files b.definitions none = .ok given := rfl
    obtain rfl : given = properties := Except.ok.inj (hcollects.symm.trans hcollected)
    obtain ⟨-, -, -, -, -, -, -, hquiet⟩ := Settings.resolve_eq_ok_iff.mp hresolved
    obtain ⟨said, hlines, hsaid, -⟩ := hsummary ⟨rfl, hquiet.symm, by decide⟩
    rw [hsaid.mpr (by decide)] at hlines
    exact hlines

end CommandLine

end PropertySettings
