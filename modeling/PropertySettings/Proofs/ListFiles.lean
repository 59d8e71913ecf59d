import Mathlib
import PropertySettings.Proofs.Decoding
import PropertySettings.Proofs.PathLists

/-!
# What list files come to

A list file comes to the runs of its text, the longest stretches without a carriage return or a line
feed (`PathList.outcome_read_of_runs`); every text has runs (`exists_runs`). Bytes that are no text
come to a fault behind the longest text at their front (`PathList.outcome_read_of_not_text`). One of
the two is what becomes of any file (`PathList.read_tells_runs_or_fault`).
-/

namespace PropertySettings

/-! ### Runs -/

/-- The texts are the runs of the whole between gaps, in order: no run is empty or holds a gap, and
on either side of a run there is a gap or an end of the whole. -/
structure Runs (gap : Char → Prop) (runs : List Text) (whole : Text) : Prop where
  spaced : Spaced gap runs whole
  proper : ∀ run ∈ runs, run ≠ [] ∧ ∀ c ∈ run, ¬ gap c

instance : DecidablePred IsNewline := fun _ => inferInstanceAs (Decidable (_ ∨ _))

/-- A text goes on in one way up to some place. -/
theorem exists_stretch (p : Char → Prop) [DecidablePred p] (whole : Text) :
    ∃ front back, whole = front ++ back ∧ (∀ c ∈ front, p c) ∧
      ∀ c, back.head? = some c → ¬ p c := by
  refine ⟨whole.takeWhile p, whole.dropWhile p, List.takeWhile_append_dropWhile.symm, ?_, ?_⟩
  · intro c hc
    have hp := List.mem_takeWhile_imp hc
    exact of_decide_eq_true hp
  · intro c hc
    have hnot := List.head?_dropWhile_not (fun c => decide (p c)) whole
    rw [hc] at hnot
    exact of_decide_eq_false hnot

theorem exists_runs (gap : Char → Prop) [DecidablePred gap] (whole : Text) :
    ∃ runs, Runs gap runs whole := by
  -- what is behind the first run is shorter
  induction hlength : whole.length using Nat.strong_induction_on generalizing whole with
  | _ length ih =>
    obtain ⟨gaps, front, rfl, hgaps, hfront⟩ := exists_stretch gap whole
    obtain ⟨run, rest, rfl, hrun, hrest⟩ := exists_stretch (¬ gap ·) front
    by_cases hne : run = []
    · -- nothing is left, for it would begin with a gap and without one
      subst hne
      cases rest with
      | nil => exact ⟨[], .gaps (by simpa using hgaps), List.forall_mem_nil _⟩
      | cons c rest => exact absurd (hfront c rfl) (hrest c rfl)
    · have hshort : rest.length < length := by
        have hpos := List.length_pos_of_ne_nil hne
        simp only [List.length_append] at hlength
        omega
      obtain ⟨runs, hspaced, hproper⟩ := ih _ hshort rest rfl
      refine ⟨run :: runs, .text hgaps (fun c hc => ?_) hspaced,
        List.forall_mem_cons.mpr ⟨⟨hne, hrun⟩, hproper⟩⟩
      exact not_not.mp (hrest c hc)

/-! ### Files -/

namespace PathList

variable {files : FileTree} {path : Path} {bytes : List UInt8} {t : Text} {runs : List Text}

/-- A file that holds a text comes to the runs of the text. -/
theorem outcome_read_of_runs (hholds : files.Holds path t) (hruns : Runs IsNewline runs t) :
    (read files path).outcome = .ok (runs.map Path.ofText) := by
  rw [outcome_read, hholds.readText]
  exact congrArg Except.ok (ofLines_foldBreaks_of_spaced hruns.spaced hruns.proper)

/-- A file that does not hold a text comes to a fault. -/
theorem outcome_read_of_not_text (hname : '\x00' ∉ path.toText)
    (hread : files.read path = .ok bytes) (hnot : ∀ t, bytes ≠ Utf8.encode t) :
    ∃ fault, (read files path).outcome
        = .error (.config (.unreadable path.toText (.undecodable fault))) ∧
      Utf8.decode bytes = .error fault := by
  cases hdecode : Utf8.decode bytes with
  | ok t => exact absurd (Utf8.decode_eq_ok_iff.mp hdecode) (hnot t)
  | error fault =>
    have hdefect : files.Defect path (.undecodable fault) := ⟨bytes, hread, hdecode⟩
    exact ⟨fault, by rw [outcome_read, hdefect.readText hname]; rfl, rfl⟩

/-- **What becomes of a list file.** Whatever bytes it has: if they are a text in UTF-8, the file
comes to the paths of its runs, which are kept as they are, with repeats and in order. Otherwise it
is told that the file could not be read, and the fault that is named as the cause stands behind the
longest text in UTF-8 at the front of the bytes. -/
theorem read_tells_runs_or_fault (files : FileTree) (path : Path) (bytes : List UInt8)
    (hname : '\x00' ∉ path.toText) (hread : files.read path = .ok bytes) :
    (∀ t, bytes = Utf8.encode t →
      (∃ runs, Runs IsNewline runs t) ∧
      ∀ runs, Runs IsNewline runs t → (read files path).outcome = .ok (runs.map Path.ofText)) ∧
    ((∀ t, bytes ≠ Utf8.encode t) →
      ∃ fault, let cause := Cause.undecodable fault
        let error := ConfigError.unreadable path.toText cause
        (read files path).outcome = .error (.config error) ∧
        error.message = "Failed to read ".toList ++ path.toText ∧
        cause.kindName = "UnicodeDecodeError".toList ∧
        (∃ t, Utf8.encode t <+: bytes ∧ (Utf8.encode t).length = fault.position) ∧
        ∀ t, Utf8.encode t <+: bytes → (Utf8.encode t).length ≤ fault.position) := by
  refine ⟨fun t ht => ⟨exists_runs IsNewline t, fun runs hruns => ?_⟩, fun hnot => ?_⟩
  · exact outcome_read_of_runs ⟨hname, ht ▸ hread⟩ hruns
  · obtain ⟨fault, houtcome, hfault⟩ := outcome_read_of_not_text hname hread hnot
    obtain ⟨hlongest, hlonger⟩ := Utf8.longest_text_of_fault hfault
    exact ⟨fault, houtcome, rfl, rfl, hlongest, hlonger⟩

/-- A text with a byte order mark, blanks, a form feed, a line separator, a repeated run and all
kinds of new lines; and a text with the bytes of a surrogate behind it. -/
theorem read_of_odd_files :
    let content : Text := "\n\r\ufeffa \r\nb\x0cc\u2028\r\n\r\ufeffa \r".toList
    let bytes : List UInt8 := Utf8.encode "é\n".toList ++ [0xED, 0xA0, 0x80]
    let files := ((∅ : FileTree).write ["l".toList] (Utf8.encode content)).write ["b".toList] bytes
    (read files (.ofText "l".toList)).outcome
        = .ok (["\ufeffa ".toList, "b\x0cc\u2028".toList, "\ufeffa ".toList].map Path.ofText) ∧
      (read files (.ofText "b".toList)).outcome
        = .error (.config (.unreadable "b".toList (.undecodable ⟨3, [0xED], .continuation⟩))) ∧
      ∀ t, Utf8.encode t <+: bytes → (Utf8.encode t).length ≤ 3 := by
  intro content bytes files
  have hruns : Runs IsNewline ["\ufeffa ".toList, "b\x0cc\u2028".toList, "\ufeffa ".toList]
      content := by
    refine ⟨?_, by simp [IsNewline]⟩
    exact @Spaced.text _ "\n\r".toList "\ufeffa ".toList "\r\nb\x0cc\u2028\r\n\r\ufeffa \r".toList _
        (by simp [IsNewline]) (by simp [IsNewline]) <|
      @Spaced.text _ "\r\n".toList "b\x0cc\u2028".toList "\r\n\r\ufeffa \r".toList _
        (by simp [IsNewline]) (by simp [IsNewline]) <|
      @Spaced.text _ "\r\n\r".toList "\ufeffa ".toList "\r".toList _
        (by simp [IsNewline]) (by simp [IsNewline]) (.gaps (by simp [IsNewline]))
  have hnot : ∀ t, bytes ≠ Utf8.encode t := by
    intro t ht
    have hdecode : Utf8.decode bytes = .error ⟨3, [0xED], .continuation⟩ := rfl
    rw [ht, Utf8.decode_encode] at hdecode
    exact absurd hdecode (by simp)
  obtain ⟨hlisted, -⟩ :=
    read_tells_runs_or_fault files (.ofText "l".toList) (Utf8.encode content) (by decide) rfl
  obtain ⟨-, hfaulty⟩ := read_tells_runs_or_fault files (.ofText "b".toList) bytes (by decide) rfl
  obtain ⟨fault, houtcome, -, -, -, hlonger⟩ := hfaulty hnot
  have hfault : (read files (.ofText "b".toList)).outcome
      = .error (.config (.unreadable "b".toList (.undecodable ⟨3, [0xED], .continuation⟩))) := rfl
  have hsame := Failure.config.inj (Except.error.inj (houtcome.symm.trans hfault))
  obtain rfl : fault = _ := Cause.undecodable.inj (ConfigError.unreadable.inj hsame).2
  exact ⟨(hlisted content rfl).2 _ hruns, hfault, hlonger⟩

end PathList

end PropertySettings
