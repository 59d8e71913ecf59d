import Mathlib
import PropertySettings.Proofs.Encoding
import PropertySettings.Proofs.Outcomes
import PropertySettings.Proofs.PathText

/-!
# Inline path lists and list files

The texts of a path list can be **spaced** by separators or by line breaks. Cutting at the separator
gives the texts back (`PathList.between_of_spaced`); folding the breaks turns spacing by line breaks
into spacing by line feeds (`Spaced.foldBreaks`), at which a list file is cut. So it does not matter
which of the two forms a list has (`Settings.inline_and_listed_agree`).
-/

namespace PropertySettings

/-! ### Spaced texts -/

/-- The texts stand in the whole in this order, with one gap or more between any two of them and any
number of gaps at either end. -/
inductive Spaced (gap : Char → Prop) : (texts : List Text) → (whole : Text) → Prop
  | gaps {gaps : Text} (hgaps : ∀ c ∈ gaps, gap c) : Spaced gap [] gaps
  | text {gaps t rest : Text} {texts : List Text} (hgaps : ∀ c ∈ gaps, gap c)
      (hnext : ∀ c, rest.head? = some c → gap c) (hrest : Spaced gap texts rest) :
      Spaced gap (t :: texts) (gaps ++ (t ++ rest))

/-- The two characters that end a line of a list file, alone or together. -/
def IsNewline (c : Char) : Prop :=
  c = '\r' ∨ c = '\n'

/-- What can be listed: a text which is not empty and has neither the separator nor a new line. -/
structure Listable (separator : Char) (t : Text) : Prop where
  nonempty : t ≠ []
  separator : separator ∉ t
  lines : ∀ c ∈ t, ¬ IsNewline c

namespace PathList

variable {c : Char} {front back t gaps : Text} {texts : List Text}

/-- The paths between the occurrences of a character. -/
def between (c : Char) (t : Text) : List Path :=
  ofPieces (Text.pieces [c] t)

@[simp]
theorem between_nil (c : Char) : between c [] = [] := rfl

/-- **Paths are cut at each separator.** -/
theorem between_append_cons (c : Char) (front back : Text) :
    between c (front ++ c :: back) = between c front ++ between c back := by
  rw [between, Text.pieces_singleton, List.splitOn_append_cons_self, ofPieces, List.filter_append,
    List.map_append, ← Text.pieces_singleton, ← Text.pieces_singleton]
  rfl

theorem between_append (h : ∀ d, back.head? = some d → d = c) :
    between c (front ++ back) = between c front ++ between c back := by
  cases back with
  | nil => simp
  | cons d back =>
    obtain rfl := h d rfl
    have hcons : between d (d :: back) = between d back := between_append_cons d [] back
    rw [between_append_cons, hcons]

theorem between_gaps_append (h : ∀ d ∈ gaps, d = c) : between c (gaps ++ t) = between c t := by
  induction gaps with
  | nil => rfl
  | cons d gaps ih =>
    obtain ⟨rfl, hgaps⟩ := List.forall_mem_cons.mp h
    exact (between_append_cons d [] _).trans (ih hgaps)

theorem between_of_not_mem (hne : t ≠ []) (h : c ∉ t) : between c t = [Path.ofText t] := by
  rw [between, Text.pieces_of_not_mem h, ofPieces]
  simp [hne]

/-- Cutting gives back what was spaced by the character. -/
theorem between_of_spaced (h : Spaced (· = c) texts t) (htexts : ∀ t ∈ texts, t ≠ [] ∧ c ∉ t) :
    between c t = texts.map Path.ofText := by
  induction h with
  | @gaps gaps hgaps => simpa using between_gaps_append (t := []) hgaps
  | text hgaps hnext _ ih =>
    obtain ⟨⟨hne, hfree⟩, hothers⟩ := List.forall_mem_cons.mp htexts
    rw [between_gaps_append hgaps, between_append hnext, between_of_not_mem hne hfree, ih hothers]
    rfl

end PathList

/-! ### Folding the breaks -/

namespace Text

variable {c : Char} {front back line rest : Text}

/-- Folding goes on anew at each character but a line feed. -/
theorem foldBreaks_append (h : back.head? ≠ some '\n') (front : Text) :
    foldBreaks (front ++ back) = foldBreaks front ++ foldBreaks back := by
  fun_induction foldBreaks front with
  | case1 => rfl
  | case2 rest ih => simp [foldBreaks, ih]
  | case3 c rest hpair ih =>
    rw [List.cons_append, foldBreaks, ih, List.cons_append]
    rintro next rfl hnext
    cases rest with
    | nil => exact h (by rw [← List.nil_append back, hnext]; rfl)
    | cons d rest => exact hpair rest rfl (by rw [(List.cons.inj hnext).1])

theorem foldBreaks_append_of_line (h : ∀ c ∈ line, ¬ IsNewline c) (rest : Text) :
    foldBreaks (line ++ rest) = line ++ foldBreaks rest := by
  induction line with
  | nil => rfl
  | cons c line ih =>
    obtain ⟨hc, hline⟩ := List.forall_mem_cons.mp h
    have hreturn : c ≠ '\r' := fun heq => hc (.inl heq)
    rw [List.cons_append, foldBreaks, if_neg hreturn, ih hline, List.cons_append]
    rintro next rfl -
    exact hreturn rfl

theorem foldBreaks_of_newlines {breaks : Text} (h : ∀ c ∈ breaks, IsNewline c) :
    ∀ c ∈ foldBreaks breaks, c = '\n' := by
  fun_induction foldBreaks breaks with
  | case1 => simp
  | case2 rest ih =>
    have hrest : ∀ c ∈ rest, IsNewline c := fun c hc => h c (by simp [hc])
    exact List.forall_mem_cons.mpr ⟨rfl, ih hrest⟩
  | case3 c rest _ ih =>
    obtain ⟨hc, hrest⟩ := List.forall_mem_cons.mp h
    refine List.forall_mem_cons.mpr ⟨?_, ih hrest⟩
    rcases hc with rfl | rfl <;> rfl

theorem head?_foldBreaks (h : ∀ c, rest.head? = some c → IsNewline c) :
    ∀ c, (foldBreaks rest).head? = some c → c = '\n' := by
  fun_cases foldBreaks rest with
  | case1 => simp
  | case2 rest => simp
  | case3 c rest _ =>
    rcases h c rfl with rfl | rfl <;> simp

end Text

/-- Folding turns spacing by new lines into spacing by line feeds. -/
theorem Spaced.foldBreaks {texts : List Text} {t : Text} (h : Spaced IsNewline texts t)
    (htexts : ∀ t ∈ texts, t ≠ [] ∧ ∀ c ∈ t, ¬ IsNewline c) :
    Spaced (· = '\n') texts (Text.foldBreaks t) := by
  induction h with
  | gaps hgaps => exact .gaps (Text.foldBreaks_of_newlines hgaps)
  | @text gaps t rest texts hgaps hnext _ ih =>
    obtain ⟨⟨hne, hline⟩, hothers⟩ := List.forall_mem_cons.mp htexts
    obtain ⟨c, line, rfl⟩ := List.exists_cons_of_ne_nil hne
    -- the text does not begin with a line feed, so no pair reaches into it
    have hhead : ((c :: line) ++ rest).head? ≠ some '\n' := fun heq =>
      hline c (List.mem_cons_self ..) (.inr (Option.some.inj heq))
    rw [Text.foldBreaks_append hhead, Text.foldBreaks_append_of_line hline]
    exact .text (Text.foldBreaks_of_newlines hgaps) (Text.head?_foldBreaks hnext) (ih hothers)

/-! ### Lists that are resolved -/

namespace PathList

variable {files : FileTree} {properties : PropertySet} {key fileKey : Text} {separator : Char}
  {texts : List Text}

/-- The properties give the list of texts in one of the two forms: inline, spaced by the separator,
or else by a list file, spaced by new lines. -/
inductive Given (files : FileTree) (separator : Char) (texts : List Text) (properties : PropertySet)
    (key fileKey : Text) : Prop
  | inline {value : Text} (hvalue : properties.value? key = some value)
      (hspaced : Spaced (· = separator) texts value)
  | listed {file content : Text} (hnone : properties.value? key = none)
      (hfile : properties.value? fileKey = some file)
      (hholds : files.Holds (.ofText file) content) (hspaced : Spaced IsNewline texts content)

/-- Texts with new lines between them come to their paths. -/
theorem ofLines_foldBreaks_of_spaced {content : Text} (hspaced : Spaced IsNewline texts content)
    (htexts : ∀ t ∈ texts, t ≠ [] ∧ ∀ c ∈ t, ¬ IsNewline c) :
    ofLines (Text.foldBreaks content) = texts.map Path.ofText := by
  have hfree : ∀ t ∈ texts, t ≠ [] ∧ '\n' ∉ t := fun t ht =>
    ⟨(htexts t ht).1, fun hmem => (htexts t ht).2 _ hmem (.inr rfl)⟩
  exact between_of_spaced (hspaced.foldBreaks htexts) hfree

theorem outcome_resolve_of_listed {file content sep : Text}
    (hkey : properties.value? key = none) (hfile : properties.value? fileKey = some file)
    (hholds : files.Holds (.ofText file) content) :
    (resolve files properties key fileKey sep).outcome
      = .ok (some (ofLines (Text.foldBreaks content))) := by
  rw [outcome_resolve, hkey, hfile]
  change (files.readText (.ofText file)).map (some ∘ ofLines) = _
  rw [hholds.readText]
  rfl

theorem outcome_resolve_of_given (htexts : ∀ t ∈ texts, Listable separator t)
    (h : Given files separator texts properties key fileKey) :
    (resolve files properties key fileKey [separator]).outcome
      = .ok (some (texts.map Path.ofText)) := by
  cases h with
  | @inline value hvalue hspaced =>
    have hfree : ∀ t ∈ texts, t ≠ [] ∧ separator ∉ t := fun t ht =>
      ⟨(htexts t ht).nonempty, (htexts t ht).separator⟩
    rw [outcome_resolve, hvalue]
    change (parse [separator] value).map some = _
    rw [parse_of_ne_nil (List.cons_ne_nil _ _)]
    exact congrArg (Except.ok ∘ some) (between_of_spaced hspaced hfree)
  | @listed file content hnone hfile hholds hspaced =>
    have hlines : ∀ t ∈ texts, t ≠ [] ∧ ∀ c ∈ t, ¬ IsNewline c := fun t ht =>
      ⟨(htexts t ht).nonempty, (htexts t ht).lines⟩
    rw [outcome_resolve_of_listed hnone hfile hholds, ofLines_foldBreaks_of_spaced hspaced hlines]

end PathList

namespace Settings

open PathList (Given)

/-- **Both forms of a path list give the same paths**, those of its texts in their order: nothing is
dropped, stripped or added. -/
theorem inline_and_listed_agree (files : FileTree) (separator : Char) (texts : List Text)
    (htexts : ∀ t ∈ texts, Listable separator t) (properties : PropertySet) (registry : Registry) :
    let paths := texts.map Path.ofText
    let settings : Settings := ⟨properties, registry, [separator]⟩
    (∀ key fileKey, Given files separator texts properties key fileKey →
      (PathList.resolve files properties key fileKey [separator]).outcome = .ok (some paths)) ∧
    (Given files separator texts properties Property.classpath Property.classpathFile →
      (settings.classpath files).outcome = .ok paths) ∧
    (Given files separator texts properties Property.includedFiles Property.includedFilesFile →
      (settings.includedFiles files).outcome = .ok (some paths)) := by
  intro paths settings
  refine ⟨fun _ _ => PathList.outcome_resolve_of_given htexts, fun h => ?_,
    PathList.outcome_resolve_of_given htexts⟩
  exact outcome_classpath_eq_ok_iff.mpr (PathList.outcome_resolve_of_given htexts h)

/-- A list with a repeated path, a byte order mark, blanks and a line separator, inline for the
class path and by a file with three kinds of new lines for the included files. -/
theorem odd_list_in_both_forms :
    let texts : List Text := [" a ".toList, "\ufeffb\u2028c".toList, " a ".toList]
    let inline : Text := ";; a ;\ufeffb\u2028c;; a ".toList
    let content : Text := "\r\n a \r\r\n\ufeffb\u2028c\n a \r".toList
    let files : FileTree := (∅ : FileTree).write ["f".toList] (Utf8.encode content)
    let properties : PropertySet := .ofList
      [(Property.classpath, some inline), (Property.includedFilesFile, some "f".toList)]
    let settings : Settings := ⟨properties, .standard, ";".toList⟩
    (∀ t ∈ texts, Listable ';' t) ∧
      (settings.classpath files).outcome = .ok (texts.map Path.ofText) ∧
      (settings.includedFiles files).outcome = .ok (some (texts.map Path.ofText)) := by
  intro texts inline content files properties settings
  have htexts : ∀ t ∈ texts, Listable ';' t := by
    have hrepeated : Listable ';' " a ".toList := ⟨by decide, by decide, by simp [IsNewline]⟩
    have hmarked : Listable ';' "\ufeffb\u2028c".toList :=
      ⟨by decide, by decide, by simp [IsNewline]⟩
    simp only [texts, List.forall_mem_cons]
    exact ⟨hrepeated, hmarked, hrepeated, List.forall_mem_nil _⟩
  have hinline : Spaced (· = ';') texts inline :=
    @Spaced.text _ ";;".toList " a ".toList ";\ufeffb\u2028c;; a ".toList _ (by simp) (by simp) <|
      @Spaced.text _ ";".toList "\ufeffb\u2028c".toList ";; a ".toList _ (by simp) (by simp) <|
      @Spaced.text _ ";;".toList " a ".toList [] _ (by simp) (by simp) (.gaps (by simp))
  have hlisted : Spaced IsNewline texts content :=
    @Spaced.text _ "\r\n".toList " a ".toList "\r\r\n\ufeffb\u2028c\n a \r".toList _
        (by simp [IsNewline]) (by simp [IsNewline]) <|
      @Spaced.text _ "\r\r\n".toList "\ufeffb\u2028c".toList "\n a \r".toList _
        (by simp [IsNewline]) (by simp [IsNewline]) <|
      @Spaced.text _ "\n".toList " a ".toList "\r".toList _
        (by simp [IsNewline]) (by simp [IsNewline]) (.gaps (by simp [IsNewline]))
  have hholds : files.Holds (.ofText "f".toList) content := ⟨by decide, rfl⟩
  obtain ⟨-, hclasspath, hincluded⟩ :=
    inline_and_listed_agree files ';' texts htexts properties .standard
  exact ⟨htexts, hclasspath (.inline rfl hinline), hincluded (.listed rfl rfl hholds hlisted)⟩

end Settings

end PropertySettings
