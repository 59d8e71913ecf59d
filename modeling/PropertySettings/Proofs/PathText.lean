import Mathlib
import PropertySettings.PathList

/-!
# Path texts

Writing a path and reading what was written gives the path back (`Path.ofText_toText`), so the text
of a path is its normal form. Reading adds no code point to a text that is not empty
(`Path.toText_ofText_subset`) and takes none away but slashes and dots
(`Path.mem_toText_ofText_iff`). Hence a list of paths survives being joined and cut at a character
that none of its texts holds (`PathList.ofPieces_intercalate`), and no path in an inline list holds
the separator (`PathList.not_mem_toText`).

Pieces between single characters are those of `List.splitOn` (`Text.pieces_singleton`), whose
lemmas carry the proofs.
-/

namespace PropertySettings

/-! ### Pieces between single characters -/

namespace Text

/-- Cutting at a single character is the cutting of lists. -/
theorem pieces_singleton (c : Char) (t : Text) : pieces [c] t = t.splitOn c := by
  induction t with
  | nil => simp
  | cons d rest ih =>
    rw [List.splitOn_cons_eq_if_modifyHead]
    by_cases h : d = c
    · subst h
      rw [pieces_of_isPrefix (by simp) (by simp)]
      simp [ih]
    · have hfront : [c].isPrefixOf (d :: rest) = false := by simp [List.isPrefixOf, Ne.symm h]
      obtain ⟨piece, pieces, hp⟩ := List.exists_cons_of_ne_nil (List.splitOn_ne_nil c rest)
      rw [pieces_cons hfront, ih, hp, if_neg (by simpa using h)]
      rfl

/-- Each of the texts stands in the whole that is joined from them. -/
theorem infix_intercalate {sep t : Text} {texts : List Text} (h : t ∈ texts) :
    t <:+: List.intercalate sep texts := by
  induction texts with
  | nil => simp at h
  | cons first rest ih =>
    cases rest with
    | nil => simp [List.mem_singleton.mp h]
    | cons second rest =>
      rw [List.intercalate_cons_cons, List.append_assoc]
      rcases List.mem_cons.mp h with rfl | h
      · exact (List.prefix_append _ _).isInfix
      · exact (ih h).trans (List.suffix_append_of_suffix (List.suffix_append _ _)).isInfix

theorem mem_intercalate_of_mem {sep t : Text} {texts : List Text} {c : Char} (ht : t ∈ texts)
    (hc : c ∈ t) : c ∈ List.intercalate sep texts :=
  (infix_intercalate ht).subset hc

theorem mem_of_mem_intercalate {α : Type} {sep : List α} {texts : List (List α)} {c : α}
    (h : c ∈ List.intercalate sep texts) : (c ∈ sep ∧ 2 ≤ texts.length) ∨ ∃ t ∈ texts, c ∈ t := by
  induction texts with
  | nil => simp at h
  | cons first rest ih =>
    cases rest with
    | nil => exact .inr ⟨first, by simp, by simpa using h⟩
    | cons second rest =>
      rw [List.intercalate_cons_cons, List.mem_append, List.mem_append] at h
      rcases h with (hc | hc) | hc
      · exact .inr ⟨first, by simp, hc⟩
      · exact .inl ⟨hc, by simp⟩
      · rcases ih hc with ⟨hc, -⟩ | ⟨t, ht, hc⟩
        · exact .inl ⟨hc, by simp⟩
        · exact .inr ⟨t, List.mem_cons_of_mem _ ht, hc⟩

/-- The pieces hold only what the text holds. -/
theorem mem_of_mem_pieces {c d : Char} {t piece : Text} (hp : piece ∈ pieces [c] t)
    (hd : d ∈ piece) : d ∈ t := by
  rw [pieces_singleton] at hp
  have hjoined : d ∈ List.intercalate [c] (t.splitOn c) := mem_intercalate_of_mem hp hd
  rwa [List.intercalate_splitOn] at hjoined

/-- Whatever is not the separator is in one of the pieces. -/
theorem exists_mem_pieces {c d : Char} {t : Text} (hd : d ∈ t) (hne : d ≠ c) :
    ∃ piece ∈ pieces [c] t, d ∈ piece := by
  have hjoined : d ∈ List.intercalate [c] (t.splitOn c) := by rwa [List.intercalate_splitOn]
  rw [pieces_singleton]
  rcases mem_of_mem_intercalate hjoined with ⟨h, -⟩ | h
  · exact absurd (List.mem_singleton.mp h) hne
  · exact h

/-- A text without the separator is a single piece. -/
theorem pieces_of_not_mem {c : Char} {t : Text} (h : c ∉ t) : pieces [c] t = [t] := by
  rw [pieces_singleton, List.splitOn_eq_singleton h]

/-- Cutting undoes joining. -/
theorem pieces_intercalate {c : Char} {texts : List Text} (hne : texts ≠ [])
    (h : ∀ t ∈ texts, c ∉ t) : pieces [c] (List.intercalate [c] texts) = texts := by
  rw [pieces_singleton, List.splitOn_intercalate c h hne]

end Text

/-! ### Anchors -/

namespace Anchor

/-- The anchor is read back if no slash follows it. -/
theorem ofText_append (anchor : Anchor) {t : Text} (h : t.head? ≠ some '/') :
    ofText (anchor.toText ++ t) = anchor := by
  cases t with
  | nil => cases anchor <;> rfl
  | cons c rest =>
    have hc : c ≠ '/' := by simpa using h
    cases anchor <;> simp [toText, ofText, hc]

/-- The slashes of an anchor are those of the text. -/
theorem mem_of_mem_toText_ofText {c : Char} {t : Text} (h : c ∈ (ofText t).toText) : c ∈ t := by
  unfold ofText at h
  split at h <;> simp_all [toText]

theorem head?_of_ofText_eq_relative {t : Text} (h : ofText t = .relative) : t.head? ≠ some '/' := by
  intro hhead
  obtain ⟨rest, rfl⟩ := List.head?_eq_some_iff.mp hhead
  unfold ofText at h
  split at h <;> simp_all

end Anchor

namespace Path

/-! ### Reading what was written -/

theorem head?_intercalate_ne {names : List Text} (h : ∀ name ∈ names, IsPathName name) :
    (List.intercalate ['/'] names).head? ≠ some '/' := by
  cases names with
  | nil => simp
  | cons name rest =>
    obtain ⟨hne, -, hslash⟩ := h name (by simp)
    obtain ⟨c, name, rfl⟩ := List.exists_cons_of_ne_nil hne
    rw [List.intercalate_cons_cons_left, List.head?_cons]
    intro hc
    exact hslash (by simp [Option.some.inj hc])

theorem namesOf_cons_slash (t : Text) : namesOf ('/' :: t) = namesOf t := by
  rw [namesOf, Text.pieces_of_isPrefix (by simp) (by simp)]
  rfl

theorem namesOf_anchor_append (anchor : Anchor) (t : Text) :
    namesOf (anchor.toText ++ t) = namesOf t := by
  cases anchor <;> simp [Anchor.toText, namesOf_cons_slash]

theorem namesOf_intercalate {names : List Text} (h : ∀ name ∈ names, IsPathName name) :
    namesOf (List.intercalate ['/'] names) = names := by
  cases names with
  | nil => rfl
  | cons name rest =>
    rw [namesOf, Text.pieces_intercalate (by simp) fun t ht => (h t ht).2.2]
    refine List.filter_eq_self.mpr fun t ht => ?_
    simpa using ⟨(h t ht).1, (h t ht).2.1⟩

/-- A path that is not the working directory is written as anchor and names. -/
theorem toText_eq {path : Path} (h : path.anchor ≠ .relative ∨ path.names ≠ []) :
    path.toText = path.anchor.toText ++ List.intercalate ['/'] path.names := by
  obtain ⟨anchor, names, proper⟩ := path
  cases anchor <;> cases names <;> simp_all [toText]

theorem toText_of_relative {path : Path} (ha : path.anchor = .relative) (hn : path.names = []) :
    path.toText = ['.'] := by
  simp [toText, ha, hn]

@[ext]
theorem ext {p q : Path} (ha : p.anchor = q.anchor) (hn : p.names = q.names) : p = q := by
  cases p
  cases q
  simp_all

/-- **The text of a path denotes the path.** -/
@[simp]
theorem ofText_toText (path : Path) : ofText path.toText = path := by
  by_cases h : path.anchor ≠ .relative ∨ path.names ≠ []
  · rw [toText_eq h]
    exact Path.ext (Anchor.ofText_append _ (head?_intercalate_ne path.proper))
      ((namesOf_anchor_append _ _).trans (namesOf_intercalate path.proper))
  · obtain ⟨ha, hn⟩ : path.anchor = .relative ∧ path.names = [] := by simpa using h
    rw [toText_of_relative ha hn]
    exact Path.ext ha.symm hn.symm

theorem toText_injective : Function.Injective toText :=
  Function.LeftInverse.injective ofText_toText

theorem toText_ne_nil (path : Path) : path.toText ≠ [] := by
  intro h
  have hpath : ofText [] = path := h ▸ ofText_toText path
  rw [← hpath] at h
  exact absurd h (by decide)

/-! ### The code points of a path -/

/-- A relative text without names is made of single dots and slashes, and begins with a dot. -/
theorem dot_mem_of_namesOf_eq_nil {t : Text} (ht : t ≠ []) (ha : Anchor.ofText t = .relative)
    (hn : namesOf t = []) : '.' ∈ t := by
  obtain ⟨c, rest, rfl⟩ := List.exists_cons_of_ne_nil ht
  have hc : c ≠ '/' := by simpa using Anchor.head?_of_ofText_eq_relative ha
  obtain ⟨piece, hp, hcp⟩ := Text.exists_mem_pieces (List.mem_cons_self (a := c) (l := rest)) hc
  have hdot : piece = ['.'] := by
    have := List.filter_eq_nil_iff.mp hn piece hp
    simpa [List.ne_nil_of_mem hcp] using this
  exact Text.mem_of_mem_pieces hp (by simp [hdot])

/-- Reading a path adds no code point. -/
theorem toText_ofText_subset {t : Text} (ht : t ≠ []) : (ofText t).toText ⊆ t := by
  intro c hc
  by_cases h : (ofText t).anchor ≠ .relative ∨ (ofText t).names ≠ []
  · rw [toText_eq h, List.mem_append] at hc
    rcases hc with hc | hc
    · exact Anchor.mem_of_mem_toText_ofText hc
    · rcases Text.mem_of_mem_intercalate hc with ⟨hc, hlen⟩ | ⟨name, hname, hc⟩
      · rw [List.mem_singleton] at hc
        subst hc
        -- two names need a slash between them
        refine Decidable.byContradiction fun hslash => ?_
        have hle : (namesOf t).length ≤ 1 := by
          rw [namesOf, Text.pieces_of_not_mem hslash]
          exact List.length_filter_le _ _
        exact absurd hlen (Nat.not_le.mpr (Nat.lt_succ_of_le hle))
      · exact Text.mem_of_mem_pieces (List.mem_filter.mp hname).1 hc
  · obtain ⟨ha, hn⟩ : (ofText t).anchor = .relative ∧ (ofText t).names = [] := by simpa using h
    rw [toText_of_relative ha hn, List.mem_singleton] at hc
    exact hc ▸ dot_mem_of_namesOf_eq_nil ht ha hn

/-- Reading a path takes away slashes and dots only. -/
theorem mem_toText_ofText {c : Char} {t : Text} (hslash : c ≠ '/') (hdot : c ≠ '.') (hc : c ∈ t) :
    c ∈ (ofText t).toText := by
  obtain ⟨piece, hp, hcp⟩ := Text.exists_mem_pieces hc hslash
  have hne : piece ≠ ['.'] := by
    rintro rfl
    exact hdot (List.mem_singleton.mp hcp)
  have hname : piece ∈ (ofText t).names :=
    List.mem_filter.mpr ⟨hp, by simpa using ⟨List.ne_nil_of_mem hcp, hne⟩⟩
  rw [toText_eq (.inr (List.ne_nil_of_mem hname))]
  exact List.mem_append_right _ (Text.mem_intercalate_of_mem hname hcp)

theorem mem_toText_ofText_iff {c : Char} {t : Text} (hslash : c ≠ '/') (hdot : c ≠ '.') :
    c ∈ (ofText t).toText ↔ c ∈ t := by
  refine ⟨fun h => ?_, mem_toText_ofText hslash hdot⟩
  cases t with
  | nil => exact absurd (List.mem_singleton.mp h) hdot
  | cons d rest => exact toText_ofText_subset (by simp) h

end Path

/-! ### Lists of paths -/

namespace PathList

theorem ofPieces_map_toText (paths : List Path) : ofPieces (paths.map Path.toText) = paths := by
  have hfilter : (paths.map Path.toText).filter (· ≠ []) = paths.map Path.toText := by
    refine List.filter_eq_self.mpr fun t ht => ?_
    obtain ⟨path, -, rfl⟩ := List.mem_map.mp ht
    simpa using path.toText_ne_nil
  rw [ofPieces, hfilter, List.map_map]
  exact (List.map_congr_left fun path _ => path.ofText_toText).trans (List.map_id _)

/-- Paths that are joined by a character which none of them holds are read back. -/
theorem ofPieces_intercalate {c : Char} {paths : List Path} (h : ∀ path ∈ paths, c ∉ path.toText) :
    ofPieces (Text.pieces [c] (List.intercalate [c] (paths.map Path.toText))) = paths := by
  cases paths with
  | nil => rfl
  | cons path rest =>
    rw [Text.pieces_intercalate (by simp), ofPieces_map_toText]
    intro t ht
    obtain ⟨path, hpath, rfl⟩ := List.mem_map.mp ht
    exact h path hpath

/-- No path between separators holds the separator. -/
theorem not_mem_toText {c : Char} {t : Text} {path : Path}
    (h : path ∈ ofPieces (Text.pieces [c] t)) : c ∉ path.toText := by
  obtain ⟨piece, hp, rfl⟩ := List.mem_map.mp h
  obtain ⟨hp, hne⟩ := List.mem_filter.mp hp
  exact fun hc =>
    Text.not_mem_of_mem_pieces hp (Path.toText_ofText_subset (by simpa using hne) hc)

end PathList

end PropertySettings
