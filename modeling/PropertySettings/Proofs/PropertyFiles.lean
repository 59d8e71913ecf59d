import Mathlib
import PropertySettings.Proofs.Assignments
import PropertySettings.Proofs.Encoding
import PropertySettings.Proofs.Lines
import PropertySettings.PropertyText

/-!
# Properties files

A list of keys and values is **clean** if no key stands twice, and if each key and value could stand
in a line of a properties file without being taken for something else (`PropertyText.Clean`). There
are many ways to write a clean list: with either separator, with any blanks, comments and empty
lines, and with any line ends (`PropertyText.Writes`). All of them are loaded as that list, and
nothing but clean lists is ever loaded (`PropertyText.load_undoes_writing`).
-/

namespace PropertySettings.PropertyText

open Text

/-! ### Clean lists and how they are written -/

/-- A key and a value that can stand in a line: neither begins or ends with a blank or holds a line
break, and the key holds no separator and does not look like a comment. -/
@[mk_iff]
structure CleanEntry (entry : Text × Text) : Prop where
  key_trimmed : IsTrimmed entry.1
  value_trimmed : IsTrimmed entry.2
  key_line : IsLine entry.1
  value_line : IsLine entry.2
  separator : ∀ c ∈ entry.1, isSeparator c = false
  comment : ∀ c, entry.1.head? = some c → beginsComment c = false

/-- Keys and values that can stand in lines, no key twice. -/
structure Clean (entries : List (Text × Text)) : Prop where
  nodup : (entries.map Prod.fst).Nodup
  entry : ∀ entry ∈ entries, CleanEntry entry

/-- Blanks that do not end the line. -/
structure IsGap (t : Text) : Prop where
  blank : IsBlank t
  line : IsLine t

instance (entry : Text × Text) : Decidable (CleanEntry entry) :=
  decidable_of_iff (IsTrimmed entry.1 ∧ IsTrimmed entry.2 ∧ IsLine entry.1 ∧ IsLine entry.2 ∧
      entry.1.all (!isSeparator ·) ∧ entry.1.head?.all (!beginsComment ·)) <| by
    simp only [List.all_eq_true, Option.all_eq_true, Bool.not_eq_true', ← cleanEntry_iff]

instance (entries : List (Text × Text)) : Decidable (Clean entries) :=
  decidable_of_iff ((entries.map Prod.fst).Nodup ∧ ∀ entry ∈ entries, CleanEntry entry)
    ⟨fun h => ⟨h.1, h.2⟩, fun h => ⟨h.nodup, h.entry⟩⟩

instance (t : Text) : Decidable (IsGap t) :=
  decidable_of_iff (IsBlank t ∧ IsLine t) ⟨fun h => ⟨h.1, h.2⟩, fun h => ⟨h.blank, h.line⟩⟩

/-- The ways to write a line: a key and a value with a separator between them, a key alone if the
value is empty and the key is not, or, for no entry, blanks or a comment. -/
inductive Spells : Option (Text × Text) → Text → Prop
  | pair {key value g₁ g₂ g₃ g₄ : Text} {c : Char} (h₁ : IsGap g₁) (h₂ : IsGap g₂)
      (hc : isSeparator c = true) (h₃ : IsGap g₃) (h₄ : IsGap g₄) :
      Spells (some (key, value)) (g₁ ++ key ++ g₂ ++ c :: (g₃ ++ value ++ g₄))
  | bare {key g₁ g₂ : Text} (hne : key ≠ []) (h₁ : IsGap g₁) (h₂ : IsGap g₂) :
      Spells (some (key, [])) (g₁ ++ key ++ g₂)
  | blank {g : Text} (h : IsGap g) : Spells none g
  | comment {g rest : Text} {c : Char} (h : IsGap g) (hc : beginsComment c = true)
      (hrest : IsLine rest) : Spells none (g ++ c :: rest)

/-- The ways to write a list of entries: a line for each in order, with lines for no entry anywhere,
each line ended in some way but for the last, which need not be. -/
inductive Writes : List (Text × Text) → Text → Prop
  | last {entry : Option (Text × Text)} {line : Text} (h : Spells entry line) :
      Writes entry.toList line
  | line {entry : Option (Text × Text)} {entries : List (Text × Text)} {line ending rest : Text}
      (h : Spells entry line) (hending : IsLineEnd ending) (hrest : Writes entries rest) :
      Writes (entry.toList ++ entries) (line ++ ending ++ rest)

/-! ### What comes of a line -/

variable {t line left right key value : Text} {c : Char}

theorem eq_of_isSeparator (hc : isSeparator c = true) : c = '=' ∨ c = ':' := by
  simpa [isSeparator] using hc

theorem eq_of_beginsComment (hc : beginsComment c = true) : c = '#' ∨ c = '!' := by
  simpa [beginsComment] using hc

theorem isBlank_of_isSeparator (hc : isSeparator c = true) : Text.isBlank c = false := by
  rcases eq_of_isSeparator hc with rfl | rfl <;> decide

theorem isLineBreak_of_isSeparator (hc : isSeparator c = true) : isLineBreak c = false := by
  rcases eq_of_isSeparator hc with rfl | rfl <;> decide

theorem beginsComment_of_isSeparator (hc : isSeparator c = true) : beginsComment c = false := by
  rcases eq_of_isSeparator hc with rfl | rfl <;> decide

theorem isBlank_of_beginsComment (hc : beginsComment c = true) : Text.isBlank c = false := by
  rcases eq_of_beginsComment hc with rfl | rfl <;> decide

theorem isLineBreak_of_beginsComment (hc : beginsComment c = true) : isLineBreak c = false := by
  rcases eq_of_beginsComment hc with rfl | rfl <;> decide

theorem isSeparator_of_isBlank (hc : Text.isBlank c = true) : isSeparator c = false := by
  rw [← Bool.not_eq_true]
  exact fun h => absurd hc (by simp [isBlank_of_isSeparator h])

theorem entry?_of_isBlank (h : IsBlank line) : entry? line = none := by
  rw [ entry?, strip_eq_nil_iff.mpr h]
  rfl

theorem entry?_of_comment {rest : Text} (hleft : IsBlank left) (hc : beginsComment c = true) :
    entry? (left ++ c :: rest) = none := by
  have hstrip : strip (left ++ c :: rest) = c :: stripRight rest := by
    rw [strip_append_cons (isBlank_of_beginsComment hc), ← List.append_nil left,
      stripLeft_append hleft]
    rfl
  simp [ entry?, hstrip, hc]

/-- A line that is neither blank nor a comment is cut at the first separator. -/
theorem entry?_eq_some (hne : strip line ≠ [])
    (hcomment : ∀ d, (strip line).head? = some d → beginsComment d = false) :
    entry? line = some (strip ((strip line).takeWhile (¬ isSeparator ·)),
      strip (((strip line).dropWhile (¬ isSeparator ·)).drop 1)) := by
  have hnot : ¬ (strip line).head?.any beginsComment = true := by
    rw [Option.any_eq_true]
    rintro ⟨d, hd, hc⟩
    exact absurd hc (by simp [hcomment d hd])
  rw [ entry?, if_neg (not_or.mpr ⟨hne, hnot⟩)]

/-- A line with a separator gives what stands on either side. -/
theorem entry?_append_cons (hleft : ∀ d ∈ left, isSeparator d = false) (hc : isSeparator c = true)
    (hcomment : ∀ d, (strip left).head? = some d → beginsComment d = false) :
    entry? (left ++ c :: right) = some (strip left, strip right) := by
  have hfree : ∀ d ∈ stripLeft left, (decide ¬ isSeparator d = true) = true := by
    obtain ⟨front, -, hfront⟩ := exists_append_stripLeft left
    intro d hd
    simp [hleft d (hfront ▸ List.mem_append_right front hd)]
  have hhead : ∀ d, (stripLeft left ++ c :: stripRight right).head? = some d →
      beginsComment d = false := by
    intro d hd
    rw [List.head?_append, ← head?_strip, Option.or_eq_some_iff] at hd
    rcases hd with hd | ⟨-, hd⟩
    · exact hcomment d hd
    · exact Option.some.inj hd ▸ beginsComment_of_isSeparator hc
  have hstrip := strip_append_cons (isBlank_of_isSeparator hc) left right
  rw [entry?_eq_some (by simp [hstrip]) (by rwa [hstrip]), hstrip,
    List.takeWhile_append_of_pos hfree, List.dropWhile_append_of_pos hfree,
    List.takeWhile_cons_of_neg (by simp [hc]), List.dropWhile_cons_of_neg (by simp [hc]),
    List.append_nil, strip_stripLeft, List.drop_succ_cons, List.drop_zero, strip_stripRight]

/-- A line without a separator is a key. -/
theorem entry?_of_not_separator (h : ∀ d ∈ line, isSeparator d = false) (hne : strip line ≠ [])
    (hcomment : ∀ d, (strip line).head? = some d → beginsComment d = false) :
    entry? line = some (strip line, []) := by
  have hfree : ∀ d ∈ strip line, (decide ¬ isSeparator d = true) = true := by
    intro d hd
    simp [h d (mem_of_mem_strip hd)]
  rw [entry?_eq_some hne hcomment, List.takeWhile_eq_self_iff.mpr hfree,
    List.dropWhile_eq_nil_iff.mpr hfree, strip_strip]
  rfl

variable {entry : Option (Text × Text)}

theorem isLine_of_spells (h : Spells entry line) (hclean : ∀ e ∈ entry, CleanEntry e) :
    IsLine line := by
  cases h with
  | pair h₁ h₂ hc h₃ h₄ =>
    have he := hclean _ rfl
    exact ((h₁.line.append he.key_line).append h₂.line).append
      (((h₃.line.append he.value_line).append h₄.line).cons (isLineBreak_of_isSeparator hc))
  | bare hne h₁ h₂ => exact (h₁.line.append (hclean _ rfl).key_line).append h₂.line
  | blank h => exact h.line
  | comment h hc hrest => exact h.line.append (hrest.cons (isLineBreak_of_beginsComment hc))

/-- What is read from a line is what it was written for. -/
theorem entry?_of_spells (h : Spells entry line) (hclean : ∀ e ∈ entry, CleanEntry e) :
    entry? line = entry := by
  -- no separator stands in a key or in the blanks around it
  have hfree : ∀ {key g₁ g₂ : Text}, IsGap g₁ → IsGap g₂ → (∀ d ∈ key, isSeparator d = false) →
      ∀ d ∈ g₁ ++ key ++ g₂, isSeparator d = false := by
    intro key g₁ g₂ h₁ h₂ hkey d hd
    rcases List.mem_append.mp hd with hd | hd
    · rcases List.mem_append.mp hd with hd | hd
      · exact isSeparator_of_isBlank (h₁.blank d hd)
      · exact hkey d hd
    · exact isSeparator_of_isBlank (h₂.blank d hd)
  cases h with
  | @pair key value g₁ g₂ g₃ g₄ c h₁ h₂ hc h₃ h₄ =>
    have he := hclean _ rfl
    have hkey : strip (g₁ ++ key ++ g₂) = key := strip_surrounded h₁.blank h₂.blank he.key_trimmed
    rw [entry?_append_cons (hfree h₁ h₂ he.separator) hc (by rw [hkey]; exact he.comment), hkey,
      strip_surrounded h₃.blank h₄.blank he.value_trimmed]
  | @bare key g₁ g₂ hne h₁ h₂ =>
    have he := hclean _ rfl
    have hkey : strip (g₁ ++ key ++ g₂) = key := strip_surrounded h₁.blank h₂.blank he.key_trimmed
    rw [entry?_of_not_separator (hfree h₁ h₂ he.separator) (by rw [hkey]; exact hne)
      (by rw [hkey]; exact he.comment), hkey]
  | blank h => exact entry?_of_isBlank h.blank
  | comment h hc hrest => exact entry?_of_comment h.blank hc

/-- What is read from a line can stand in one. -/
theorem cleanEntry_of_entry? {e : Text × Text} (hline : IsLine line) (h : entry? line = some e) :
    CleanEntry e := by
  rw [ entry?, Option.ite_none_left_eq_some, Option.some.injEq] at h
  obtain ⟨hnot, rfl⟩ := h
  obtain ⟨hne, hcomment⟩ := not_or.mp hnot
  have htrimmed := isTrimmed_strip line
  generalize hs : strip line = s at *
  have hmem : ∀ c ∈ s, c ∈ line := fun c hc => mem_of_mem_strip (hs ▸ hc)
  -- the key begins as the line does, unless it is empty
  have hhead : ∀ c, (s.takeWhile (¬ isSeparator ·)).head? = some c → s.head? = some c := by
    intro c hc
    rw [List.head?_takeWhile, Option.filter_eq_some_iff] at hc
    exact hc.1
  exact {
    key_trimmed := isTrimmed_strip _
    value_trimmed := isTrimmed_strip _
    key_line := hline.mono fun c hc =>
      hmem c ((List.takeWhile_sublist _).subset (mem_of_mem_strip hc))
    value_line := hline.mono fun c hc =>
      hmem c ((List.dropWhile_sublist _).subset (List.mem_of_mem_drop (mem_of_mem_strip hc)))
    separator := fun c hc => by
      simpa using List.mem_takeWhile_imp (mem_of_mem_strip hc)
    comment := fun c hc => by
      rw [head?_strip, stripLeft_eq_self fun d hd => htrimmed.head d (hhead d hd)] at hc
      simpa [hhead c hc] using hcomment }

/-! ### Files -/

/-- The entries of the lines are those that the text was written for. -/
theorem filterMap_lines_of_writes {entries : List (Text × Text)} (h : Writes entries t)
    (hclean : ∀ e ∈ entries, CleanEntry e) : (lines t).filterMap entry? = entries := by
  have hnil : entry? [] = none := rfl
  induction h with
  | last h =>
    have hentry := fun e he => hclean e (Option.mem_toList.mpr he)
    rw [filterMap_lines_of_isLine hnil (isLine_of_spells h hentry), entry?_of_spells h hentry]
  | @line entry entries line ending rest h hending hrest ih =>
    obtain ⟨hfirst, hothers⟩ := List.forall_mem_append.mp hclean
    have hentry := fun e he => hfirst e (Option.mem_toList.mpr he)
    rw [filterMap_lines_append hnil (isLine_of_spells h hentry) hending, entry?_of_spells h hentry,
      ih hothers]

theorem toList_parse_of_writes {entries : List (Text × Text)} (h : Writes entries t)
    (hclean : Clean entries) : (parse (lines t)).toList = entries := by
  rw [parse, filterMap_lines_of_writes h hclean.entry, Assignments.toList_ofList hclean.nodup]

theorem clean_parse (t : Text) : Clean (parse (lines t)).toList := by
  refine ⟨(parse (lines t)).nodup_names, fun e he => ?_⟩
  obtain ⟨line, hline, hentry⟩ := List.mem_filterMap.mp (Assignments.mem_of_mem_toList_ofList he)
  exact cleanEntry_of_entry? (isLine_of_mem_lines hline) hentry

/-- Every list can be written. -/
theorem exists_writes (entries : List (Text × Text)) : ∃ t, Writes entries t := by
  have hgap : IsGap [] := ⟨isBlank_nil, isLine_nil⟩
  induction entries with
  | nil => exact ⟨[], .last (.blank hgap)⟩
  | cons e entries ih =>
    obtain ⟨t, ht⟩ := ih
    exact ⟨_, .line (.pair hgap hgap (by decide : isSeparator '=' = true) hgap hgap)
      (.single (by decide : isLineBreak '\n' = true)) ht⟩

variable {files : FileTree} {path : Path}

theorem load_of_holds (h : files.Holds path t) : load files path = .ok (parse (lines t)) := by
  rw [load, h.readText]
  exact congrArg (fun ls => Except.ok (parse ls)) (lines_foldBreaks t)

theorem exists_parse_of_load {loaded : Assignments Text Text} (h : load files path = .ok loaded) :
    ∃ t, loaded = parse (lines t) := by
  unfold load at h
  split at h
  · exact absurd h (by simp)
  case h_2 t _ => exact ⟨t, (Except.ok.inj h).symm⟩

/-- **Loading undoes writing.** However a clean list is written, it is loaded as it is. What is
loaded from any file is a clean list, so that it can be written, and comes back however that is
done. -/
theorem load_undoes_writing (files : FileTree) (path : Path) :
    (∀ entries t, Clean entries → Writes entries t → files.Holds path t →
      (load files path).map Assignments.toList = .ok entries) ∧
    ∀ loaded, load files path = .ok loaded →
      Clean loaded.toList ∧ (∃ t, Writes loaded.toList t) ∧
        ∀ t, Writes loaded.toList t → ∀ (others : FileTree) (place : Path), others.Holds place t →
          load others place = .ok loaded := by
  refine ⟨fun entries t hclean hwrites hholds => ?_, fun loaded hloaded => ?_⟩
  · rw [load_of_holds hholds]
    exact congrArg Except.ok (toList_parse_of_writes hwrites hclean)
  · have hclean : Clean loaded.toList := by
      obtain ⟨t, rfl⟩ := exists_parse_of_load hloaded
      exact clean_parse t
    refine ⟨hclean, exists_writes _, fun t hwrites others place hholds => ?_⟩
    rw [load_of_holds hholds]
    exact congrArg Except.ok (Assignments.ext (toList_parse_of_writes hwrites hclean))

/-- A file with a comment, an empty key, a key alone, a value that looks like a comment, wide blanks
and five kinds of line ends. -/
theorem load_of_odd_file :
    let entries : List (Text × Text) :=
      [([], "x=:y".toList), ("a b".toList, []), ("k".toList, "# v".toList)]
    let t : Text := "! note\r=x=:y\r\n \t a b\u2028\x0bk\u3000:\u00a0# v \x1f\x85".toList
    let files : FileTree := (∅ : FileTree).write ["f".toList] (Utf8.encode t)
    let path := Path.ofText "f".toList
    (Clean entries ∧ Writes entries t ∧ files.Holds path t) ∧
      (load files path).map Assignments.toList = .ok entries := by
  intro entries t files path
  have hclean : Clean entries := by decide +kernel
  have hempty : IsGap [] := by decide
  have hwrites : Writes entries t :=
    .line (@Spells.comment [] " note".toList '!' hempty (by decide) (by decide +kernel))
        (@IsLineEnd.single '\r' (by decide)) <|
      .line (@Spells.pair [] "x=:y".toList [] [] [] [] '=' hempty hempty (by decide) hempty hempty)
        .pair <|
      .line (@Spells.bare "a b".toList " \t ".toList [] (by decide) (by decide +kernel) hempty)
        (@IsLineEnd.single '\u2028' (by decide)) <|
      .line (.blank hempty) (@IsLineEnd.single '\x0b' (by decide)) <|
      .line (@Spells.pair "k".toList "# v".toList [] "\u3000".toList "\u00a0".toList " \x1f".toList
          ':' hempty (by decide +kernel) (by decide) (by decide +kernel) (by decide +kernel))
        (@IsLineEnd.single '\x85' (by decide)) (.last (.blank hempty))
  have hholds : files.Holds path t := ⟨by decide, rfl⟩
  exact ⟨⟨hclean, hwrites, hholds⟩,
    (load_undoes_writing files path).1 entries t hclean hwrites hholds⟩

end PropertySettings.PropertyText
