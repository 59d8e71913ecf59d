import Mathlib
import PropertySettings.Text.Blank
import PropertySettings.Text.LineBreak

/-!
# Lines and the blanks around them

Stripping a text is finding the one text without blanks at its ends that only blanks surround
(`Text.strip_eq_iff`); all that is said about stripping follows from that.

A text that begins with a line and a line end has that line and those of the rest
(`Text.lines_append_break`, `Text.lines_append_pair`), with one exception: a carriage return makes
one line end with a line feed behind it. Where empty lines come to nothing the exception does not
show, and what comes of the lines of a text is what comes of them one by one
(`Text.filterMap_lines_append`).
-/

namespace PropertySettings.Text

variable {t front back line rest : Text} {c : Char}

/-! ### Up to a character -/

theorem takeWhile_ne_append_cons (h : c ∉ front) (rest : Text) :
    (front ++ c :: rest).takeWhile (· ≠ c) = front := by
  have hfree : ∀ d ∈ front, decide (d ≠ c) = true := fun d hd =>
    decide_eq_true fun heq => h (heq ▸ hd)
  rw [List.takeWhile_append_of_pos hfree, List.takeWhile_cons_of_neg (by simp), List.append_nil]

theorem dropWhile_ne_append_cons (h : c ∉ front) (rest : Text) :
    (front ++ c :: rest).dropWhile (· ≠ c) = c :: rest := by
  have hfree : ∀ d ∈ front, decide (d ≠ c) = true := fun d hd =>
    decide_eq_true fun heq => h (heq ▸ hd)
  rw [List.dropWhile_append_of_pos hfree, List.dropWhile_cons_of_neg (by simp)]

/-! ### Blanks at the ends -/

/-- The text is made of blanks. -/
def IsBlank (t : Text) : Prop :=
  ∀ c ∈ t, isBlank c = true

/-- The text neither begins nor ends with a blank. -/
@[mk_iff]
structure IsTrimmed (t : Text) : Prop where
  head : ∀ c, t.head? = some c → isBlank c = false
  last : ∀ c, t.getLast? = some c → isBlank c = false

instance (t : Text) : Decidable (IsBlank t) :=
  List.decidableBAll (isBlank · = true) t

instance (t : Text) : Decidable (IsTrimmed t) :=
  decidable_of_iff (t.head?.all (!isBlank ·) ∧ t.getLast?.all (!isBlank ·)) <| by
    simp only [Option.all_eq_true, Bool.not_eq_true', ← isTrimmed_iff]

theorem isBlank_nil : IsBlank [] := by
  simp [IsBlank]

theorem isTrimmed_nil : IsTrimmed [] :=
  ⟨by simp, by simp⟩

theorem IsBlank.append (hfront : IsBlank front) (hback : IsBlank back) : IsBlank (front ++ back) :=
  List.forall_mem_append.mpr ⟨hfront, hback⟩

theorem IsBlank.reverse (h : IsBlank t) : IsBlank t.reverse :=
  fun c hc => h c (List.mem_reverse.mp hc)

theorem stripLeft_append (h : IsBlank front) (t : Text) : stripLeft (front ++ t) = stripLeft t :=
  List.dropWhile_append_of_pos h

theorem stripLeft_eq_self (h : ∀ c, t.head? = some c → isBlank c = false) : stripLeft t = t := by
  cases t with
  | nil => rfl
  | cons c rest => exact List.dropWhile_cons_of_neg (by simp [h c rfl])

theorem stripRight_append (h : IsBlank back) (t : Text) : stripRight (t ++ back) = stripRight t := by
  rw [stripRight, List.reverse_append, stripLeft_append h.reverse, stripRight]

theorem stripRight_eq_self (h : ∀ c, t.getLast? = some c → isBlank c = false) :
    stripRight t = t := by
  rw [stripRight, stripLeft_eq_self (by simpa using h), List.reverse_reverse]

/-- Blanks around a text are stripped, and nothing else. -/
theorem strip_surrounded (hfront : IsBlank front) (hback : IsBlank back) (ht : IsTrimmed t) :
    strip (front ++ t ++ back) = t := by
  by_cases hnil : t = []
  · subst hnil
    have hblank : stripLeft (front ++ back) = [] := by
      rw [← List.append_nil (front ++ back), stripLeft_append (hfront.append hback)]
      rfl
    rw [List.append_nil, strip, hblank]
    rfl
  · have hhead : ∀ c, (t ++ back).head? = some c → isBlank c = false := by
      rw [List.head?_append_of_ne_nil t hnil]
      exact ht.head
    rw [strip, List.append_assoc, stripLeft_append hfront, stripLeft_eq_self hhead,
      stripRight_append hback, stripRight_eq_self ht.last]

theorem exists_append_stripLeft (t : Text) : ∃ front, IsBlank front ∧ t = front ++ stripLeft t :=
  ⟨t.takeWhile isBlank, fun _ hc => List.mem_takeWhile_imp hc, List.takeWhile_append_dropWhile.symm⟩

theorem exists_stripRight_append (t : Text) : ∃ back, IsBlank back ∧ t = stripRight t ++ back := by
  obtain ⟨front, hfront, ht⟩ := exists_append_stripLeft t.reverse
  refine ⟨front.reverse, hfront.reverse, ?_⟩
  rw [stripRight, ← List.reverse_append, ← ht, List.reverse_reverse]

theorem isBlank_of_head?_stripLeft (h : (stripLeft t).head? = some c) : isBlank c = false := by
  have hnot := List.head?_dropWhile_not isBlank t
  rw [show t.dropWhile isBlank = stripLeft t from rfl, h] at hnot
  exact hnot

theorem isBlank_of_getLast?_stripRight (h : (stripRight t).getLast? = some c) :
    isBlank c = false := by
  rw [stripRight, List.getLast?_reverse] at h
  exact isBlank_of_head?_stripLeft h

theorem head?_stripLeft_append (h : (stripLeft front).head? = some c) (back : Text) :
    (stripLeft (front ++ back)).head? = some c := by
  obtain ⟨blanks, hblanks, hfront⟩ := exists_append_stripLeft front
  have hhead : (stripLeft front ++ back).head? = some c := by
    rw [List.head?_append, h, Option.some_or]
  rw [hfront, List.append_assoc, stripLeft_append hblanks,
    stripLeft_eq_self fun d hd => isBlank_of_head?_stripLeft (h.trans (hhead.symm.trans hd))]
  exact hhead

theorem head?_strip (t : Text) : (strip t).head? = (stripLeft t).head? := by
  obtain ⟨back, hback, hleft⟩ := exists_stripRight_append (stripLeft t)
  rw [show stripRight (stripLeft t) = strip t from rfl] at hleft
  by_cases hnil : strip t = []
  · -- then the rest is blanks, of which none can stand first
    have hrest : stripLeft t = back := by rw [hleft, hnil, List.nil_append]
    cases hhead : (stripLeft t).head? with
    | none => rw [hnil, List.head?_nil]
    | some c =>
      have hc : isBlank c = true := hback c (hrest ▸ List.mem_of_head? hhead)
      exact absurd hc (by simp [isBlank_of_head?_stripLeft hhead])
  · rw [hleft, List.head?_append_of_ne_nil _ hnil]

theorem isTrimmed_strip (t : Text) : IsTrimmed (strip t) := by
  refine ⟨fun c hc => ?_, fun c hc => isBlank_of_getLast?_stripRight hc⟩
  exact isBlank_of_head?_stripLeft ((head?_strip t).symm.trans hc)

theorem exists_surrounded_strip (t : Text) :
    ∃ front back, IsBlank front ∧ IsBlank back ∧ t = front ++ strip t ++ back := by
  obtain ⟨front, hfront, ht⟩ := exists_append_stripLeft t
  obtain ⟨back, hback, hleft⟩ := exists_stripRight_append (stripLeft t)
  refine ⟨front, back, hfront, hback, ?_⟩
  rw [strip, List.append_assoc, ← hleft, ← ht]

/-- **What stripping finds.** -/
theorem strip_eq_iff {s : Text} :
    strip t = s ↔
      IsTrimmed s ∧ ∃ front back, IsBlank front ∧ IsBlank back ∧ t = front ++ s ++ back := by
  constructor
  · rintro rfl
    exact ⟨isTrimmed_strip t, exists_surrounded_strip t⟩
  · rintro ⟨hs, front, back, hfront, hback, rfl⟩
    exact strip_surrounded hfront hback hs

theorem strip_eq_self (h : IsTrimmed t) : strip t = t :=
  strip_eq_iff.mpr ⟨h, [], [], isBlank_nil, isBlank_nil, by simp⟩

theorem strip_strip (t : Text) : strip (strip t) = strip t :=
  strip_eq_self (isTrimmed_strip t)

theorem strip_eq_nil_iff : strip t = [] ↔ IsBlank t := by
  rw [strip_eq_iff]
  constructor
  · rintro ⟨-, front, back, hfront, hback, rfl⟩
    rw [List.append_nil]
    exact hfront.append hback
  · exact fun h => ⟨isTrimmed_nil, t, [], h, isBlank_nil, by simp⟩

theorem mem_of_mem_strip (h : c ∈ strip t) : c ∈ t := by
  obtain ⟨front, back, -, -, ht⟩ := exists_surrounded_strip t
  rw [ht]
  exact List.mem_append_left _ (List.mem_append_right _ h)

theorem strip_append (h : IsBlank back) (t : Text) : strip (t ++ back) = strip t := by
  obtain ⟨front, inner, hfront, hinner, ht⟩ := exists_surrounded_strip t
  refine strip_eq_iff.mpr ⟨isTrimmed_strip t, front, inner ++ back, hfront, hinner.append h, ?_⟩
  rw [← List.append_assoc, ← ht]

theorem strip_stripRight (t : Text) : strip (stripRight t) = strip t := by
  obtain ⟨back, hback, ht⟩ := exists_stripRight_append t
  rw [← strip_append hback, ← ht]

theorem strip_stripLeft (t : Text) : strip (stripLeft t) = strip t := by
  rw [strip, strip, stripLeft_eq_self fun _ hc => isBlank_of_head?_stripLeft hc]

/-- Around a character that is no blank, each side is stripped at its outer end. -/
theorem strip_append_cons (hc : isBlank c = false) (left right : Text) :
    strip (left ++ c :: right) = stripLeft left ++ c :: stripRight right := by
  obtain ⟨front, hfront, hleft⟩ := exists_append_stripLeft left
  obtain ⟨back, hback, hright⟩ := exists_stripRight_append right
  refine strip_eq_iff.mpr ⟨⟨fun d hd => ?_, fun d hd => ?_⟩, front, back, hfront, hback, ?_⟩
  · rw [List.head?_append, Option.or_eq_some_iff] at hd
    rcases hd with hd | ⟨-, hd⟩
    · exact isBlank_of_head?_stripLeft hd
    · exact Option.some.inj hd ▸ hc
  · rw [List.getLast?_append, List.getLast?_cons, Option.some_or] at hd
    have hlast : (stripRight right).getLast?.getD c = d := Option.some.inj hd
    cases hright : (stripRight right).getLast? with
    | none =>
      rw [hright] at hlast
      exact hlast ▸ hc
    | some e =>
      rw [hright, Option.getD_some] at hlast
      exact isBlank_of_getLast?_stripRight (hlast ▸ hright)
  · calc left ++ c :: right
        = (front ++ stripLeft left) ++ c :: (stripRight right ++ back) := by rw [← hleft, ← hright]
      _ = front ++ (stripLeft left ++ c :: stripRight right) ++ back := by simp

/-! ### Lines -/

/-- The text holds no line break. -/
def IsLine (t : Text) : Prop :=
  ∀ c ∈ t, isLineBreak c = false

/-- What can end a line. -/
inductive IsLineEnd : Text → Prop
  | single {c : Char} (h : isLineBreak c = true) : IsLineEnd [c]
  | pair : IsLineEnd ['\r', '\n']

instance (t : Text) : Decidable (IsLine t) :=
  List.decidableBAll (isLineBreak · = false) t

theorem isLine_nil : IsLine [] := by
  simp [IsLine]

theorem IsLine.append {other : Text} (h : IsLine line) (hother : IsLine other) :
    IsLine (line ++ other) :=
  List.forall_mem_append.mpr ⟨h, hother⟩

theorem IsLine.cons (hc : isLineBreak c = false) (h : IsLine line) : IsLine (c :: line) :=
  List.forall_mem_cons.mpr ⟨hc, h⟩

theorem IsLine.mono {other : Text} (h : IsLine line) (hsub : ∀ c ∈ other, c ∈ line) :
    IsLine other :=
  fun c hc => h c (hsub c hc)

theorem lines_pair (rest : Text) : lines ('\r' :: '\n' :: rest) = [] :: lines rest := by
  rw [lines]

/-- A line break that makes no pair with what follows. -/
theorem lines_break (hc : isLineBreak c = true) (hpair : ∀ next, c = '\r' → rest ≠ '\n' :: next) :
    lines (c :: rest) = [] :: lines rest := by
  rw [lines.eq_3 _ _ hpair, if_pos hc]

theorem lines_cons (hc : isLineBreak c = false) : lines (c :: rest) = consPiece c (lines rest) := by
  have hreturn : c ≠ '\r' := by
    rintro rfl
    exact absurd hc (by decide)
  rw [lines.eq_3 _ _ fun _ h => absurd h hreturn, if_neg (by simp [hc])]

/-- A line goes in front of the first line of what follows it. -/
theorem lines_append_of_lines {first : Text} {others : List Text} (hline : IsLine line)
    (h : lines rest = first :: others) : lines (line ++ rest) = (line ++ first) :: others := by
  induction line with
  | nil => exact h
  | cons c line ih =>
    rw [List.cons_append, lines_cons (hline c List.mem_cons_self),
      ih fun d hd => hline d (List.mem_cons_of_mem c hd)]
    rfl

theorem lines_append_pair (hline : IsLine line) :
    lines (line ++ '\r' :: '\n' :: rest) = line :: lines rest := by
  rw [lines_append_of_lines hline (lines_pair rest), List.append_nil]

theorem lines_append_break (hline : IsLine line) (hc : isLineBreak c = true)
    (hpair : ∀ next, c = '\r' → rest ≠ '\n' :: next) :
    lines (line ++ c :: rest) = line :: lines rest := by
  rw [lines_append_of_lines hline (lines_break hc hpair), List.append_nil]

/-- A text without line breaks is one line, unless it is empty. -/
theorem lines_of_isLine (hline : IsLine line) (hne : line ≠ []) : lines line = [line] := by
  induction line with
  | nil => exact absurd rfl hne
  | cons c line ih =>
    rw [lines_cons (hline c List.mem_cons_self)]
    by_cases hnil : line = []
    · rw [hnil]
      rfl
    · rw [ih (fun d hd => hline d (List.mem_cons_of_mem c hd)) hnil]
      rfl

theorem isLine_of_mem_lines (h : line ∈ lines t) : IsLine line := by
  fun_induction lines t generalizing line with
  | case1 => exact absurd h List.not_mem_nil
  | case2 rest ih =>
    rcases List.mem_cons.mp h with rfl | h
    · exact isLine_nil
    · exact ih h
  | case3 c rest _ hc ih =>
    rcases List.mem_cons.mp h with rfl | h
    · exact isLine_nil
    · exact ih h
  | case4 c rest _ hc ih =>
    rw [Bool.not_eq_true] at hc
    generalize lines rest = others at h ih
    cases others with
    | nil => exact List.mem_singleton.mp h ▸ isLine_nil.cons hc
    | cons first others =>
      rcases List.mem_cons.mp h with rfl | h
      · exact (ih List.mem_cons_self).cons hc
      · exact ih (List.mem_cons_of_mem first h)

/-- Folding the line breaks leaves the lines as they are. -/
theorem lines_foldBreaks (t : Text) : lines (foldBreaks t) = lines t := by
  have hfeed : ∀ rest, lines ('\n' :: rest) = [] :: lines rest :=
    fun rest => lines_break (by decide) fun _ h => absurd h (by decide)
  fun_induction foldBreaks t with
  | case1 => rfl
  | case2 rest ih => rw [hfeed, ih, lines_pair]
  | case3 c rest hpair ih =>
    by_cases hreturn : c = '\r'
    · rw [if_pos hreturn, hfeed, ih, lines_break (hreturn ▸ by decide) hpair]
    · rw [if_neg hreturn, lines.eq_3 _ _ fun _ h => absurd h hreturn, lines.eq_3 _ _ hpair, ih]

/-- What comes of a line that has its end, and then of the rest, where nothing comes of an empty
line. -/
theorem filterMap_lines_append {α : Type} {f : Text → Option α} (hnil : f [] = none)
    {ending : Text} (hline : IsLine line) (hending : IsLineEnd ending) (rest : Text) :
    (lines (line ++ ending ++ rest)).filterMap f = (f line).toList ++ (lines rest).filterMap f := by
  have hcons : ∀ others : List Text,
      (line :: others).filterMap f = (f line).toList ++ others.filterMap f := by
    intro others
    cases hvalue : f line <;> simp [hvalue]
  rw [List.append_assoc]
  cases hending with
  | pair => rw [List.cons_append, List.singleton_append, lines_append_pair hline, hcons]
  | @single c hc =>
    rw [List.singleton_append]
    by_cases hpair : ∃ next, c = '\r' ∧ rest = '\n' :: next
    · -- the line feed ends no line of its own behind the carriage return
      obtain ⟨next, rfl, rfl⟩ := hpair
      rw [lines_append_pair hline, hcons,
        lines_break (by decide : isLineBreak '\n' = true) fun _ h => absurd h (by decide),
        List.filterMap_cons_none hnil]
    · rw [lines_append_break hline hc fun next hc hrest => hpair ⟨next, hc, hrest⟩, hcons]

/-- What comes of the last line, if it has no end. -/
theorem filterMap_lines_of_isLine {α : Type} {f : Text → Option α} (hnil : f [] = none)
    (hline : IsLine line) : (lines line).filterMap f = (f line).toList := by
  by_cases hne : line = []
  · rw [hne, hnil]
    rfl
  · rw [lines_of_isLine hline hne]
    cases hvalue : f line <;> simp [hvalue]

end PropertySettings.Text
