import Mathlib
import PropertySettings.Proofs.Outcomes
import PropertySettings.Proofs.Pieces

/-!
# The one cut at a separator

A **cut** of a text puts separators between pieces, so that behind each piece but the last one the
separator ends first, and the last piece does not hold it. The conditions leave no choice, although
separators of several characters can overlap themselves and reach into a piece: every text has one
cut (`Text.isCut_pieces`) and no other one (`Text.pieces_eq_of_isCut`), for the first occurrence of
the separator is the only one that ends first (`Text.exists_first_occurrence`). An inline path list
is read by its cut (`PathList.parse_by_cut`).
-/

namespace PropertySettings

namespace Text

variable {sep t piece : Text} {found : List Text}

/-- The separator ends first just if it stands nowhere before the end. -/
theorem endsFirst_iff : EndsFirst sep t ↔ ∀ i < t.length, ¬ sep <+: (t ++ sep).drop i := by
  constructor
  · rintro h i hi ⟨after, hafter⟩
    have hsplit : t ++ sep = (t ++ sep).take i ++ sep ++ after := by
      rw [List.append_assoc, hafter, List.take_append_drop]
    have hlength := congrArg List.length hsplit
    simp only [h _ _ hsplit, List.length_append, List.length_take, List.length_nil] at hlength
    omega
  · intro h before after heq
    by_contra hafter
    have hlength := congrArg List.length heq
    have hpos := List.length_pos_of_ne_nil hafter
    simp only [List.length_append] at hlength
    refine h before.length (by omega) ?_
    rw [heq, List.append_assoc, List.drop_left]
    exact List.prefix_append _ _

instance (sep t : Text) : Decidable (EndsFirst sep t) :=
  decidable_of_iff _ endsFirst_iff.symm

/-- The pieces are a cut of the text at the separator. -/
structure IsCut (sep : Text) (pieces : List Text) (t : Text) : Prop where
  joined : List.intercalate sep pieces = t
  ends : ∀ piece ∈ pieces.dropLast, EndsFirst sep piece
  last : ∃ piece, pieces.getLast? = some piece ∧ ¬ sep <:+: piece

theorem isCut_singleton (h : ¬ sep <:+: t) : IsCut sep [t] t :=
  ⟨List.intercalate_singleton, List.forall_mem_nil _, t, rfl, h⟩

/-- One more piece in front, behind which the separator ends first, makes a cut of the whole. -/
theorem IsCut.cons (hpiece : EndsFirst sep piece) (h : IsCut sep found t) :
    IsCut sep (piece :: found) (piece ++ sep ++ t) := by
  obtain ⟨rfl, hends, last, hlast, hfree⟩ := h
  obtain ⟨first, others, rfl⟩ :=
    List.exists_cons_of_ne_nil (List.ne_nil_of_mem (List.mem_of_getLast? hlast))
  refine ⟨?_, ?_, last, ?_, hfree⟩
  · rw [List.intercalate_cons_cons]
  · rw [List.dropLast_cons_cons]
    exact List.forall_mem_cons.mpr ⟨hpiece, hends⟩
  · rw [List.getLast?_cons_cons, hlast]

/-- Where the separator comes up, it comes up first somewhere. -/
theorem exists_first_occurrence (h : sep <:+: t) :
    ∃ front behind, t = front ++ sep ++ behind ∧ EndsFirst sep front := by
  induction t with
  | nil =>
    obtain rfl := List.infix_nil.mp h
    exact ⟨[], [], rfl, endsFirst_nil _⟩
  | cons c rest ih =>
    by_cases hfront : sep <+: c :: rest
    · obtain ⟨behind, hbehind⟩ := hfront
      exact ⟨[], behind, hbehind.symm, endsFirst_nil _⟩
    · obtain ⟨front, behind, rfl, hends⟩ := ih ((List.infix_cons_iff.mp h).resolve_left hfront)
      refine ⟨c :: front, behind, rfl, fun before after heq => ?_⟩
      cases before with
      | nil =>
        refine absurd ?_ hfront
        rw [← List.cons_append, ← List.cons_append, heq]
        exact ⟨after ++ behind, by simp⟩
      | cons d before => exact hends before after (List.cons.inj heq).2

/-- A text that does not hold the separator is a single piece. -/
theorem pieces_eq_singleton (h : ¬ sep <:+: t) : pieces sep t = [t] := by
  induction t with
  | nil => rfl
  | cons c rest ih =>
    have hfront : sep.isPrefixOf (c :: rest) = false := by
      rw [Bool.eq_false_iff, ne_eq, List.isPrefixOf_iff_prefix]
      exact fun hprefix => h hprefix.isInfix
    rw [pieces_cons hfront, ih fun hinfix => h (List.infix_cons hinfix)]
    rfl

/-- **Every text has a cut.** -/
theorem isCut_pieces (hsep : sep ≠ []) (t : Text) : IsCut sep (pieces sep t) t := by
  -- what is behind the first separator is shorter
  induction hlength : t.length using Nat.strong_induction_on generalizing t with
  | _ length ih =>
    by_cases hinfix : sep <:+: t
    · obtain ⟨front, behind, rfl, hends⟩ := exists_first_occurrence hinfix
      have hshort : behind.length < length := by
        have hpos := List.length_pos_of_ne_nil hsep
        simp only [List.length_append] at hlength
        omega
      rw [pieces_append hsep hends]
      exact (ih _ hshort behind rfl).cons hends
    · rw [pieces_eq_singleton hinfix]
      exact isCut_singleton hinfix

/-- **A text has one cut only.** -/
theorem pieces_eq_of_isCut (hsep : sep ≠ []) (h : IsCut sep found t) : pieces sep t = found := by
  obtain ⟨rfl, hends, last, hlast, hfree⟩ := h
  induction found with
  | nil => exact absurd hlast (by simp)
  | cons piece others ih =>
    cases others with
    | nil =>
      obtain rfl : piece = last := by simpa using hlast
      rw [List.intercalate_singleton, pieces_eq_singleton hfree]
    | cons second others =>
      rw [List.dropLast_cons_cons] at hends
      obtain ⟨hpiece, hothers⟩ := List.forall_mem_cons.mp hends
      rw [List.getLast?_cons_cons] at hlast
      rw [List.intercalate_cons_cons, pieces_append hsep hpiece, ih hothers hlast]

end Text

namespace PathList

open Text (IsCut EndsFirst)

/-- **An inline path list is read by its cut.** Let the separator be any text but the empty one.
Then every value has exactly one cut, and its list is that of the pieces which are not empty, in
order and with repeats. So the list of a value that begins with a piece and a separator, which comes
up there first, has the path of the piece, unless that is empty, and then the list of the rest. -/
theorem parse_by_cut (separator : Text) (hsep : separator ≠ []) :
    (∀ value, ∃ pieces, IsCut separator pieces value ∧
      (∀ others, IsCut separator others value → others = pieces) ∧
      parse separator value = .ok ((pieces.filter (· ≠ [])).map Path.ofText)) ∧
    ∀ front, EndsFirst separator front → ∀ behind, ∃ paths, parse separator behind = .ok paths ∧
      parse separator (front ++ separator ++ behind)
        = .ok ((if front = [] then [] else [Path.ofText front]) ++ paths) := by
  refine ⟨fun value => ?_, fun front hfront behind => ?_⟩
  · exact ⟨_, Text.isCut_pieces hsep value, fun others h => (Text.pieces_eq_of_isCut hsep h).symm,
      parse_of_ne_nil hsep value⟩
  · refine ⟨_, parse_of_ne_nil hsep behind, ?_⟩
    rw [parse_of_ne_nil hsep, Text.pieces_append hsep hfront]
    by_cases hnil : front = []
    · simp [ofPieces, hnil]
    · simp [ofPieces, hnil]

/-- A separator that overlaps itself and the piece before it: of the two places where it seems to
stand in `ababa`, only the first one is cut at. -/
theorem parse_at_overlapping_separator :
    let separator : Text := "aba".toList
    let behind : Text := "ababaaba".toList
    IsCut separator ["".toList, "ba".toList, "".toList] behind ∧ EndsFirst separator "a".toList ∧
      parse separator ("a".toList ++ separator ++ behind)
        = .ok [Path.ofText "a".toList, Path.ofText "ba".toList] := by
  intro separator behind
  obtain ⟨hcut, hfront⟩ := parse_by_cut separator (by decide)
  have hends : EndsFirst separator "a".toList := by decide
  have hbehind : IsCut separator ["".toList, "ba".toList, "".toList] behind :=
    ⟨by decide, by decide, [], rfl, by decide⟩
  obtain ⟨pieces, -, honly, hparse⟩ := hcut behind
  obtain ⟨paths, hpaths, hwhole⟩ := hfront "a".toList hends behind
  refine ⟨hbehind, hends, hwhole.trans ?_⟩
  rw [← honly _ hbehind] at hparse
  obtain rfl := Except.ok.inj (hpaths.symm.trans hparse)
  rfl

end PathList

end PropertySettings
