import Mathlib
import PropertySettings.Text.Basic

/-!
# Pieces between separators of any length

Cutting begins at the left and may not overlap, so a piece ends where the separator comes up first.
A text behind which the separator comes up only where it is put is a piece of its own, and cutting
goes on anew behind the separator (`Text.pieces_append`). There is nothing between the separators just
if the text is made of them (`Text.pieces_eq_nil_iff`).
-/

namespace PropertySettings.Text

variable {sep front t : Text} {c : Char}

/-- In the text with the separator behind it, the separator stands at the end only. -/
def EndsFirst (sep t : Text) : Prop :=
  ∀ before after, t ++ sep = before ++ sep ++ after → after = []

theorem endsFirst_nil (sep : Text) : EndsFirst sep [] := by
  intro before after h
  have hlength := congrArg List.length h
  simp only [List.nil_append, List.length_append] at hlength
  exact List.eq_nil_of_length_eq_zero (by omega)

theorem EndsFirst.tail (h : EndsFirst sep (c :: t)) : EndsFirst sep t := by
  intro before after heq
  exact h (c :: before) after (by rw [List.cons_append, heq]; rfl)

/-- The separator ends first behind a text that does not hold its first character. -/
theorem endsFirst_of_not_mem (h : c ∉ t) (rest : Text) : EndsFirst (c :: rest) t := by
  induction t with
  | nil => exact endsFirst_nil _
  | cons d t ih =>
    obtain ⟨hd, ht⟩ := not_or.mp (mt List.mem_cons.mpr h)
    intro before after heq
    cases before with
    | nil => exact absurd (List.cons.inj heq).1.symm hd
    | cons b before => exact ih ht before after (List.cons.inj heq).2

/-- No separator stands at the front of a text behind which it ends first. -/
theorem EndsFirst.isPrefixOf_eq_false (h : EndsFirst sep (c :: t)) (rest : Text) :
    sep.isPrefixOf (c :: t ++ sep ++ rest) = false := by
  rw [Bool.eq_false_iff, ne_eq, List.isPrefixOf_iff_prefix]
  intro hprefix
  have hshort : sep <+: c :: t ++ sep := by
    refine List.prefix_of_prefix_length_le hprefix (List.prefix_append _ _) ?_
    rw [List.length_append]
    omega
  obtain ⟨after, hafter⟩ := hshort
  obtain rfl : after = [] := h [] after (by rw [← hafter, List.nil_append])
  have hlength := congrArg List.length hafter
  simp only [List.length_append, List.length_cons, List.length_nil] at hlength
  omega

theorem pieces_sep_append (hsep : sep ≠ []) (rest : Text) :
    pieces sep (sep ++ rest) = [] :: pieces sep rest := by
  rw [pieces_of_isPrefix hsep (by simp), List.drop_left]

/-- **Cutting at a separator.** -/
theorem pieces_append (hsep : sep ≠ []) (h : EndsFirst sep t) (rest : Text) :
    pieces sep (t ++ sep ++ rest) = t :: pieces sep rest := by
  induction t with
  | nil => exact pieces_sep_append hsep rest
  | cons c t ih =>
    have hfront := h.isPrefixOf_eq_false rest
    simp only [List.cons_append] at hfront ⊢
    rw [pieces_cons hfront, ih h.tail]
    rfl

/-- The piece that gets one more character is not empty. -/
theorem exists_mem_consPiece_ne_nil (c : Char) (found : List Text) :
    ∃ piece ∈ consPiece c found, piece ≠ [] := by
  cases found with
  | nil => exact ⟨[c], List.mem_cons_self, List.cons_ne_nil _ _⟩
  | cons piece others => exact ⟨c :: piece, List.mem_cons_self, List.cons_ne_nil _ _⟩

theorem eq_nil_of_mem_pieces_replicate (hsep : sep ≠ []) (n : Nat) :
    ∀ piece ∈ pieces sep (List.replicate n sep).flatten, piece = [] := by
  induction n with
  | zero => simp
  | succ n ih =>
    rw [List.replicate_succ, List.flatten_cons, pieces_sep_append hsep]
    exact List.forall_mem_cons.mpr ⟨rfl, ih⟩

/-- A text without anything between separators is made of them. -/
theorem exists_eq_replicate_of_pieces (hsep : sep ≠ []) (h : ∀ piece ∈ pieces sep t, piece = []) :
    ∃ n, t = (List.replicate n sep).flatten := by
  -- what is left behind a separator is shorter
  induction hlength : t.length using Nat.strong_induction_on generalizing t with
  | _ length ih =>
    cases t with
    | nil => exact ⟨0, rfl⟩
    | cons c rest =>
      cases hfront : sep.isPrefixOf (c :: rest) with
      | true =>
        obtain ⟨behind, hbehind⟩ := List.isPrefixOf_iff_prefix.mp hfront
        rw [← hbehind, pieces_sep_append hsep] at h
        have hshort : behind.length < length := by
          have hpos := List.length_pos_of_ne_nil hsep
          rw [← hlength, ← hbehind, List.length_append]
          omega
        obtain ⟨n, hn⟩ := ih _ hshort (List.forall_mem_cons.mp h).2 rfl
        exact ⟨n + 1, by rw [← hbehind, hn, List.replicate_succ, List.flatten_cons]⟩
      | false =>
        rw [pieces_cons hfront] at h
        obtain ⟨piece, hmem, hne⟩ := exists_mem_consPiece_ne_nil c (pieces sep rest)
        exact absurd (h piece hmem) hne

/-- There is nothing between separators just if there is nothing else. -/
theorem pieces_eq_nil_iff (hsep : sep ≠ []) :
    (∀ piece ∈ pieces sep t, piece = []) ↔ ∃ n, t = (List.replicate n sep).flatten := by
  refine ⟨exists_eq_replicate_of_pieces hsep, ?_⟩
  rintro ⟨n, rfl⟩
  exact eq_nil_of_mem_pieces_replicate hsep n

end PropertySettings.Text
