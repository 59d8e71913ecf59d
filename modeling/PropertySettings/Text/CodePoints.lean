/-!
# Sets of code points

A property of code points is given by the ranges that have it, in ascending order.
Main statement: the search, which ends at the first range that begins above the code point, finds
just what lies in one of the ranges (`CodePoints.contains_iff`).
-/

namespace PropertySettings.Text

namespace CodePoints

/-- The ranges ascend: each one begins above the end of the one before. -/
def Ascending : List (Nat × Nat) → Prop
  | [] => True
  | [(first, last)] => first ≤ last
  | (first, last) :: (first', last') :: rest =>
    first ≤ last ∧ last < first' ∧ Ascending ((first', last') :: rest)

instance decidableAscending : (ranges : List (Nat × Nat)) → Decidable (Ascending ranges)
  | [] => .isTrue trivial
  | [(first, last)] => inferInstanceAs (Decidable (first ≤ last))
  | (first, last) :: (first', last') :: rest =>
    have := decidableAscending ((first', last') :: rest)
    inferInstanceAs (Decidable (first ≤ last ∧ last < first' ∧ Ascending ((first', last') :: rest)))

namespace Ascending

variable {range : Nat × Nat} {ranges : List (Nat × Nat)}

theorem tail : {ranges : List (Nat × Nat)} → Ascending (range :: ranges) → Ascending ranges
  | [], _ => trivial
  | _ :: _, ⟨_, _, h⟩ => h

/-- What stands behind a range begins above it. -/
theorem lt_of_mem (h : Ascending (range :: ranges)) : ∀ other ∈ ranges, range.1 < other.1 := by
  induction ranges generalizing range with
  | nil => simp
  | cons next rest ih =>
    intro other hother
    have hfirst : range.1 < next.1 := Nat.lt_of_le_of_lt h.1 h.2.1
    rcases List.mem_cons.mp hother with rfl | hrest
    · exact hfirst
    · exact Nat.lt_trans hfirst (ih h.2.2 other hrest)

end Ascending

end CodePoints

/-- A set of code points, as ascending ranges `(first, last)`. -/
structure CodePoints where
  ranges : List (Nat × Nat)
  ascending : CodePoints.Ascending ranges := by decide +kernel

namespace CodePoints

/-- Looks for a range that holds the code point, up to the first one that begins above it. -/
def search : List (Nat × Nat) → Nat → Bool
  | [], _ => false
  | (first, last) :: rest, n => if n < first then false else n ≤ last || search rest n

/-- Whether the code point is in the set. -/
def contains (s : CodePoints) (n : Nat) : Bool :=
  search s.ranges n

/-- The early end of the search loses nothing where the ranges ascend. -/
theorem search_iff {ranges : List (Nat × Nat)} (h : Ascending ranges) (n : Nat) :
    search ranges n = true ↔ ∃ range ∈ ranges, range.1 ≤ n ∧ n ≤ range.2 := by
  induction ranges with
  | nil => simp [search]
  | cons range rest ih =>
    obtain ⟨first, last⟩ := range
    have hbehind := h.lt_of_mem
    by_cases hn : n < first
    · have hnone : ∀ range ∈ (first, last) :: rest, ¬ (range.1 ≤ n ∧ n ≤ range.2) := by
        intro range hrange
        rcases List.mem_cons.mp hrange with rfl | hrest
        · simp only; omega
        · have := hbehind range hrest
          simp only at this
          omega
      simpa [search, hn] using hnone
    · simp [search, hn, ih h.tail, Nat.le_of_not_lt hn]

theorem contains_iff (s : CodePoints) (n : Nat) :
    s.contains n = true ↔ ∃ range ∈ s.ranges, range.1 ≤ n ∧ n ≤ range.2 :=
  search_iff s.ascending n

end CodePoints

end PropertySettings.Text
