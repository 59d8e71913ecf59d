import PropertySettings.Text.Basic

/-!
# Paths

A path is an **anchor** and the **names** below it. Reading drops empty names and the name `.`, so
that doubled slashes, trailing slashes and `.` components vanish; `..` is a name like any other.
Exactly two leading slashes are an anchor of their own, three and more are one. A path without
anchor and names is written `.`.
-/

namespace PropertySettings

/-- Whether a text can be a name in a path. -/
def IsPathName (name : Text) : Prop :=
  name ≠ [] ∧ name ≠ ['.'] ∧ '/' ∉ name

instance (name : Text) : Decidable (IsPathName name) :=
  inferInstanceAs (Decidable (_ ∧ _ ∧ _))

/-- Where the names of a path begin. -/
inductive Anchor where
  /-- At a working directory. -/
  | relative
  /-- At the root. -/
  | root
  /-- At the root, written with two slashes. -/
  | doubleRoot
deriving DecidableEq

/-- A path in normal form. -/
structure Path where
  anchor : Anchor
  names : List Text
  proper : ∀ name ∈ names, IsPathName name
deriving DecidableEq

namespace Anchor

/-- The slashes of the anchor. -/
def toText : Anchor → Text
  | .relative => []
  | .root => ['/']
  | .doubleRoot => ['/', '/']

/-- The anchor of a path text. -/
def ofText : Text → Anchor
  | '/' :: '/' :: '/' :: _ => .root
  | '/' :: '/' :: _ => .doubleRoot
  | '/' :: _ => .root
  | _ => .relative

end Anchor

/-- No piece between separators of one character holds the separator. -/
theorem Text.not_mem_of_mem_pieces {c : Char} {t piece : Text} (h : piece ∈ Text.pieces [c] t) :
    c ∉ piece := by
  induction t generalizing piece with
  | nil =>
    rw [Text.pieces_nil, List.mem_singleton] at h
    subst h
    simp
  | cons d rest ih =>
    by_cases hd : c = d
    · subst hd
      rw [Text.pieces_of_isPrefix (by simp) (by simp)] at h
      rcases List.mem_cons.mp h with rfl | h
      · simp
      · exact ih h
    · have hfront : [c].isPrefixOf (d :: rest) = false := by simp [List.isPrefixOf, hd]
      rw [Text.pieces_cons hfront] at h
      generalize hp : Text.pieces [c] rest = ps at h
      cases ps with
      | nil =>
        rw [Text.consPiece, List.mem_singleton] at h
        subst h
        simpa using hd
      | cons p ps =>
        rcases List.mem_cons.mp h with rfl | h
        · simpa [hd] using ih (hp ▸ List.mem_cons_self)
        · exact ih (hp ▸ List.mem_cons_of_mem _ h)

namespace Path

/-- The names in a path text. -/
def namesOf (t : Text) : List Text :=
  (Text.pieces ['/'] t).filter fun piece => piece ≠ [] ∧ piece ≠ ['.']

theorem isPathName_of_mem_namesOf {t name : Text} (h : name ∈ namesOf t) : IsPathName name := by
  obtain ⟨hmem, hname⟩ := List.mem_filter.mp h
  obtain ⟨h1, h2⟩ := of_decide_eq_true hname
  exact ⟨h1, h2, Text.not_mem_of_mem_pieces hmem⟩

/-- The path that a text denotes. -/
def ofText (t : Text) : Path :=
  ⟨Anchor.ofText t, namesOf t, fun _ => isPathName_of_mem_namesOf⟩

/-- The text of a path. -/
def toText (path : Path) : Text :=
  match path.anchor, path.names with
  | .relative, [] => ['.']
  | anchor, names => anchor.toText ++ List.intercalate ['/'] names

end Path

end PropertySettings
