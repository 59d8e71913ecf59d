/-!
# Texts

A **text** is the list of its code points, of which none is a surrogate: every rule of this library
counts, cuts and pads by code point. `Text.pieces` cuts a text at each occurrence of a separator,
taken from the left and without overlap; the equations `pieces_of_isPrefix` and `pieces_cons` say
where the cuts are.
-/

namespace PropertySettings

/-- A text, as the list of its code points. -/
abbrev Text := List Char

namespace Text

/-- The text followed by as many spaces as bring it to `width` code points. -/
def padRight (width : Nat) (t : Text) : Text :=
  t ++ List.replicate (width - t.length) ' '

theorem length_padRight (width : Nat) (t : Text) : (padRight width t).length = max t.length width := by
  simp only [padRight, List.length_append, List.length_replicate]
  omega

/-- The lines one below the other, each ended by a line feed. -/
def unlines (lines : List Text) : Text :=
  lines.flatMap (· ++ ['\n'])

/-- The number of bytes of the text in UTF-8. -/
def byteLength (t : Text) : Nat :=
  t.foldr (fun c n => c.utf8Size + n) 0

/-! ### Pieces between separators -/

/-- Puts a code point in front of the first piece. -/
def consPiece (c : Char) : List Text → List Text
  | [] => [[c]]
  | piece :: pieces => (c :: piece) :: pieces

/-- The pieces of a text whose first `skip` code points are still part of a separator. -/
def piecesFrom (sep : Text) : (skip : Nat) → Text → List Text
  | _, [] => [[]]
  | skip + 1, _ :: rest => piecesFrom sep skip rest
  | 0, c :: rest =>
    if sep.isPrefixOf (c :: rest) then [] :: piecesFrom sep (sep.length - 1) rest
    else consPiece c (piecesFrom sep 0 rest)

/-- The pieces of a text between the occurrences of `sep`, taken from the left and without overlap;
one more piece than there are occurrences. -/
def pieces (sep t : Text) : List Text :=
  piecesFrom sep 0 t

@[simp]
theorem pieces_nil (sep : Text) : pieces sep [] = [[]] := rfl

theorem piecesFrom_eq_pieces_drop (sep : Text) (skip : Nat) (t : Text) :
    piecesFrom sep skip t = pieces sep (t.drop skip) := by
  induction t generalizing skip with
  | nil => cases skip <;> simp [piecesFrom, pieces]
  | cons c rest ih =>
    cases skip with
    | zero => rfl
    | succ skip => simpa [piecesFrom] using ih skip

/-- A separator at the front ends an empty piece. -/
theorem pieces_of_isPrefix {sep t : Text} (hsep : sep ≠ []) (h : sep.isPrefixOf t) :
    pieces sep t = [] :: pieces sep (t.drop sep.length) := by
  obtain ⟨s, sep, rfl⟩ := List.exists_cons_of_ne_nil hsep
  cases t with
  | nil => simp at h
  | cons c rest =>
    rw [pieces, piecesFrom, if_pos h, piecesFrom_eq_pieces_drop]
    simp

/-- Any other code point belongs to the first piece. -/
theorem pieces_cons {sep : Text} {c : Char} {rest : Text} (h : sep.isPrefixOf (c :: rest) = false) :
    pieces sep (c :: rest) = consPiece c (pieces sep rest) := by
  simp [pieces, piecesFrom, h]

end Text

end PropertySettings
