import PropertySettings.Text.Basic

/-!
# Line breaks

A text is cut into **lines** at ten line-break characters, a carriage return followed by a line
feed counting as one break; a break at the end opens no further line. **Folding** writes each of
the three breaks `\r\n`, `\r` and `\n` as `\n` and leaves the other break characters alone.
-/

namespace PropertySettings.Text

/-- The characters that end a line. -/
def isLineBreak (c : Char) : Bool :=
  c ∈ ['\n', '\x0b', '\x0c', '\r', '\x1c', '\x1d', '\x1e', '\u0085', '\u2028', '\u2029']

/-- The lines of a text, without the breaks that end them. -/
def lines : Text → List Text
  | [] => []
  | '\r' :: '\n' :: rest => [] :: lines rest
  | c :: rest => if isLineBreak c then [] :: lines rest else consPiece c (lines rest)

/-- The text with each of the breaks `\r\n`, `\r` and `\n` written as `\n`. -/
def foldBreaks : Text → Text
  | [] => []
  | '\r' :: '\n' :: rest => '\n' :: foldBreaks rest
  | c :: rest => (if c = '\r' then '\n' else c) :: foldBreaks rest

@[simp]
theorem lines_nil : lines [] = [] := rfl

@[simp]
theorem foldBreaks_nil : foldBreaks [] = [] := rfl

/-- A folded text holds no carriage return. -/
theorem not_mem_foldBreaks (t : Text) : '\r' ∉ foldBreaks t := by
  fun_induction foldBreaks t with
  | case1 => simp
  | case2 rest ih => simp [ih]
  | case3 c rest _ ih =>
    by_cases h : c = '\r'
    · simp [h, ih]
    · simp [h, ih, Ne.symm h]

end PropertySettings.Text
