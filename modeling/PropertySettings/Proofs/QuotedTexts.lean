import Mathlib
import PropertySettings.Proofs.JsonTokens
import PropertySettings.Proofs.Lines
import PropertySettings.Text.Quoted

/-!
# Reading quoted texts

A reader goes through a quoted text character by character. It knows the **mark** that opened the
text; a backslash leads to a letter that stands for a character, or to a number of two, four or
eight hexadecimal digits. What is written for a character makes the reader add that character,
whatever has been read before (`Quoted.run_escape`), so a quoted text is read back
(`unquoted?_quoted`) and different texts are quoted differently.

A quoted text is also **visible**: all its characters are printable (`isVisible_quoted`). A visible
text is a single line, and holds no control character.
-/

namespace PropertySettings.Text

variable {c mark : Char} {t front back : Text}

/-! ### Visible texts -/

/-- Every character of the text is printable. -/
def IsVisible (t : Text) : Prop :=
  ∀ c ∈ t, isPrintable c = true

instance (t : Text) : Decidable (IsVisible t) :=
  List.decidableBAll (isPrintable · = true) t

/-- The character is a control. -/
def IsControl (c : Char) : Prop :=
  c.toNat < 0x20 ∨ 0x7f ≤ c.toNat ∧ c.toNat < 0xa0

theorem IsVisible.append (hfront : IsVisible front) (hback : IsVisible back) :
    IsVisible (front ++ back) :=
  List.forall_mem_append.mpr ⟨hfront, hback⟩

theorem isPrintable_of_isLineBreak (h : isLineBreak c = true) : isPrintable c = false := by
  have hhidden : List.Forall (isPrintable · = false) ['\n', '\x0b', '\x0c', '\r', '\x1c', '\x1d',
      '\x1e', '\u0085', '\u2028', '\u2029'] := by decide +kernel
  exact List.forall_iff_forall_mem.mp hhidden c (of_decide_eq_true h)

theorem IsVisible.isLine (h : IsVisible t) : IsLine t := by
  intro c hc
  have hprintable := h c hc
  by_contra hbreak
  rw [isPrintable_of_isLineBreak (Bool.eq_true_of_not_eq_false hbreak)] at hprintable
  exact absurd hprintable (by decide)

theorem IsVisible.not_isControl (h : IsVisible t) : ∀ c ∈ t, ¬ IsControl c := by
  intro c hc hcontrol
  have hranges : (0x0, 0x1f) ∈ unprintable.ranges ∧ (0x7f, 0xa0) ∈ unprintable.ranges := by decide
  have hhidden : unprintable.contains c.toNat = true := by
    refine (unprintable.contains_iff _).mpr ?_
    rcases hcontrol with hlow | ⟨hfirst, hlast⟩
    · exact ⟨_, hranges.1, Nat.zero_le _, Nat.le_of_lt_succ hlow⟩
    · exact ⟨_, hranges.2, hfirst, hlast.le⟩
  have hprintable := h c hc
  rw [isPrintable, hhidden] at hprintable
  exact absurd hprintable (by decide)

/-! ### What is written is visible -/

theorem isVisible_hexDigits (width n : Nat) : IsVisible (hexDigits width n) := by
  have hdigit : ∀ n < 16, isPrintable (Nat.digitChar n) = true := by decide
  induction width generalizing n with
  | zero => exact List.forall_mem_nil _
  | succ width ih =>
    have hlast := hdigit (n % 16) (Nat.mod_lt _ (by decide))
    exact (ih (n / 16)).append (List.forall_mem_singleton.mpr hlast)

namespace Quoted

/-- The character can be the mark around a text. -/
def IsMark (c : Char) : Prop :=
  c = '\x27' ∨ c = '\x22'

theorem isMark_mark (t : Text) : IsMark (Quoted.mark t) := by
  unfold Quoted.mark
  split
  · exact .inr rfl
  · exact .inl rfl

theorem IsMark.isPrintable (h : IsMark c) : isPrintable c = true := by
  rcases h with rfl | rfl <;> decide

/-- The letters that a number follows, with the count of its digits. -/
def widths : List (Char × Nat) :=
  [('x', 2), ('u', 4), ('U', 8)]

/-- A number is written behind a letter, in as many digits as that takes. -/
theorem exists_escapeNumber_eq (c : Char) :
    ∃ letter width, (letter, width) ∈ widths ∧ c.toNat < 16 ^ width ∧
      escapeNumber c = ['\\', letter] ++ hexDigits width c.toNat := by
  rw [escapeNumber]
  split_ifs with hbyte hpair
  · exact ⟨'x', 2, by decide, hbyte, rfl⟩
  · exact ⟨'u', 4, by decide, hpair, rfl⟩
  · exact ⟨'U', 8, by decide, c.val.toNat_lt, rfl⟩

theorem isVisible_escapeNumber (c : Char) : IsVisible (escapeNumber c) := by
  have hletter : ∀ entry ∈ widths, IsVisible ['\\', entry.1] := by decide
  obtain ⟨letter, width, hmem, -, hescape⟩ := exists_escapeNumber_eq c
  rw [hescape]
  exact (hletter _ hmem).append (isVisible_hexDigits width c.toNat)

theorem isVisible_escape (hmark : IsMark mark) (c : Char) : IsVisible (escape mark c) := by
  have hbackslash : Text.isPrintable '\\' = true := by decide
  unfold escape
  split_ifs with hquote hfeed hreturn htab hprintable
  · have hc : Text.isPrintable c = true := by
      rcases hquote with rfl | rfl
      · exact hmark.isPrintable
      · exact hbackslash
    exact List.forall_mem_cons.mpr ⟨hbackslash, List.forall_mem_singleton.mpr hc⟩
  · decide
  · decide
  · decide
  · exact List.forall_mem_singleton.mpr hprintable
  · exact isVisible_escapeNumber c

end Quoted

/-- **Quoted texts are visible**, whatever they quote. -/
theorem isVisible_quoted (t : Text) : IsVisible (quoted t) := by
  have hmark := Quoted.isMark_mark t
  have hinner : IsVisible (t.flatMap (Quoted.escape (Quoted.mark t))) := by
    intro d hd
    obtain ⟨c, -, hescape⟩ := List.mem_flatMap.mp hd
    exact Quoted.isVisible_escape hmark c d hescape
  have hends : IsVisible [Quoted.mark t] := List.forall_mem_singleton.mpr hmark.isPrintable
  exact (hends.append hinner).append hends

/-! ### The reader -/

namespace Quoted

/-- What has been read, and where in a quoted text the next character stands. -/
inductive Mode where
  | plain (read : Text)
  | escaped (read : Text)
  /-- Within a number, with so many digits to come after the next one. -/
  | number (read : Text) (left value : Nat)
  | closed (read : Text)

/-- Where the next character stands while so many digits of a number are still to come. -/
def Mode.awaiting (read : Text) : (left value : Nat) → Mode
  | 0, value => .plain (read ++ [Char.ofNat value])
  | left + 1, value => .number read left value

/-- The characters that stand for others behind a backslash. -/
def letters : List (Char × Char) :=
  [('n', '\n'), ('r', '\r'), ('t', '\t'), ('\\', '\\'), ('\x27', '\x27'), ('\x22', '\x22')]

/-- What a character leads to. -/
def step (mark : Char) : Mode → Char → Option Mode
  | .plain read, c =>
    if c = mark then some (.closed read)
    else if c = '\\' then some (.escaped read)
    else some (.plain (read ++ [c]))
  | .escaped read, c =>
    match widths.lookup c with
    | some width => some (.awaiting read width 0)
    | none => (letters.lookup c).map fun d => .plain (read ++ [d])
  | .number read left value, c =>
    (Json.hexValue? c).map fun digit => .awaiting read left (16 * value + digit)
  | .closed _, _ => none

/-- What a text leads to. -/
def run (mark : Char) (mode : Mode) (t : Text) : Option Mode :=
  t.foldlM (step mark) mode

end Quoted

/-- The text that a quoted text stands for. -/
def unquoted? : Text → Option Text
  | [] => none
  | mark :: t =>
    match Quoted.run mark (.plain []) t with
    | some (.closed read) => some read
    | _ => none

/-! ### Reading what is written -/

namespace Quoted

variable {read : Text} {left : Nat}

theorem run_append (mode : Mode) (s t : Text) :
    run mark mode (s ++ t) = (run mark mode s).bind (run mark · t) :=
  List.foldlM_append

/-- A number is read from its digits, as far as they tell it. -/
theorem run_hexDigits (width n value : Nat) :
    run mark (.awaiting read (left + width) value) (hexDigits width n)
      = some (.awaiting read left (16 ^ width * value + n % 16 ^ width)) := by
  -- the lowest digit is the last one, so it is read after those of the quotient
  induction width generalizing n left with
  | zero => simp [run, hexDigits, Nat.mod_one]
  | succ width ih =>
    have hdigit := Json.hexValue?_digitChar (n % 16) (Nat.mod_lt _ (by decide))
    have hvalue : 16 * (16 ^ width * value + n / 16 % 16 ^ width) + n % 16
        = 16 ^ (width + 1) * value + n % 16 ^ (width + 1) := by
      rw [pow_succ', Nat.mod_mul]
      ring
    rw [hexDigits, run_append, show left + (width + 1) = left + 1 + width by omega, ih]
    simp [run, step, Mode.awaiting, hdigit, hvalue]

theorem run_backslash (hmark : IsMark mark) (t : Text) :
    run mark (.plain read) ('\\' :: t) = run mark (.escaped read) t := by
  rcases hmark with rfl | rfl <;> rfl

/-- A letter behind a backslash adds what it stands for. -/
theorem run_letter {letter : Char} (hmark : IsMark mark) (hwidth : widths.lookup letter = none)
    (hletter : letters.lookup letter = some c) :
    run mark (.plain read) ['\\', letter] = some (.plain (read ++ [c])) := by
  rw [run_backslash hmark]
  simp [run, step, hwidth, hletter]

/-- A number behind a backslash adds the character with that number. -/
theorem run_escapeNumber (hmark : IsMark mark) (c : Char) :
    run mark (.plain read) (escapeNumber c) = some (.plain (read ++ [c])) := by
  have hlookup : ∀ entry ∈ widths, widths.lookup entry.1 = some entry.2 := by decide
  obtain ⟨letter, width, hmem, hlt, hescape⟩ := exists_escapeNumber_eq c
  have hletter : run mark (.plain read) ['\\', letter] = some (.awaiting read width 0) := by
    rw [run_backslash hmark]
    simp [run, step, hlookup _ hmem]
  have hdigits : run mark (.awaiting read width 0) (hexDigits width c.toNat)
      = some (.plain (read ++ [c])) := by
    have hrun : run mark (.awaiting read (0 + width) 0) (hexDigits width c.toNat)
        = some (.awaiting read 0 _) := run_hexDigits width c.toNat 0
    rwa [Nat.zero_add, Nat.mul_zero, Nat.zero_add, Nat.mod_eq_of_lt hlt, Mode.awaiting,
      Char.ofNat_toNat] at hrun
  rw [hescape, run_append, hletter, Option.bind_some, hdigits]

/-- **What is written for a character adds that character.** -/
theorem run_escape (hmark : IsMark mark) (c : Char) :
    run mark (.plain read) (escape mark c) = some (.plain (read ++ [c])) := by
  unfold escape
  split_ifs with hquote hfeed hreturn htab hprintable
  · have hself : widths.lookup c = none ∧ letters.lookup c = some c := by
      rcases hquote with rfl | rfl
      · rcases hmark with rfl | rfl <;> exact ⟨rfl, rfl⟩
      · exact ⟨rfl, rfl⟩
    exact run_letter hmark hself.1 hself.2
  · exact hfeed ▸ run_letter hmark rfl rfl
  · exact hreturn ▸ run_letter hmark rfl rfl
  · exact htab ▸ run_letter hmark rfl rfl
  · rw [not_or] at hquote
    simp [run, step, hquote]
  · exact run_escapeNumber hmark c

theorem run_escapes (hmark : IsMark mark) (t : Text) :
    run mark (.plain read) (t.flatMap (escape mark)) = some (.plain (read ++ t)) := by
  induction t generalizing read with
  | nil => simp [run]
  | cons c t ih =>
    rw [List.flatMap_cons, run_append, run_escape hmark, Option.bind_some, ih, List.append_assoc,
      List.singleton_append]

end Quoted

/-- **Quoted texts are read back.** -/
theorem unquoted?_quoted (t : Text) : unquoted? (quoted t) = some t := by
  have hmark := Quoted.isMark_mark t
  have hend : Quoted.run (Quoted.mark t) (.plain t) [Quoted.mark t] = some (.closed t) := by
    simp [Quoted.run, Quoted.step]
  rw [quoted, List.cons_append, unquoted?, Quoted.run_append, Quoted.run_escapes hmark,
    List.nil_append, Option.bind_some, hend]

end PropertySettings.Text
