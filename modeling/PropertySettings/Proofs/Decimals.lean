import Mathlib
import PropertySettings.Proofs.Reading

/-!
# Integers as decimal numerals

A text **spells** a numeral if it is a sign, or none, and behind it the ASCII digits of one or more
numbers below ten. What it denotes is told by the places of the digits, as the sum of each digit
times its power of ten. Without a plus sign and leading zeros the same text is left of all spellings
of a number: its shortest numeral, or nothing of zero (`Numeral.Spells.bare_eq`).

Main statement: these texts, and no others, are read as integers
(`readInteger_reads_signed_decimals`).
-/

namespace PropertySettings

namespace Numeral

/-! ### Spelling -/

/-- What can stand before the digits, and whether it makes the number negative. -/
def signs : List (Text × Bool) := [([], false), (['+'], false), (['-'], true)]

/-- The text is one or more decimal digits behind a sign or none, and nothing else. -/
structure Spells (t : Text) (negative : Bool) (places : List Nat) : Prop where
  text : ∃ sign, (sign, negative) ∈ signs ∧ t = sign ++ places.map Nat.digitChar
  ne_nil : places ≠ []
  lt_ten : ∀ n ∈ places, n < 10

/-- The number that is spelled, the last digit being that of the ones. -/
def spelled (negative : Bool) (places : List Nat) : Int :=
  let n : Nat := Nat.ofDigits 10 places.reverse
  if negative then -n else n

variable {t : Text} {negative : Bool} {places : List Nat}

theorem all_isDigit_map_digitChar (h : ∀ n ∈ places, n < 10) :
    (places.map Nat.digitChar).all Char.isDigit := by
  have hdigit : ∀ n < 10, (Nat.digitChar n).isDigit = true := by decide
  rw [List.all_map, List.all_eq_true]
  exact fun n hn => hdigit n (h n hn)

/-- Digits are those of numbers below ten. -/
theorem exists_places {digits : Text} (h : digits.all Char.isDigit) :
    ∃ places : List Nat, digits = places.map Nat.digitChar ∧ ∀ n ∈ places, n < 10 := by
  have hdigit (d : Char) (hd : d ∈ digits) :
      d.toNat - 48 < 10 ∧ Nat.digitChar (d.toNat - 48) = d := by
    have hbounds : 48 ≤ d.toNat ∧ d.toNat ≤ 57 :=
      Char.isDigit_iff_toNat.mp (List.all_eq_true.mp h d hd)
    have hlt : d.toNat - 48 < 10 := by omega
    refine ⟨hlt, Char.toNat_inj.mp ?_⟩
    rw [Nat.toNat_digitChar_of_lt_ten hlt]
    omega
  have hsame : digits.map id = digits.map fun d => Nat.digitChar (d.toNat - 48) :=
    List.map_congr_left fun d hd => (hdigit d hd).2.symm
  refine ⟨digits.map fun d => d.toNat - 48, ?_, ?_⟩
  · rw [List.map_map]
    exact digits.map_id.symm.trans hsame
  · intro n hn
    obtain ⟨d, hd, rfl⟩ := List.mem_map.mp hn
    exact (hdigit d hd).1

/-- A text that spells a numeral is taken apart into it. -/
theorem Spells.ofText?_eq (h : Spells t negative places) :
    ofText? t = some ⟨negative, places.map Nat.digitChar⟩ := by
  have hne : places.map Nat.digitChar ≠ [] := mt List.map_eq_nil_iff.mp h.ne_nil
  have hall := all_isDigit_map_digitChar h.lt_ten
  obtain ⟨sign, hsign, rfl⟩ := h.text
  simp only [signs, List.mem_cons, Prod.mk.injEq, List.not_mem_nil, or_false] at hsign
  rcases hsign with ⟨rfl, rfl⟩ | ⟨rfl, rfl⟩ | ⟨rfl, rfl⟩
  · exact ofText?_of_isDigit hne hall
  · exact if_pos ⟨hne, hall⟩
  · exact if_pos ⟨hne, hall⟩

/-- Only texts that spell a numeral can be taken apart. -/
theorem exists_spells_of_ofText? {numeral : Numeral} (h : ofText? t = some numeral) :
    ∃ places, Spells t numeral.negative places := by
  have hspells (sign : Text) (negative : Bool) (rest : Text) (hsign : (sign, negative) ∈ signs)
      (hrest : ofDigits? negative rest = some numeral) :
      ∃ places, Spells (sign ++ rest) numeral.negative places := by
    rw [ofDigits?, Option.ite_none_right_eq_some] at hrest
    obtain ⟨⟨hne, hall⟩, hnumeral⟩ := hrest
    obtain rfl := Option.some.inj hnumeral
    obtain ⟨places, rfl, hlt⟩ := exists_places hall
    exact ⟨places, ⟨sign, hsign, rfl⟩, mt List.map_eq_nil_iff.mpr hne, hlt⟩
  unfold ofText? at h
  split at h
  · exact hspells ['+'] false _ (by decide) h
  · exact hspells ['-'] true _ (by decide) h
  · exact hspells [] false _ (by decide) h

/-- A text that cannot be taken apart spells no numeral. -/
theorem not_spells_of_ofText? (h : ofText? t = none) :
    ¬ ∃ negative places, Spells t negative places := by
  rintro ⟨negative, places, hspells⟩
  exact Option.some_ne_none _ (hspells.ofText?_eq.symm.trans h)

/-- The digits that are spelled are all digits of the text. -/
theorem Spells.length_eq (h : Spells t negative places) :
    places.length = t.countP Char.isDigit := by
  obtain ⟨sign, hsign, rfl⟩ := h.text
  have hnone : ∀ entry ∈ signs, entry.1.countP Char.isDigit = 0 := by decide
  have hall := List.all_eq_true.mp (all_isDigit_map_digitChar h.lt_ten)
  rw [List.countP_append, hnone _ hsign, Nat.zero_add, List.countP_eq_length.mpr hall,
    List.length_map]

/-! ### Places -/

/-- Each digit counts by its place. -/
theorem magnitude_map_digitChar (h : ∀ n ∈ places, n < 10) :
    magnitude (places.map Nat.digitChar) = Nat.ofDigits 10 places.reverse := by
  -- from the end, where the lowest place is
  induction places using List.reverseRecOn with
  | nil => rfl
  | append_singleton front n ih =>
    obtain ⟨hfront, hn⟩ := List.forall_mem_append.mp h
    have hlast : (Nat.digitChar n).toNat - '0'.toNat = n := by
      rw [Nat.toNat_digitChar_of_lt_ten (hn n (List.mem_singleton_self n))]
      exact Nat.add_sub_cancel_left 48 n
    calc magnitude ((front ++ [n]).map Nat.digitChar)
        = 10 * magnitude (front.map Nat.digitChar) + ((Nat.digitChar n).toNat - '0'.toNat) := by
          rw [List.map_append]
          exact List.foldl_append
      _ = n + 10 * Nat.ofDigits 10 front.reverse := by rw [ih hfront, hlast, Nat.add_comm]
      _ = Nat.ofDigits 10 (front ++ [n]).reverse := by
          rw [List.reverse_concat, Nat.ofDigits_cons]

theorem Spells.value_eq (h : Spells t negative places) :
    value ⟨negative, places.map Nat.digitChar⟩ = spelled negative places := by
  rw [value, magnitude_map_digitChar h.lt_ten]
  rfl

/-- Places that do not begin with zero make a number that is not zero. -/
theorem ofDigits_reverse_pos (hne : places ≠ []) (hzero : places.head? ≠ some 0) :
    0 < Nat.ofDigits 10 places.reverse := by
  refine Nat.pos_of_ne_zero fun hnone => hzero ?_
  have hall := Nat.digits_zero_of_eq_zero (by decide) hnone
  obtain ⟨first, rest, rfl⟩ := List.exists_cons_of_ne_nil hne
  exact congrArg some (hall first (List.mem_reverse.mpr List.mem_cons_self))

/-- They are then the digits of the number. -/
theorem toDigits_ofDigits_reverse (hne : places ≠ []) (h : ∀ n ∈ places, n < 10)
    (hzero : places.head? ≠ some 0) :
    Nat.toDigits 10 (Nat.ofDigits 10 places.reverse) = places.map Nat.digitChar := by
  induction places using List.reverseRecOn with
  | nil => exact absurd rfl hne
  | append_singleton front n ih =>
    obtain ⟨hfront, hn⟩ := List.forall_mem_append.mp h
    have hn : n < 10 := hn n (List.mem_singleton_self n)
    rw [List.reverse_concat, Nat.ofDigits_cons, Nat.add_comm, List.map_append]
    rcases List.eq_nil_or_concat front with rfl | ⟨_, _, hconcat⟩
    · simpa using Nat.toDigits_of_lt_base hn
    · have hnil : front ≠ [] := by simp [hconcat]
      have hhead : front.head? ≠ some 0 := by rwa [List.head?_append_of_ne_nil _ hnil] at hzero
      have hpos := ofDigits_reverse_pos hnil hhead
      rw [← Nat.toDigits_append_toDigits (by decide) hpos hn, ih hnil hfront hhead,
        Nat.toDigits_of_lt_base hn]
      rfl

/-! ### Leading zeros -/

/-- The text without a plus sign and without the zeros that lead its digits; nothing is left of
zero, whatever its sign. -/
def bare : Text → Text
  | '+' :: t => t.dropWhile (· = '0')
  | '-' :: t => if t.dropWhile (· = '0') = [] then [] else '-' :: t.dropWhile (· = '0')
  | t => t.dropWhile (· = '0')

/-- What is left of all spellings of a number. -/
def bareOf (n : Int) : Text :=
  if n = 0 then [] else ofInt n

/-- What is left of a number tells the number. -/
theorem bareOf_injective : Function.Injective bareOf := by
  have hread : Function.LeftInverse (fun t => ((ofText? t).map value).getD 0) bareOf := by
    intro n
    dsimp only [bareOf]
    split
    next hzero => exact hzero.symm
    next => rw [ofText?_ofInt, Option.map_some, value_ofInt, Option.getD_some]
  exact hread.injective

/-- Leading zeros are those of the places. -/
theorem dropWhile_map_digitChar (h : ∀ n ∈ places, n < 10) :
    (places.map Nat.digitChar).dropWhile (· = '0')
      = (places.dropWhile (· = 0)).map Nat.digitChar := by
  have hzero : ∀ n < 10, (Nat.digitChar n = '0') ↔ n = 0 := by decide
  induction places with
  | nil => rfl
  | cons n rest ih =>
    obtain ⟨hn, hrest⟩ := List.forall_mem_cons.mp h
    simp only [List.map_cons, List.dropWhile_cons, hzero n hn, ih hrest]
    split <;> rfl

theorem ofDigits_reverse_dropWhile (places : List Nat) :
    Nat.ofDigits 10 (places.dropWhile (· = 0)).reverse = Nat.ofDigits 10 places.reverse := by
  induction places with
  | nil => rfl
  | cons n rest ih =>
    rw [List.dropWhile_cons]
    split
    next hn => rw [ih, of_decide_eq_true hn, Nat.ofDigits_reverse_zero_cons]
    next => rfl

theorem bareOf_neg (n : Nat) :
    bareOf (-n) = if bareOf n = [] then [] else '-' :: bareOf n := by
  cases n with
  | zero => rfl
  | succ n =>
    have hkept : bareOf (n + 1 : Nat) = Nat.toDigits 10 (n + 1) := rfl
    rw [hkept, if_neg Nat.toDigits_ne_nil]
    rfl

/-- What is left of digits: nothing of zero, and otherwise the shortest numeral. -/
theorem dropWhile_eq_of_lt_ten (h : ∀ n ∈ places, n < 10) :
    (places.map Nat.digitChar).dropWhile (· = '0')
      = bareOf (Nat.ofDigits 10 places.reverse : Nat) := by
  rw [dropWhile_map_digitChar h, ← ofDigits_reverse_dropWhile]
  have hlt : ∀ n ∈ places.dropWhile (· = 0), n < 10 :=
    fun n hn => h n ((List.dropWhile_sublist _).subset hn)
  by_cases hnil : places.dropWhile (· = 0) = []
  · rw [hnil]
    rfl
  · have hhead : (places.dropWhile (· = 0)).head? ≠ some 0 := by
      intro hzero
      have hnot := List.head?_dropWhile_not (fun n => decide (n = 0)) places
      simp [hzero] at hnot
    have hdigits := toDigits_ofDigits_reverse hnil hlt hhead
    have hne := (ofDigits_reverse_pos hnil hhead).ne'
    rw [bareOf, if_neg (Int.natCast_ne_zero.mpr hne), ← hdigits]
    rfl

/-- **Spellings of one number.** What is left of a spelling is told by the number. -/
theorem Spells.bare_eq (h : Spells t negative places) :
    bare t = bareOf (spelled negative places) := by
  have hkept := dropWhile_eq_of_lt_ten h.lt_ten
  obtain ⟨sign, hsign, rfl⟩ := h.text
  simp only [signs, List.mem_cons, Prod.mk.injEq, List.not_mem_nil, or_false] at hsign
  rcases hsign with ⟨rfl, rfl⟩ | ⟨rfl, rfl⟩ | ⟨rfl, rfl⟩
  · -- no digit is a sign
    obtain ⟨n, rest, rfl⟩ := List.exists_cons_of_ne_nil h.ne_nil
    exact (bare.eq_3 _ (by simp) (by simp)).trans hkept
  · exact hkept
  · show (if _ = [] then [] else '-' :: _) = bareOf (-_)
    rw [bareOf_neg, ← hkept]
    rfl

end Numeral

/-! ### Reading -/

section Reading

variable {key raw : Text} {default : Int} {negative : Bool} {places : List Nat}

/-- What is spelled with not too many digits is read. -/
theorem readInteger_of_spells (h : Numeral.Spells raw negative places)
    (hcount : raw.countP Char.isDigit ≤ Numeral.digitLimit) :
    readInteger key (some raw) default = .ok (Numeral.spelled negative places) := by
  refine readInteger_eq_ok_iff.mpr (.inr ⟨raw, _, rfl, h.ofText?_eq, ?_, h.value_eq⟩)
  rwa [List.length_map, h.length_eq]

/-- What is read is spelled. -/
theorem exists_spells_of_readInteger {n : Int} (h : readInteger key (some raw) default = .ok n) :
    ∃ negative places,
      Numeral.Spells raw negative places ∧ Numeral.spelled negative places = n := by
  obtain ⟨hnone, -⟩ | ⟨t, numeral, ht, hnumeral, -, hvalue⟩ := readInteger_eq_ok_iff.mp h
  · exact absurd hnone (Option.some_ne_none raw)
  · obtain rfl := Option.some.inj ht
    obtain ⟨places, hspells⟩ := Numeral.exists_spells_of_ofText? hnumeral
    have hsame := Option.some.inj (hspells.ofText?_eq.symm.trans hnumeral)
    exact ⟨_, places, hspells, hspells.value_eq.symm.trans (hsame ▸ hvalue)⟩

/-- What is not spelled is refused, however many digits it has. -/
theorem readInteger_of_not_spells
    (h : ¬ ∃ negative places, Numeral.Spells raw negative places) :
    readInteger key (some raw) default = .error (.config (.invalidFormat key raw)) := by
  refine readInteger_eq_error_iff.mpr ⟨raw, rfl, .inl ⟨?_, rfl⟩⟩
  refine Option.eq_none_iff_forall_ne_some.mpr fun numeral hnumeral => h ?_
  exact ⟨_, Numeral.exists_spells_of_ofText? hnumeral⟩

end Reading

/-- **Integers are read from signed decimal numerals.** Of the texts with at most as many digits as
the limit allows, those are read that are one or more ASCII digits behind one sign or none; what
they give is the number at these places, whatever the default. All others are refused as they stand.
The shortest numeral of a number gives the number back. Two texts that are read give the same number
just if they are the same without plus signs and leading zeros. -/
theorem readInteger_reads_signed_decimals (key : Text) (default : Int) :
    (∀ raw : Text, raw.countP Char.isDigit ≤ Numeral.digitLimit →
      ((∃ n, readInteger key (some raw) default = .ok n) ↔
        ∃ negative places, Numeral.Spells raw negative places) ∧
      (∀ negative places, Numeral.Spells raw negative places →
        readInteger key (some raw) default = .ok (Numeral.spelled negative places)) ∧
      ((¬ ∃ negative places, Numeral.Spells raw negative places) →
        readInteger key (some raw) default = .error (.config (.invalidFormat key raw)))) ∧
    (∀ n : Int, (Numeral.ofNat n.natAbs).length ≤ Numeral.digitLimit →
      readInteger key (some (Numeral.ofInt n)) default = .ok n) ∧
    ∀ (otherKey : Text) (otherDefault : Int) (raw other : Text) (m n : Int),
      readInteger key (some raw) default = .ok m →
      readInteger otherKey (some other) otherDefault = .ok n →
      (m = n ↔ Numeral.bare raw = Numeral.bare other) := by
  refine ⟨fun raw hcount => ⟨⟨?_, ?_⟩, ?_, readInteger_of_not_spells⟩, ?_, ?_⟩
  · rintro ⟨n, hread⟩
    obtain ⟨negative, places, hspells, -⟩ := exists_spells_of_readInteger hread
    exact ⟨negative, places, hspells⟩
  · rintro ⟨negative, places, hspells⟩
    exact ⟨_, readInteger_of_spells hspells hcount⟩
  · exact fun negative places hspells => readInteger_of_spells hspells hcount
  · intro n hlen
    exact readInteger_eq_ok_iff.mpr
      (.inr ⟨_, _, rfl, Numeral.ofText?_ofInt n, hlen, Numeral.value_ofInt n⟩)
  · intro otherKey otherDefault raw other m n hraw hother
    obtain ⟨_, _, hspells, rfl⟩ := exists_spells_of_readInteger hraw
    obtain ⟨_, _, hspells', rfl⟩ := exists_spells_of_readInteger hother
    rw [hspells.bare_eq, hspells'.bare_eq, Numeral.bareOf_injective.eq_iff]

/-- A numeral with a sign and leading zeros beside the shortest one of the same number, and digits
with a mark between them and a line break behind. -/
theorem readInteger_of_leading_zeros :
    let spelling := "-007".toList
    let odd := "5_2\n".toList
    (spelling.countP Char.isDigit ≤ Numeral.digitLimit ∧
      odd.countP Char.isDigit ≤ Numeral.digitLimit ∧
      Numeral.Spells spelling true [0, 0, 7] ∧
      (¬ ∃ negative places, Numeral.Spells odd negative places) ∧
      (Numeral.ofNat (-7 : Int).natAbs).length ≤ Numeral.digitLimit) ∧
    readInteger "k".toList (some spelling) 51 = .ok (-7) ∧
    readInteger "k".toList (some "-7".toList) 51 = .ok (-7) ∧
    (Numeral.bare spelling = Numeral.bare "-7".toList ∧ Numeral.bare spelling = "-7".toList) ∧
    readInteger "k".toList (some odd) 51 = .error (.config (.invalidFormat "k".toList odd)) := by
  intro spelling odd
  have hcount : spelling.countP Char.isDigit ≤ Numeral.digitLimit := by decide
  have hodd : odd.countP Char.isDigit ≤ Numeral.digitLimit := by decide
  have hspells : Numeral.Spells spelling true [0, 0, 7] :=
    ⟨⟨['-'], by decide, rfl⟩, by decide, by decide⟩
  have hnot : ¬ ∃ negative places, Numeral.Spells odd negative places :=
    Numeral.not_spells_of_ofText? rfl
  have hlen : (Numeral.ofNat (-7 : Int).natAbs).length ≤ Numeral.digitLimit := by decide
  obtain ⟨hread, hshortest, hsame⟩ := readInteger_reads_signed_decimals "k".toList 51
  have hseven := (hread spelling hcount).2.1 true [0, 0, 7] hspells
  have hagain := hshortest (-7) hlen
  exact ⟨⟨hcount, hodd, hspells, hnot, hlen⟩, hseven, hagain,
    ⟨(hsame _ _ _ _ _ _ hseven hagain).mp rfl, by decide⟩, (hread odd hodd).2.2 hnot⟩

end PropertySettings
