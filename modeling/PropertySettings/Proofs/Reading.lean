import Mathlib
import PropertySettings.Reading

/-!
# Reading integers and flags

An integer that was read has a numeral within the limit of digits
(`readInteger_eq_ok_iff`), and so has its shortest numeral, from which it is read again
(`readInteger_ofInt_of_eq_ok`). Reading fails in two ways only: the value is no numeral, or it is
one with too many digits (`readInteger_eq_error_iff`). A flag is read back from the word that stands
for it (`readFlag_flagWord`).
-/

namespace PropertySettings

/-! ### Numerals -/

namespace Numeral

variable {digits : Text}

/-- A text of digits has no sign. -/
theorem ofText?_of_isDigit (hne : digits ≠ []) (h : digits.all Char.isDigit) :
    ofText? digits = some ⟨false, digits⟩ := by
  obtain ⟨d, rest, rfl⟩ := List.exists_cons_of_ne_nil hne
  have hd : d.isDigit := by simpa using (List.all_eq_true.mp h) d (by simp)
  have hplus : d ≠ '+' := by
    rintro rfl
    exact absurd hd (by decide)
  have hminus : d ≠ '-' := by
    rintro rfl
    exact absurd hd (by decide)
  rw [ofText?.eq_3 _ (by simpa using hplus) (by simpa using hminus), ofDigits?, if_pos ⟨hne, h⟩]

theorem all_isDigit_ofNat (n : Nat) : (ofNat n).all Char.isDigit :=
  List.all_eq_true.mpr fun _ h => Nat.isDigit_of_mem_toDigits (by decide) (by decide) h

theorem ofText?_ofNat (n : Nat) : ofText? (ofNat n) = some ⟨false, ofNat n⟩ :=
  ofText?_of_isDigit Nat.toDigits_ne_nil (all_isDigit_ofNat n)

/-- The numeral of a number, taken apart. -/
theorem ofText?_ofInt (n : Int) : ofText? (ofInt n) = some ⟨decide (n < 0), ofNat n.natAbs⟩ := by
  cases n with
  | ofNat n => exact (ofText?_ofNat n).trans (by simp)
  | negSucc n =>
    show ofDigits? true (ofNat (n + 1)) = _
    rw [ofDigits?, if_pos ⟨Nat.toDigits_ne_nil, all_isDigit_ofNat _⟩]
    simp [Int.negSucc_lt_zero]

/-- The digits of a number denote it. -/
theorem magnitude_ofNat (n : Nat) : magnitude (ofNat n) = n :=
  Nat.ofDigitChars_ten_toDigits

theorem value_ofInt (n : Int) : value ⟨decide (n < 0), ofNat n.natAbs⟩ = n := by
  rw [value, magnitude_ofNat]
  split
  next hneg =>
    have hlt : n < 0 := of_decide_eq_true hneg
    omega
  next hneg =>
    have hge : ¬ n < 0 := fun hlt => hneg (decide_eq_true hlt)
    omega

/-- What digits denote has no more places than there are digits. -/
theorem magnitude_lt (h : digits.all Char.isDigit) : magnitude digits < 10 ^ digits.length := by
  suffices ∀ init, digits.foldl (fun n d => 10 * n + (d.toNat - '0'.toNat)) init
      < (init + 1) * 10 ^ digits.length by simpa [magnitude] using this 0
  intro init
  -- the first digits go into `init`, so it has to vary
  induction digits generalizing init with
  | nil => simp
  | cons d rest ih =>
    rw [List.all_cons, Bool.and_eq_true] at h
    have hd : d.toNat - '0'.toNat < 10 := by
      have hlast := (Char.isDigit_iff_toNat.mp h.1).2
      have hnine : '9'.toNat = '0'.toNat + 9 := rfl
      omega
    calc (d :: rest).foldl (fun n d => 10 * n + (d.toNat - '0'.toNat)) init
        < (10 * init + (d.toNat - '0'.toNat) + 1) * 10 ^ rest.length := ih h.2 _
      _ ≤ (10 * (init + 1)) * 10 ^ rest.length := Nat.mul_le_mul_right _ (by omega)
      _ = (init + 1) * 10 ^ (d :: rest).length := by
        rw [List.length_cons, Nat.pow_succ]
        ac_rfl

/-- The text is a numeral that has too many digits to be read. -/
def Overlong (t : Text) : Prop :=
  ∃ numeral, ofText? t = some numeral ∧ digitLimit < numeral.digits.length

theorem isDigit_of_ofText? {t : Text} {numeral : Numeral} (h : ofText? t = some numeral) :
    numeral.digits.all Char.isDigit := by
  have hdigits : ∀ negative t, ofDigits? negative t = some numeral →
      numeral.digits.all Char.isDigit := by
    intro negative t h
    rw [ofDigits?, Option.ite_none_right_eq_some] at h
    obtain ⟨⟨-, hall⟩, hn⟩ := h
    exact (Option.some.inj hn) ▸ hall
  unfold ofText? at h
  split at h <;> exact hdigits _ _ h

/-- The shortest numeral of a number has no more digits than any other. -/
theorem length_ofNat_natAbs_le {t : Text} {numeral : Numeral} {limit : Nat} (hlimit : 0 < limit)
    (h : ofText? t = some numeral) (hlen : numeral.digits.length ≤ limit) :
    (ofNat numeral.value.natAbs).length ≤ limit := by
  have habs : numeral.value.natAbs = magnitude numeral.digits := by
    rw [value]
    split <;> simp
  rw [habs, ofNat, Nat.length_toDigits_le_iff (by decide) hlimit]
  exact Nat.lt_of_lt_of_le (magnitude_lt (isDigit_of_ofText? h))
    (Nat.pow_le_pow_right (by decide) hlen)

end Numeral

/-! ### Integers -/

section Integer

variable {key : Text} {raw : Option Text} {default : Int}

@[simp]
theorem readInteger_none : readInteger key none default = .ok default := rfl

theorem readInteger_eq_ok_iff {n : Int} :
    readInteger key raw default = .ok n ↔
      (raw = none ∧ n = default) ∨ ∃ t numeral, raw = some t ∧ Numeral.ofText? t = some numeral ∧
        numeral.digits.length ≤ Numeral.digitLimit ∧ numeral.value = n := by
  cases raw with
  | none => simp [eq_comm]
  | some t =>
    simp only [readInteger]
    cases hnum : Numeral.ofText? t with
    | none => simp [hnum]
    | some numeral => by_cases hlen : Numeral.digitLimit < numeral.digits.length <;> grind

/-- What keeps a value from being read as an integer. -/
theorem readInteger_eq_error_iff {failure : Failure} :
    readInteger key raw default = .error failure ↔
      ∃ t, raw = some t ∧
        ((Numeral.ofText? t = none ∧ failure = .config (.invalidFormat key t)) ∨
          ∃ numeral, Numeral.ofText? t = some numeral ∧
            Numeral.digitLimit < numeral.digits.length ∧
            failure = .tooManyDigits numeral.digits.length) := by
  cases raw with
  | none => simp
  | some t =>
    simp only [readInteger]
    cases hnum : Numeral.ofText? t with
    | none => simp [hnum, eq_comm]
    | some numeral => by_cases hlen : Numeral.digitLimit < numeral.digits.length <;> grind

/-- A number that was read has few enough digits to be written. -/
theorem length_ofNat_of_readInteger {n : Int}
    (hdefault : (Numeral.ofNat default.natAbs).length ≤ Numeral.digitLimit)
    (h : readInteger key raw default = .ok n) :
    (Numeral.ofNat n.natAbs).length ≤ Numeral.digitLimit := by
  rcases readInteger_eq_ok_iff.mp h with ⟨-, rfl⟩ | ⟨t, numeral, -, hnum, hlen, rfl⟩
  · exact hdefault
  · exact Numeral.length_ofNat_natAbs_le (by decide) hnum hlen

/-- A number that was read is read again from its shortest numeral. -/
theorem readInteger_ofInt_of_eq_ok {key' : Text} {default' n : Int}
    (hdefault : (Numeral.ofNat default.natAbs).length ≤ Numeral.digitLimit)
    (h : readInteger key raw default = .ok n) :
    readInteger key' (some (Numeral.ofInt n)) default' = .ok n :=
  readInteger_eq_ok_iff.mpr
    (.inr ⟨_, _, rfl, Numeral.ofText?_ofInt n, length_ofNat_of_readInteger hdefault h,
      Numeral.value_ofInt n⟩)

end Integer

/-! ### Flags -/

/-- The word that stands for a flag. -/
def flagWord (b : Bool) : Text :=
  if b then "true".toList else "false".toList

/-- A flag is read back from its word. -/
theorem readFlag_flagWord (b default : Bool) : readFlag (some (flagWord b)) default = b := by
  cases b <;> rfl

end PropertySettings
