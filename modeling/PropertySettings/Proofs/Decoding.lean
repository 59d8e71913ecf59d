import Mathlib
import PropertySettings.Proofs.Encoding
import PropertySettings.Proofs.Outcomes

/-!
# What is read from any bytes

From a place between characters there are two ways on: the bytes of a character come next, or
reading ends with a fault at that very place (`Utf8.character_or_fault`). So all bytes are a text
with nothing behind it, or with bytes behind it that are a fault at once
(`Utf8.exists_text_and_rest`). Hence just the bytes of a text are read (`Utf8.decode_eq_ok_iff`),
and a fault stands behind the longest text at their front (`Utf8.longest_text_of_fault`): overlong
forms, surrogates, numbers that are too great and characters that are cut off are not read as
anything.
-/

namespace PropertySettings.Utf8

variable {b b₀ b₁ b₂ b₃ : UInt8} {position owed : Nat} {bytes rest : List UInt8} {fault : Fault}

/-! ### Bytes that are a character -/

theorem exists_char_of_isValidChar {n : Nat} (h : n.isValidChar) : ∃ c : Char, c.val.toNat = n :=
  ⟨Char.ofNatAux n h, rfl⟩

theorem exists_char_of_one (h : b.toNat < 0x80) : ∃ c, String.utf8EncodeChar c = [b] := by
  obtain ⟨c, hc⟩ := exists_char_of_isValidChar (n := b.toNat) (.inl (by omega))
  refine ⟨c, ?_⟩
  unfold String.utf8EncodeChar
  simp only [hc]
  rw [if_pos (by omega), UInt8.ofNat_toNat]

theorem exists_char_of_two (h₀ : 0xC2 ≤ b₀.toNat ∧ b₀.toNat < 0xE0) (h₁ : Continues b₁) :
    ∃ c, String.utf8EncodeChar c = [b₀, b₁] := by
  rw [Continues] at h₁
  obtain ⟨c, hc⟩ := exists_char_of_isValidChar (n := b₀.toNat % 0x20 * 0x40 + b₁.toNat % 0x40)
    (.inl (by omega))
  refine ⟨c, ?_⟩
  unfold String.utf8EncodeChar
  simp only [hc]
  rw [if_neg (by omega), if_pos (by omega)]
  simp only [List.cons.injEq, ← UInt8.toNat_inj, UInt8.toNat_ofNat', and_true]
  omega

theorem exists_char_of_three (h₀ : 0xE0 ≤ b₀.toNat ∧ b₀.toNat < 0xF0) (h₁ : Continues b₁)
    (hlow : b₀.toNat = 0xE0 → 0xA0 ≤ b₁.toNat) (hhigh : b₀.toNat = 0xED → b₁.toNat ≤ 0x9F)
    (h₂ : Continues b₂) : ∃ c, String.utf8EncodeChar c = [b₀, b₁, b₂] := by
  rw [Continues] at h₁ h₂
  -- the bounds of the second byte leave out the surrogates
  have hvalid : ((b₀.toNat % 0x10 * 0x40 + b₁.toNat % 0x40) * 0x40
      + b₂.toNat % 0x40).isValidChar := by
    rw [Nat.isValidChar]
    omega
  obtain ⟨c, hc⟩ := exists_char_of_isValidChar hvalid
  refine ⟨c, ?_⟩
  unfold String.utf8EncodeChar
  simp only [hc]
  rw [if_neg (by omega), if_neg (by omega), if_pos (by omega)]
  simp only [List.cons.injEq, ← UInt8.toNat_inj, UInt8.toNat_ofNat', and_true]
  omega

theorem exists_char_of_four (h₀ : 0xF0 ≤ b₀.toNat ∧ b₀.toNat < 0xF5) (h₁ : Continues b₁)
    (hlow : b₀.toNat = 0xF0 → 0x90 ≤ b₁.toNat) (hhigh : b₀.toNat = 0xF4 → b₁.toNat ≤ 0x8F)
    (h₂ : Continues b₂) (h₃ : Continues b₃) :
    ∃ c, String.utf8EncodeChar c = [b₀, b₁, b₂, b₃] := by
  rw [Continues] at h₁ h₂ h₃
  -- the bounds of the second byte keep the number below the greatest code point
  have hvalid : (((b₀.toNat % 0x08 * 0x40 + b₁.toNat % 0x40) * 0x40 + b₂.toNat % 0x40) * 0x40
      + b₃.toNat % 0x40).isValidChar := by
    rw [Nat.isValidChar]
    omega
  obtain ⟨c, hc⟩ := exists_char_of_isValidChar hvalid
  refine ⟨c, ?_⟩
  unfold String.utf8EncodeChar
  simp only [hc]
  rw [if_neg (by omega), if_neg (by omega), if_neg (by omega)]
  simp only [List.cons.injEq, ← UInt8.toNat_inj, UInt8.toNat_ofNat', and_true]
  omega

/-! ### A character or a fault -/

/-- Reading ends with a fault at the very place where it is. -/
def FaultsAt (position : Nat) (pending : Option Partial) (bytes : List UInt8) : Prop :=
  ∃ fault, decodeFrom position pending bytes = .error fault ∧ fault.position = position

theorem lead_of_none (h : (0x80 ≤ b.toNat ∧ b.toNat < 0xC2) ∨ 0xF5 ≤ b.toNat) : lead b = .none := by
  simp only [lead, UInt8.lt_iff_toNat_lt, ← UInt8.toNat_inj, UInt8.reduceToNat]
  split_ifs <;> first | rfl | omega

/-- The next byte that a character owes is there, within its bounds, or there is a fault. -/
theorem bounded_or_fault (p : Partial) (position : Nat) (bytes : List UInt8) :
    (∃ b rest, bytes = b :: rest ∧ p.low.toNat ≤ b.toNat ∧ b.toNat ≤ p.high.toNat) ∨
      FaultsAt position (some p) bytes := by
  cases bytes with
  | nil => exact .inr ⟨_, rfl, rfl⟩
  | cons b rest =>
    by_cases hb : p.low.toNat ≤ b.toNat ∧ b.toNat ≤ p.high.toNat
    · exact .inl ⟨b, rest, rfl, hb⟩
    · refine .inr ⟨⟨position, p.held, .continuation⟩, ?_, rfl⟩
      rw [decodeFrom, if_neg]
      rwa [UInt8.le_iff_toNat_le, UInt8.le_iff_toNat_le]

/-- The bytes that a character owes are all there, or there is a fault where the character began. -/
theorem owed_or_fault (p : Partial) (howed : p.owed = owed + 1) (position : Nat)
    (bytes : List UInt8) :
    (∃ b tail rest, bytes = b :: (tail ++ rest) ∧ tail.length = owed ∧
      (p.low.toNat ≤ b.toNat ∧ b.toNat ≤ p.high.toNat) ∧ ∀ c ∈ tail, Continues c) ∨
    FaultsAt position (some p) bytes := by
  induction owed generalizing p bytes with
  | zero =>
    rcases bounded_or_fault p position bytes with ⟨b, rest, rfl, hb⟩ | hfault
    · exact .inl ⟨b, [], rest, rfl, rfl, hb, List.forall_mem_nil _⟩
    · exact .inr hfault
  | succ owed ih =>
    rcases bounded_or_fault p position bytes with ⟨b, rest, rfl, hb⟩ | hfault
    · obtain ⟨held, owed', low, high, value⟩ := p
      subst howed
      -- the character owes one byte less, and what comes next only has to go on with it
      rcases ih ⟨held ++ [b], owed + 1, 0x80, 0xBF, value * 0x40 + b.toNat % 0x40⟩ rfl rest with
        ⟨c, tail, rest, rfl, hlength, hc, htail⟩ | ⟨fault, hfault, hposition⟩
      · exact .inl ⟨b, c :: tail, rest, rfl, by rw [List.length_cons, hlength], hb,
          List.forall_mem_cons.mpr ⟨hc, htail⟩⟩
      · exact .inr ⟨fault, (decodeFrom_next hb).trans hfault, hposition⟩
    · exact .inr hfault

/-- The bytes of a character come next, or there is a fault at once. -/
def CharacterOrFault (position : Nat) (bytes : List UInt8) : Prop :=
  (∃ c rest, bytes = String.utf8EncodeChar c ++ rest) ∨ FaultsAt position none bytes

/-- It comes down to what the bytes are that a lead byte lets through. -/
theorem characterOrFault_of_more {p : Partial} (hlead : lead b = .more p)
    (howed : p.owed = owed + 1)
    (hchar : ∀ b₁ tail, tail.length = owed → p.low.toNat ≤ b₁.toNat ∧ b₁.toNat ≤ p.high.toNat →
      (∀ c ∈ tail, Continues c) → ∃ c, String.utf8EncodeChar c = b :: b₁ :: tail)
    (position : Nat) (rest : List UInt8) : CharacterOrFault position (b :: rest) := by
  rcases owed_or_fault p howed position rest with
    ⟨b₁, tail, rest, rfl, hlength, hb₁, htail⟩ | ⟨fault, hfault, hposition⟩
  · obtain ⟨c, hc⟩ := hchar b₁ tail hlength hb₁ htail
    exact .inl ⟨c, rest, by rw [hc]; rfl⟩
  · exact .inr ⟨fault, (decodeFrom_more hlead).trans hfault, hposition⟩

theorem characterOrFault_of_two (h : 0xC2 ≤ b.toNat ∧ b.toNat < 0xE0) :
    CharacterOrFault position (b :: rest) := by
  refine characterOrFault_of_more (lead_of_two h) rfl (fun b₁ tail hlength h₁ _ => ?_) position rest
  obtain rfl := List.eq_nil_of_length_eq_zero hlength
  exact exists_char_of_two h h₁

theorem characterOrFault_of_three (h : 0xE0 ≤ b.toNat ∧ b.toNat < 0xF0) :
    CharacterOrFault position (b :: rest) := by
  refine characterOrFault_of_more (lead_of_three h) rfl (fun b₁ tail hlength h₁ htail => ?_)
    position rest
  obtain ⟨b₂, rfl⟩ := List.length_eq_one_iff.mp hlength
  have hlow : (if b.toNat = 0xE0 then 0xA0 else 0x80) ≤ b₁.toNat := by
    simpa only [apply_ite UInt8.toNat, UInt8.reduceToNat] using h₁.1
  have hhigh : b₁.toNat ≤ if b.toNat = 0xED then 0x9F else 0xBF := by
    simpa only [apply_ite UInt8.toNat, UInt8.reduceToNat] using h₁.2
  refine exists_char_of_three h ⟨?_, ?_⟩ ?_ ?_ (htail b₂ List.mem_cons_self) <;> grind

theorem characterOrFault_of_four (h : 0xF0 ≤ b.toNat ∧ b.toNat < 0xF5) :
    CharacterOrFault position (b :: rest) := by
  refine characterOrFault_of_more (lead_of_four h) rfl (fun b₁ tail hlength h₁ htail => ?_)
    position rest
  obtain ⟨b₂, b₃, rfl⟩ := List.length_eq_two.mp hlength
  have hlow : (if b.toNat = 0xF0 then 0x90 else 0x80) ≤ b₁.toNat := by
    simpa only [apply_ite UInt8.toNat, UInt8.reduceToNat] using h₁.1
  have hhigh : b₁.toNat ≤ if b.toNat = 0xF4 then 0x8F else 0xBF := by
    simpa only [apply_ite UInt8.toNat, UInt8.reduceToNat] using h₁.2
  obtain ⟨h₂, h₃, -⟩ := List.forall_mem_cons.mp htail |>.imp_right List.forall_mem_cons.mp
  refine exists_char_of_four h ⟨?_, ?_⟩ ?_ ?_ h₂ h₃ <;> grind

/-- **A character comes next, or there is a fault at once.** -/
theorem character_or_fault (hne : bytes ≠ []) (position : Nat) :
    CharacterOrFault position bytes := by
  obtain ⟨b, rest, rfl⟩ := List.exists_cons_of_ne_nil hne
  by_cases hone : b.toNat < 0x80
  · obtain ⟨c, hc⟩ := exists_char_of_one hone
    exact .inl ⟨c, rest, by rw [hc, List.singleton_append]⟩
  by_cases htwo : 0xC2 ≤ b.toNat ∧ b.toNat < 0xE0
  · exact characterOrFault_of_two htwo
  by_cases hthree : 0xE0 ≤ b.toNat ∧ b.toNat < 0xF0
  · exact characterOrFault_of_three hthree
  by_cases hfour : 0xF0 ≤ b.toNat ∧ b.toNat < 0xF5
  · exact characterOrFault_of_four hfour
  have hnone : lead b = .none := lead_of_none (by omega)
  exact .inr ⟨⟨position, [b], .start⟩, by rw [decodeFrom, hnone], rfl⟩

/-! ### Texts and what is behind them -/

/-- All bytes are a text and, behind it, nothing or a fault at once. -/
theorem exists_text_and_rest (bytes : List UInt8) :
    ∃ t rest, bytes = encode t ++ rest ∧ (rest = [] ∨ ∀ position, FaultsAt position none rest) := by
  -- what is behind a character is shorter
  induction hlength : bytes.length using Nat.strong_induction_on generalizing bytes with
  | _ length ih =>
    by_cases hchar : ∃ c rest, bytes = String.utf8EncodeChar c ++ rest
    · obtain ⟨c, behind, rfl⟩ := hchar
      have hshort : behind.length < length := by
        have hpos : 0 < c.utf8Size := c.utf8Size_pos
        rw [← hlength, List.length_append, String.length_utf8EncodeChar]
        omega
      obtain ⟨t, rest, rfl, hrest⟩ := ih _ hshort behind rfl
      exact ⟨c :: t, rest, (List.append_assoc ..).symm, hrest⟩
    · refine ⟨[], bytes, rfl, or_iff_not_imp_left.mpr fun hne position => ?_⟩
      exact (character_or_fault hne position).resolve_left hchar

/-- A fault does not stand before the place where reading began. -/
theorem position_le_of_error {pending : Option Partial}
    (h : decodeFrom position pending bytes = .error fault) : position ≤ fault.position := by
  fun_induction decodeFrom position pending bytes with
  | case1 position => exact absurd h (by simp)
  | case2 position p => exact (Except.error.inj h) ▸ le_rfl
  | case3 position b rest hlead ih =>
    have hle := ih (Except.map_eq_error_iff.mp h)
    omega
  | case4 position b rest p hlead ih => exact ih h
  | case5 position b rest hlead => exact (Except.error.inj h) ▸ le_rfl
  | case6 position p b rest hb value howed ih =>
    have hle := ih (Except.map_eq_error_iff.mp h)
    omega
  | case7 position p b rest hb value howed ih => exact ih h
  | case8 position p b rest hb => exact (Except.error.inj h) ▸ le_rfl

/-- **Just the bytes of a text are read.** -/
theorem decode_eq_ok_iff {t : Text} : decode bytes = .ok t ↔ bytes = encode t := by
  refine ⟨fun h => ?_, fun h => h ▸ decode_encode t⟩
  obtain ⟨u, rest, rfl, rfl | hrest⟩ := exists_text_and_rest bytes
  · rw [List.append_nil, decode_encode] at h
    rw [List.append_nil, Except.ok.inj h]
  · obtain ⟨fault, hfault, -⟩ := hrest (0 + (encode u).length)
    rw [decode, decodeFrom_encode, hfault] at h
    exact absurd h (by simp)

/-- **A fault stands behind the longest text at the front.** -/
theorem longest_text_of_fault (h : decode bytes = .error fault) :
    (∃ t, encode t <+: bytes ∧ (encode t).length = fault.position) ∧
      ∀ t, encode t <+: bytes → (encode t).length ≤ fault.position := by
  constructor
  · obtain ⟨t, rest, rfl, rfl | hrest⟩ := exists_text_and_rest bytes
    · rw [List.append_nil, decode_encode] at h
      exact absurd h (by simp)
    · obtain ⟨other, hother, hposition⟩ := hrest (0 + (encode t).length)
      rw [decode, decodeFrom_encode, hother] at h
      obtain rfl : other = fault := Except.error.inj h
      exact ⟨t, List.prefix_append _ _, by rw [hposition, Nat.zero_add]⟩
  · rintro t ⟨rest, rfl⟩
    rw [decode, decodeFrom_encode, Nat.zero_add] at h
    exact position_le_of_error (Except.map_eq_error_iff.mp h)

end PropertySettings.Utf8
