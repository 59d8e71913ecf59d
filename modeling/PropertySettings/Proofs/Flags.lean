import Mathlib
import PropertySettings.Reading

/-!
# Flags in any letter case

A lower-case letter of ASCII is the lower case of itself and of its capital. Two letters are also
found in the lower case of a character beyond ASCII, which the letter-case table tells: `k` is that
of the Kelvin sign, and `i` begins that of a dotted capital `İ`. A word of the other letters is
**plain**, and is the lower case of just the texts that have its letters, small or capital, one by
one (`Text.lower_eq_iff`). The final sigma makes no difference to that, since it is no such letter.

Main statement: the word `true` is plain, so a flag is on for its sixteen spellings and for nothing
else (`readFlag_eq_true_iff_letters`).
-/

namespace PropertySettings

namespace Text

/-! ### Plain letters -/

/-- A small letter of ASCII that is in the lower case of no character beyond ASCII. -/
def IsPlain (d : Char) : Prop :=
  0x61 ≤ d.toNat ∧ d.toNat ≤ 0x7a ∧ d ≠ 'i' ∧ d ≠ 'k'

instance (d : Char) : Decidable (IsPlain d) :=
  inferInstanceAs (Decidable (_ ∧ _))

/-- The character is a small letter of ASCII, or the capital 32 code points below it. -/
def Writes (c d : Char) : Prop :=
  c = d ∨ c.toNat + 32 = d.toNat

variable {c d capital : Char} {before after t word : Text}

theorem writes_iff (h : capital.toNat + 32 = d.toNat) : Writes c d ↔ c ∈ [d, capital] := by
  have hcapital : c.toNat + 32 = d.toNat ↔ c = capital := by
    rw [← Char.toNat_inj]
    omega
  simp [Writes, hcapital]

/-- A number beyond ASCII is that of no plain letter, nor is one that is no code point at all. -/
theorem not_isPlain_ofNat {n : Nat} (h : 0x80 ≤ n) : ¬ IsPlain (Char.ofNat n) := by
  have hcode : (Char.ofNat n).toNat = n ∨ (Char.ofNat n).toNat = 0 := by
    rw [Char.toNat_ofNat]
    split
    · exact .inl rfl
    · exact .inr rfl
  rintro ⟨hfirst, hlast, -⟩
  omega

/-! ### The letter-case table -/

/-- What the runs of the table lead to: the letters of ASCII, a `k`, and what is beyond ASCII. -/
theorem lowerTable_runs : ∀ run ∈ lowerTable.runs,
    0x80 ≤ run.image ∨ (run.first = 0x41 ∧ run.last = 0x5a ∧ run.image = 0x61) ∨
      (run.first = run.last ∧ run.image = 0x6b) := by
  decide +kernel

theorem mem_expansions_of_lookup {n : Nat} {expansion : List Nat}
    (h : lowerTable.expansions.lookup n = some expansion) :
    (n, expansion) ∈ lowerTable.expansions := by
  obtain ⟨_, _, hsplit, -⟩ := List.lookup_eq_some_iff.mp h
  exact hsplit ▸ List.mem_append_cons_self

/-- Of the runs only that of the capitals of ASCII leads to plain letters. -/
theorem writes_of_covers {run : CaseRun} (hrun : run ∈ lowerTable.runs)
    (hcovers : run.covers c.toNat = true)
    (hplain : IsPlain (Char.ofNat (run.image + (c.toNat - run.first)))) :
    Writes c (Char.ofNat (run.image + (c.toNat - run.first))) := by
  simp only [CaseRun.covers, Bool.and_eq_true, decide_eq_true_eq] at hcovers
  obtain ⟨⟨hfirst, hlast⟩, -⟩ := hcovers
  rcases lowerTable_runs run hrun with hbeyond | ⟨hcapital, hend, himage⟩ | ⟨hsingle, himage⟩
  · exact absurd hplain (not_isPlain_ofNat (by omega))
  · have hvalid : (run.image + (c.toNat - run.first)).isValidChar := .inl (by omega)
    right
    rw [Char.toNat_ofNat, if_pos hvalid]
    omega
  · have hk : run.image + (c.toNat - run.first) = 0x6b := by omega
    rw [hk] at hplain
    exact absurd rfl hplain.2.2.2

/-- A plain letter stands alone in an image, which is that of itself or of its capital. -/
theorem image_of_mem (hplain : IsPlain d) (hmem : d ∈ lowerTable.image c) :
    lowerTable.image c = [d] ∧ Writes c d := by
  have hexpansions : ∀ entry ∈ lowerTable.expansions, ∀ n ∈ entry.2, ¬ IsPlain (Char.ofNat n) := by
    decide
  unfold CaseTable.image at hmem ⊢
  split at hmem
  next expansion hexpansion =>
    obtain ⟨n, hn, rfl⟩ := List.mem_map.mp hmem
    exact absurd hplain (hexpansions _ (mem_expansions_of_lookup hexpansion) n hn)
  next =>
    split at hmem
    next run hrun =>
      obtain rfl := List.mem_singleton.mp hmem
      have hcovers := List.find?_some hrun
      exact ⟨rfl, writes_of_covers (List.mem_of_find?_eq_some hrun) hcovers hplain⟩
    next =>
      obtain rfl := List.mem_singleton.mp hmem
      exact ⟨rfl, .inl rfl⟩

/-- A plain letter is the image of itself and of its capital. -/
theorem image_of_writes (hplain : IsPlain d) (h : Writes c d) : lowerTable.image c = [d] := by
  have hsmall : ∀ n < 26, lowerTable.image (Char.ofNat (0x61 + n)) = [Char.ofNat (0x61 + n)] := by
    decide +kernel
  have hcapital : ∀ n < 26, lowerTable.image (Char.ofNat (0x41 + n)) = [Char.ofNat (0x61 + n)] := by
    decide +kernel
  obtain ⟨hfirst, hlast, -⟩ := hplain
  have hd : d = Char.ofNat (0x61 + (d.toNat - 0x61)) := by
    rw [Nat.add_sub_cancel' hfirst, Char.ofNat_toNat]
  have hlt : d.toNat - 0x61 < 26 := by omega
  rcases h with rfl | hbelow
  · rw [hd]
    exact hsmall _ hlt
  · have hc : c = Char.ofNat (0x41 + (d.toNat - 0x61)) := by
      rw [show 0x41 + (d.toNat - 0x61) = c.toNat by omega, Char.ofNat_toNat]
    rw [hc, hcapital _ hlt, ← hd]

/-! ### Plain words -/

/-- Between other characters a plain letter still stands alone: a sigma only turns into sigmas. -/
theorem lowerAt_of_mem (hplain : IsPlain d) (hmem : d ∈ lowerAt before c after) :
    lowerAt before c after = [d] ∧ Writes c d := by
  have hsigma : ¬ IsPlain 'ς' ∧ ¬ IsPlain 'σ' := by decide
  unfold lowerAt at hmem ⊢
  split at hmem
  next =>
    split at hmem
    · obtain rfl := List.mem_singleton.mp hmem
      exact absurd hplain hsigma.1
    · obtain rfl := List.mem_singleton.mp hmem
      exact absurd hplain hsigma.2
  next hne =>
    rw [if_neg hne]
    exact image_of_mem hplain hmem

theorem lowerAt_of_writes (hplain : IsPlain d) (h : Writes c d) : lowerAt before c after = [d] := by
  rw [lowerAt, if_neg, image_of_writes hplain h]
  rintro rfl
  obtain ⟨-, hlast, -⟩ := hplain
  have hcode : 'Σ'.toNat = 0x3a3 := rfl
  rcases h with rfl | h <;> omega

/-- No character is lost. -/
theorem lowerAt_ne_nil : lowerAt before c after ≠ [] := by
  have hexpansions : ∀ entry ∈ lowerTable.expansions, entry.2 ≠ [] := by decide
  unfold lowerAt CaseTable.image
  split
  next => split <;> exact List.cons_ne_nil _ _
  next =>
    split
    next expansion hexpansion =>
      exact mt List.map_eq_nil_iff.mp (hexpansions _ (mem_expansions_of_lookup hexpansion))
    next => split <;> exact List.cons_ne_nil _ _

/-- A text is in lower case a plain word just if it writes that word, whatever stands before it. -/
theorem lowerAfter_eq_iff (hplain : ∀ d ∈ word, IsPlain d) :
    lowerAfter before t = word ↔ List.Forall₂ Writes t word := by
  -- what stands before a character grows along the text
  induction t generalizing before word with
  | nil => rw [lowerAfter, List.forall₂_nil_left_iff, eq_comm]
  | cons c rest ih =>
    rw [lowerAfter]
    constructor
    · intro hlower
      obtain ⟨d, hmem⟩ := List.exists_mem_of_ne_nil (lowerAt before c rest) lowerAt_ne_nil
      obtain ⟨halone, hwrites⟩ :=
        lowerAt_of_mem (hplain d (hlower ▸ List.mem_append_left _ hmem)) hmem
      rw [halone, List.singleton_append] at hlower
      subst hlower
      exact .cons hwrites ((ih (List.forall_mem_cons.mp hplain).2).mp rfl)
    · intro hall
      obtain ⟨d, word, hwrites, hrest, rfl⟩ := List.forall₂_cons_left_iff.mp hall
      obtain ⟨hd, hword⟩ := List.forall_mem_cons.mp hplain
      rw [lowerAt_of_writes hd hwrites, (ih hword).mpr hrest, List.singleton_append]

/-- **Spellings of a plain word.** The texts in whose lower case a plain word is are those with its
letters, small or capital, one by one. -/
theorem lower_eq_iff (hplain : ∀ d ∈ word, IsPlain d) :
    lower t = word ↔ List.Forall₂ Writes t word :=
  lowerAfter_eq_iff hplain

end Text

/-! ### Flags -/

/-- **A flag is on for one word.** A value sets a flag just if it has four characters, which are the
letters of `true`, each small or capital, in this order. The default makes no difference to a value
that is present. -/
theorem readFlag_eq_true_iff_letters (raw : Text) (default : Bool) :
    (readFlag (some raw) default = true ↔
      ∃ first second third fourth, raw = [first, second, third, fourth] ∧
        first ∈ ['t', 'T'] ∧ second ∈ ['r', 'R'] ∧ third ∈ ['u', 'U'] ∧ fourth ∈ ['e', 'E']) ∧
    ∀ other, readFlag (some raw) other = readFlag (some raw) default := by
  have hplain : ∀ d ∈ ['t', 'r', 'u', 'e'], Text.IsPlain d :=
    List.forall_iff_forall_mem.mp (by decide)
  have hspelled : readFlag (some raw) default = true
      ↔ List.Forall₂ Text.Writes raw ['t', 'r', 'u', 'e'] :=
    decide_eq_true_iff.trans (Text.lower_eq_iff hplain)
  refine ⟨hspelled.trans ⟨fun hall => ?_, ?_⟩, fun other => rfl⟩
  · obtain ⟨first, _, hfirst, hbehind, rfl⟩ := List.forall₂_cons_right_iff.mp hall
    obtain ⟨second, _, hsecond, hlast, rfl⟩ := List.forall₂_cons_right_iff.mp hbehind
    obtain ⟨third, _, hthird, hend, rfl⟩ := List.forall₂_cons_right_iff.mp hlast
    obtain ⟨fourth, _, hfourth, hnil, rfl⟩ := List.forall₂_cons_right_iff.mp hend
    obtain rfl := List.forall₂_nil_right_iff.mp hnil
    exact ⟨first, second, third, fourth, rfl, (Text.writes_iff rfl).mp hfirst,
      (Text.writes_iff rfl).mp hsecond, (Text.writes_iff rfl).mp hthird,
      (Text.writes_iff rfl).mp hfourth⟩
  · rintro ⟨first, second, third, fourth, rfl, hfirst, hsecond, hthird, hfourth⟩
    exact .cons ((Text.writes_iff rfl).mpr hfirst) (.cons ((Text.writes_iff rfl).mpr hsecond)
      (.cons ((Text.writes_iff rfl).mpr hthird) (.cons ((Text.writes_iff rfl).mpr hfourth) .nil)))

end PropertySettings
