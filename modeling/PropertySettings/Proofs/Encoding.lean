import Mathlib
import PropertySettings.ConfigError

/-!
# Texts in files

A text that is written in UTF-8 is read back (`Utf8.decode_encode`): the bytes of each character are
read as that character, by one lemma for each number of bytes, and reading goes on behind them. So a
file that **holds** a text can be read, and what is read is the text with its line breaks folded
(`FileTree.Holds.readText`). A file that cannot be read or is not UTF-8 has a **defect**, which is
what is told about it (`FileTree.Defect.readText`); every file that can be named has a text or a
defect (`FileTree.readable_or_defect`).
-/

namespace PropertySettings

namespace Utf8

/-! ### Lead bytes -/

section Lead

variable {b : UInt8}

theorem lead_of_one (h : b.toNat < 0x80) : lead b = .single := by
  unfold lead
  rw [if_pos (UInt8.lt_iff_toNat_lt.mpr h)]

theorem lead_of_two (h : 0xC2 ≤ b.toNat ∧ b.toNat < 0xE0) :
    lead b = .more ⟨[b], 1, 0x80, 0xBF, b.toNat % 0x20⟩ := by
  simp only [lead, UInt8.lt_iff_toNat_lt, UInt8.reduceToNat]
  rw [if_neg (by omega), if_neg (by omega), if_pos h.2]

theorem lead_of_three (h : 0xE0 ≤ b.toNat ∧ b.toNat < 0xF0) :
    lead b = .more ⟨[b], 2, if b.toNat = 0xE0 then 0xA0 else 0x80,
      if b.toNat = 0xED then 0x9F else 0xBF, b.toNat % 0x10⟩ := by
  simp only [lead, UInt8.lt_iff_toNat_lt, ← UInt8.toNat_inj, UInt8.reduceToNat]
  rw [if_neg (by omega), if_neg (by omega), if_neg (by omega)]
  split_ifs <;> first | rfl | omega

theorem lead_of_four (h : 0xF0 ≤ b.toNat ∧ b.toNat < 0xF5) :
    lead b = .more ⟨[b], 3, if b.toNat = 0xF0 then 0x90 else 0x80,
      if b.toNat = 0xF4 then 0x8F else 0xBF, b.toNat % 0x08⟩ := by
  simp only [lead, UInt8.lt_iff_toNat_lt, ← UInt8.toNat_inj, UInt8.reduceToNat]
  rw [if_neg (by omega), if_neg (by omega), if_neg (by omega), if_neg (by omega), if_neg (by omega),
    if_neg (by omega)]
  split_ifs <;> first | rfl | omega

end Lead

/-! ### Characters -/

section Character

variable {b b₀ b₁ b₂ b₃ low high : UInt8} {position owed value : Nat} {held rest : List UInt8}

/-- A byte that goes on with a character. -/
def Continues (b : UInt8) : Prop :=
  0x80 ≤ b.toNat ∧ b.toNat ≤ 0xBF

theorem decodeFrom_more {p : Partial} (h : lead b = .more p) :
    decodeFrom position none (b :: rest) = decodeFrom position (some p) rest := by
  rw [decodeFrom, h]

/-- A byte that goes on with a character and does not end it. -/
theorem decodeFrom_next (h : low.toNat ≤ b.toNat ∧ b.toNat ≤ high.toNat) :
    decodeFrom position (some ⟨held, owed + 2, low, high, value⟩) (b :: rest)
      = decodeFrom position
          (some ⟨held ++ [b], owed + 1, 0x80, 0xBF, value * 0x40 + b.toNat % 0x40⟩) rest := by
  rw [decodeFrom, if_pos ⟨UInt8.le_iff_toNat_le.mpr h.1, UInt8.le_iff_toNat_le.mpr h.2⟩]
  exact if_neg (Nat.succ_ne_succ_iff.mpr (Nat.succ_ne_zero owed))

/-- The byte behind the second one, or a later one, that does not end a character. -/
theorem decodeFrom_tail (h : Continues b) :
    decodeFrom position (some ⟨held, owed + 2, 0x80, 0xBF, value⟩) (b :: rest)
      = decodeFrom position
          (some ⟨held ++ [b], owed + 1, 0x80, 0xBF, value * 0x40 + b.toNat % 0x40⟩) rest :=
  decodeFrom_next h

/-- A byte that ends a character. -/
theorem decodeFrom_last (h : Continues b) :
    decodeFrom position (some ⟨held, 1, 0x80, 0xBF, value⟩) (b :: rest)
      = (Char.ofNat (value * 0x40 + b.toNat % 0x40) :: ·)
          <$> decodeFrom (position + held.length + 1) none rest := by
  rw [decodeFrom, if_pos ⟨UInt8.le_iff_toNat_le.mpr h.1, UInt8.le_iff_toNat_le.mpr h.2⟩]
  exact if_pos rfl

theorem decodeFrom_one (h : b.toNat < 0x80) :
    decodeFrom position none (b :: rest)
      = (Char.ofNat b.toNat :: ·) <$> decodeFrom (position + 1) none rest := by
  rw [decodeFrom, lead_of_one h]

theorem decodeFrom_two (h₀ : 0xC2 ≤ b₀.toNat ∧ b₀.toNat < 0xE0) (h₁ : Continues b₁) :
    decodeFrom position none (b₀ :: b₁ :: rest)
      = (Char.ofNat (b₀.toNat % 0x20 * 0x40 + b₁.toNat % 0x40) :: ·)
          <$> decodeFrom (position + 2) none rest := by
  rw [decodeFrom_more (lead_of_two h₀), decodeFrom_last h₁]
  rfl

theorem decodeFrom_three (h₀ : 0xE0 ≤ b₀.toNat ∧ b₀.toNat < 0xF0) (h₁ : Continues b₁)
    (hlow : b₀.toNat = 0xE0 → 0xA0 ≤ b₁.toNat) (hhigh : b₀.toNat = 0xED → b₁.toNat ≤ 0x9F)
    (h₂ : Continues b₂) :
    decodeFrom position none (b₀ :: b₁ :: b₂ :: rest)
      = (Char.ofNat ((b₀.toNat % 0x10 * 0x40 + b₁.toNat % 0x40) * 0x40 + b₂.toNat % 0x40) :: ·)
          <$> decodeFrom (position + 3) none rest := by
  have hbounds : ((if b₀.toNat = 0xE0 then 0xA0 else 0x80 : UInt8).toNat ≤ b₁.toNat) ∧
      b₁.toNat ≤ (if b₀.toNat = 0xED then 0x9F else 0xBF : UInt8).toNat := by
    rw [Continues] at h₁
    constructor <;> split <;> simp only [UInt8.reduceToNat] <;> omega
  rw [decodeFrom_more (lead_of_three h₀), decodeFrom_next hbounds, decodeFrom_last h₂]
  rfl

theorem decodeFrom_four (h₀ : 0xF0 ≤ b₀.toNat ∧ b₀.toNat < 0xF5) (h₁ : Continues b₁)
    (hlow : b₀.toNat = 0xF0 → 0x90 ≤ b₁.toNat) (hhigh : b₀.toNat = 0xF4 → b₁.toNat ≤ 0x8F)
    (h₂ : Continues b₂) (h₃ : Continues b₃) :
    decodeFrom position none (b₀ :: b₁ :: b₂ :: b₃ :: rest)
      = (Char.ofNat (((b₀.toNat % 0x08 * 0x40 + b₁.toNat % 0x40) * 0x40 + b₂.toNat % 0x40) * 0x40
            + b₃.toNat % 0x40) :: ·)
          <$> decodeFrom (position + 4) none rest := by
  have hbounds : ((if b₀.toNat = 0xF0 then 0x90 else 0x80 : UInt8).toNat ≤ b₁.toNat) ∧
      b₁.toNat ≤ (if b₀.toNat = 0xF4 then 0x8F else 0xBF : UInt8).toNat := by
    rw [Continues] at h₁
    constructor <;> split <;> simp only [UInt8.reduceToNat] <;> omega
  rw [decodeFrom_more (lead_of_four h₀), decodeFrom_next hbounds, decodeFrom_tail h₂,
    decodeFrom_last h₃]
  rfl

theorem toNat_ofNat_of_lt {n : Nat} (h : n < 256) : (UInt8.ofNat n).toNat = n := by
  rw [UInt8.toNat_ofNat', Nat.mod_eq_of_lt h]

theorem continues_ofNat (n : Nat) : Continues (UInt8.ofNat (n % 64 + 128)) := by
  rw [Continues, toNat_ofNat_of_lt (by omega)]
  omega

/-- The bytes of a character are read as that character. -/
theorem decodeFrom_encodeChar (c : Char) (position : Nat) (rest : List UInt8) :
    decodeFrom position none (String.utf8EncodeChar c ++ rest)
      = (c :: ·) <$> decodeFrom (position + (String.utf8EncodeChar c).length) none rest := by
  -- the number is no surrogate and lies within the code points, which bounds the second byte
  have hvalid : c.toNat < 0xD800 ∨ (0xDFFF < c.toNat ∧ c.toNat < 0x110000) := c.valid
  have hchar : ∀ n, n = c.toNat → Char.ofNat n = c := fun n hn => hn ▸ Char.ofNat_toNat c
  have hlast := toNat_ofNat_of_lt (n := c.toNat % 64 + 128) (by omega)
  have hsecond := toNat_ofNat_of_lt (n := c.toNat / 64 % 64 + 128) (by omega)
  have hthird := toNat_ofNat_of_lt (n := c.toNat / 4096 % 64 + 128) (by omega)
  unfold String.utf8EncodeChar
  simp only [show c.val.toNat = c.toNat from rfl]
  split_ifs with hone htwo hthree
  · have hlead := toNat_ofNat_of_lt (n := c.toNat) (by omega)
    rw [List.singleton_append, decodeFrom_one (by omega), hchar _ hlead]
    rfl
  · have hlead := toNat_ofNat_of_lt (n := c.toNat / 64 % 32 + 192) (by omega)
    rw [List.cons_append, List.singleton_append, decodeFrom_two (by omega) (continues_ofNat _),
      hchar _ (by omega)]
    rfl
  · have hlead := toNat_ofNat_of_lt (n := c.toNat / 4096 % 16 + 224) (by omega)
    rw [List.cons_append, List.cons_append, List.singleton_append,
      decodeFrom_three (by omega) (continues_ofNat _) (by omega) (by omega) (continues_ofNat _),
      hchar _ (by omega)]
    rfl
  · have hlead := toNat_ofNat_of_lt (n := c.toNat / 262144 % 8 + 240) (by omega)
    rw [List.cons_append, List.cons_append, List.cons_append, List.singleton_append,
      decodeFrom_four (by omega) (continues_ofNat _) (by omega) (by omega) (continues_ofNat _)
        (continues_ofNat _),
      hchar _ (by omega)]
    rfl

end Character

/-! ### Texts -/

/-- The bytes of a text are read as that text, and reading goes on behind them. -/
theorem decodeFrom_encode (t : Text) (position : Nat) (rest : List UInt8) :
    decodeFrom position none (encode t ++ rest)
      = (t ++ ·) <$> decodeFrom (position + (encode t).length) none rest := by
  induction t generalizing position with
  | nil => exact (id_map _).symm
  | cons c t ih =>
    have hencode : encode (c :: t) = String.utf8EncodeChar c ++ encode t := List.flatMap_cons
    rw [hencode, List.append_assoc, decodeFrom_encodeChar, ih, List.length_append, Nat.add_assoc,
      Functor.map_map]
    rfl

/-- **A text that is written is read back.** -/
theorem decode_encode (t : Text) : decode (encode t) = .ok t := by
  have h := decodeFrom_encode t 0 []
  rw [List.append_nil] at h
  rw [decode, h]
  exact congrArg Except.ok (List.append_nil t)

end Utf8

/-! ### Files -/

namespace FileTree

variable {files : FileTree} {path : Path} {t : Text} {cause : Cause}

/-- The path leads to a file that has the text in UTF-8, and can be opened. -/
structure Holds (files : FileTree) (path : Path) (t : Text) : Prop where
  name : '\x00' ∉ path.toText
  content : files.read path = .ok (Utf8.encode t)

/-- What keeps a text from being read at a path that can be opened: there is no file, or its bytes
are not UTF-8. -/
def Defect (files : FileTree) (path : Path) : Cause → Prop
  | .system e at' => at' = path ∧ files.read path = .error e
  | .undecodable fault => ∃ bytes, files.read path = .ok bytes ∧ Utf8.decode bytes = .error fault
  | .reported _ _ => False

theorem readText_of_decode {bytes : List UInt8} (hname : '\x00' ∉ path.toText)
    (hread : files.read path = .ok bytes) (hdecode : Utf8.decode bytes = .ok t) :
    files.readText path = .ok (Text.foldBreaks t) := by
  rw [readText, if_neg hname, hread]
  simp only [hdecode]

theorem Holds.readText (h : files.Holds path t) :
    files.readText path = .ok (Text.foldBreaks t) :=
  readText_of_decode h.name h.content (Utf8.decode_encode t)

theorem Defect.readText (hname : '\x00' ∉ path.toText) (h : files.Defect path cause) :
    files.readText path = .error (.config (.unreadable path.toText cause)) := by
  rw [FileTree.readText, if_neg hname]
  cases cause with
  | system e other =>
    obtain ⟨rfl, hread⟩ := h
    rw [hread]
  | undecodable fault =>
    obtain ⟨bytes, hread, hdecode⟩ := h
    simp only [hread, hdecode]
  | reported kind text => exact h.elim

/-- A path leads to bytes that are a text, or there is a defect. -/
theorem readable_or_defect (files : FileTree) (path : Path) :
    (∃ bytes t, files.read path = .ok bytes ∧ Utf8.decode bytes = .ok t) ∨
      ∃ cause, files.Defect path cause := by
  cases hread : files.read path with
  | error e => exact .inr ⟨.system e path, rfl, hread⟩
  | ok bytes =>
    cases hdecode : Utf8.decode bytes with
    | ok t => exact .inl ⟨bytes, t, rfl, hdecode⟩
    | error fault => exact .inr ⟨.undecodable fault, bytes, hread, hdecode⟩

end FileTree

end PropertySettings
