import PropertySettings.Text.Numeral
import PropertySettings.Text.Quoted

/-!
# UTF-8

Bytes are read one by one. Between characters the machine is idle; a lead byte tells how many more
bytes the character has and between which bounds the next one lies, which rules out overlong forms,
surrogates and numbers above `U+10FFFF` at the second byte. Reading stops at the first byte that no
character could go on with. The **fault** then names where the character began, the bytes of it
that were still good, and what was wrong.
-/

namespace PropertySettings.Utf8

/-- The bytes of a text. -/
def encode (t : Text) : List UInt8 :=
  t.flatMap String.utf8EncodeChar

theorem encode_append (t rest : Text) : encode (t ++ rest) = encode t ++ encode rest :=
  List.flatMap_append

/-- What is wrong with the bytes of a character. -/
inductive Reason where
  /-- No character starts with the byte. -/
  | start
  /-- The next byte does not go on with the character. -/
  | continuation
  /-- The bytes end within the character. -/
  | truncated
deriving DecidableEq

/-- Bytes that are not a character: where they start, which they are, and why. -/
structure Fault where
  position : Nat
  bytes : List UInt8
  reason : Reason
deriving DecidableEq

/-- A character of which some bytes have been read. -/
structure Partial where
  /-- The bytes read so far. -/
  held : List UInt8
  /-- How many bytes are still to come. -/
  owed : Nat
  /-- The least byte that may come next. -/
  low : UInt8
  /-- The greatest byte that may come next. -/
  high : UInt8
  /-- The number given by the bytes read so far. -/
  value : Nat

/-- What a byte between characters means. -/
inductive Lead where
  /-- It is a character of its own. -/
  | single
  /-- More bytes follow. -/
  | more (partialChar : Partial)
  /-- No character starts with it. -/
  | none

/-- The character that a lead byte opens. -/
def lead (b : UInt8) : Lead :=
  let bits (mask : Nat) := b.toNat % mask
  if b < 0x80 then .single
  else if b < 0xC2 then .none
  else if b < 0xE0 then .more ⟨[b], 1, 0x80, 0xBF, bits 0x20⟩
  else if b = 0xE0 then .more ⟨[b], 2, 0xA0, 0xBF, bits 0x10⟩
  else if b = 0xED then .more ⟨[b], 2, 0x80, 0x9F, bits 0x10⟩
  else if b < 0xF0 then .more ⟨[b], 2, 0x80, 0xBF, bits 0x10⟩
  else if b = 0xF0 then .more ⟨[b], 3, 0x90, 0xBF, bits 0x08⟩
  else if b < 0xF4 then .more ⟨[b], 3, 0x80, 0xBF, bits 0x08⟩
  else if b = 0xF4 then .more ⟨[b], 3, 0x80, 0x8F, bits 0x08⟩
  else .none

/-- Reads the bytes from `position` on, where `pending` is the character that is being read. -/
def decodeFrom (position : Nat) : (pending : Option Partial) → List UInt8 → Except Fault Text
  | none, [] => .ok []
  | some p, [] => .error ⟨position, p.held, .truncated⟩
  | none, b :: rest =>
    match lead b with
    | .single => (Char.ofNat b.toNat :: ·) <$> decodeFrom (position + 1) none rest
    | .more p => decodeFrom position (some p) rest
    | .none => .error ⟨position, [b], .start⟩
  | some p, b :: rest =>
    if p.low ≤ b ∧ b ≤ p.high then
      let value := p.value * 0x40 + b.toNat % 0x40
      if p.owed = 1 then
        (Char.ofNat value :: ·) <$> decodeFrom (position + p.held.length + 1) none rest
      else
        decodeFrom position (some ⟨p.held ++ [b], p.owed - 1, 0x80, 0xBF, value⟩) rest
    else .error ⟨position, p.held, .continuation⟩

/-- The text that the bytes encode. -/
def decode (bytes : List UInt8) : Except Fault Text :=
  decodeFrom 0 none bytes

/-! ### What is said about a fault -/

/-- The reason in words. -/
def Reason.text : Reason → Text
  | .start => "invalid start byte".toList
  | .continuation => "invalid continuation byte".toList
  | .truncated => "unexpected end of data".toList

/-- The fault in words: a single byte is shown, of several the first and last position. -/
def Fault.message (fault : Fault) : Text :=
  let place :=
    match fault.bytes with
    | [b] =>
      "byte 0x".toList ++ Text.hexDigits 2 b.toNat ++ " in position ".toList
        ++ Numeral.ofNat fault.position
    | bytes =>
      "bytes in position ".toList ++ Numeral.ofNat fault.position ++ "-".toList
        ++ Numeral.ofNat (fault.position + bytes.length - 1)
  "\x27utf-8\x27 codec can\x27t decode ".toList ++ place ++ ": ".toList ++ fault.reason.text

end PropertySettings.Utf8
