import Mathlib
import PropertySettings.Proofs.Reading
import PropertySettings.Value.Json

/-!
# The tokens of JSON documents

A JSON document is cut into **tokens**, character by character: brackets, commas and colons, strings
and words. A string is read into UTF-16 code units and whole code points first; only when it ends
are surrogates joined. Whatever the layout, a document that is written for a value has the tokens of
that value (`Json.tokensFrom_jsonAt`). The condition on what follows it is that a word must end
before the next one begins.
-/

namespace PropertySettings

namespace Json

/-! ### Tokens -/

/-- A token; a word is a literal or a number, and is not judged yet. -/
inductive Token where
  | openList
  | closeList
  | openFields
  | closeFields
  | comma
  | colon
  | string (t : Text)
  | word (w : Text)
deriving DecidableEq

/-- The tokens of a single character. -/
def marks : List (Char × Token) :=
  [('[', .openList), (']', .closeList), ('\x7b', .openFields), ('\x7d', .closeFields),
    (',', .comma), (':', .colon)]

/-- The characters between tokens that count for nothing. -/
def isSpace (c : Char) : Bool :=
  c = ' ' || c = '\t' || c = '\n' || c = '\r'

/-- The characters that words are made of. -/
def isOrdinary (c : Char) : Bool :=
  c ≠ '\x22' && !isSpace c && (marks.lookup c).isNone

/-! ### Strings as code units -/

/-- Puts a unit before others; two surrogates that belong together become one code point. -/
def joinUnit (unit : Nat) : List Nat → List Nat
  | [] => [unit]
  | next :: units =>
    if 0xD800 ≤ unit ∧ unit < 0xDC00 ∧ 0xDC00 ≤ next ∧ next < 0xE000 then
      (0x10000 + (unit - 0xD800) * 0x400 + (next - 0xDC00)) :: units
    else unit :: next :: units

/-- The text that units stand for, unless a surrogate is left alone. -/
def ofUnits? (units : List Nat) : Option Text :=
  (units.foldr joinUnit []).mapM fun n => if n.isValidChar then some (Char.ofNat n) else none

/-- The characters that stand for others behind a backslash. -/
def escapes : List (Char × Char) :=
  [('\x22', '\x22'), ('\\', '\\'), ('/', '/'), ('b', '\x08'), ('f', '\x0c'), ('n', '\n'),
    ('r', '\r'), ('t', '\t')]

/-- The value of a hexadecimal digit. -/
def hexValue? (c : Char) : Option Nat :=
  if '0' ≤ c ∧ c ≤ '9' then some (c.toNat - '0'.toNat)
  else if 'a' ≤ c ∧ c ≤ 'f' then some (c.toNat - 'a'.toNat + 10)
  else if 'A' ≤ c ∧ c ≤ 'F' then some (c.toNat - 'A'.toNat + 10)
  else none

/-! ### Cutting -/

/-- Where in a document the next character stands. -/
inductive Mode where
  | between
  | word (w : Text)
  | string (units : List Nat)
  | escape (units : List Nat)
  /-- Within a number, with so many digits to come after the next one. -/
  | code (units : List Nat) (left value : Nat)

/-- Where the next character stands while so many digits of a number are still to come. -/
def Mode.awaiting (units : List Nat) : (left value : Nat) → Mode
  | 0, value => .string (units ++ [value])
  | left + 1, value => .code units left value

/-- A character between tokens. -/
def start (c : Char) : Mode × List Token :=
  if c = '\x22' then (.string [], [])
  else if isSpace c then (.between, [])
  else
    match marks.lookup c with
    | some token => (.between, [token])
    | none => (.word [c], [])

/-- What a character leads to, and the tokens that it ends. -/
def step : Mode → Char → Option (Mode × List Token)
  | .between, c => some (start c)
  | .word w, c =>
    if isOrdinary c then some (.word (w ++ [c]), [])
    else some ((start c).1, .word w :: (start c).2)
  | .string units, c =>
    if c = '\x22' then (ofUnits? units).map fun t => (.between, [.string t])
    else if c = '\\' then some (.escape units, [])
    else if c.toNat < 0x20 then none
    else some (.string (units ++ [c.toNat]), [])
  | .escape units, c =>
    if c = 'u' then some (.awaiting units 4 0, [])
    else (escapes.lookup c).map fun d => (.string (units ++ [d.toNat]), [])
  | .code units left value, c =>
    (hexValue? c).map fun digit => (.awaiting units left (16 * value + digit), [])

/-- The tokens that a text has from a mode on. -/
def tokensFrom : Mode → Text → Option (List Token)
  | .between, [] => some []
  | .word w, [] => some [.word w]
  | _, [] => none
  | mode, c :: rest =>
    (step mode c).bind fun next => (tokensFrom next.1 rest).map (next.2 ++ ·)

/-! ### What is between tokens, and tokens of a single character -/

section Single

variable {mode next : Mode} {c : Char} {rest : Text} {found tokens : List Token} {token : Token}

theorem tokensFrom_cons (hstep : step mode c = some (next, found))
    (h : tokensFrom next rest = some tokens) :
    tokensFrom mode (c :: rest) = some (found ++ tokens) := by
  cases mode <;> simp [tokensFrom, hstep, h]

/-- A character that only changes the mode. -/
theorem tokensFrom_silent (next : Mode) (hstep : step mode c = some (next, []))
    (h : tokensFrom next rest = some tokens) : tokensFrom mode (c :: rest) = some tokens :=
  tokensFrom_cons hstep h

/-- A character that is a token. -/
theorem tokensFrom_mark (hstep : step .between c = some (.between, [token]))
    (h : tokensFrom .between rest = some tokens) :
    tokensFrom .between (c :: rest) = some (token :: tokens) :=
  tokensFrom_cons hstep h

theorem tokensFrom_space (hc : isSpace c = true) (h : tokensFrom .between rest = some tokens) :
    tokensFrom .between (c :: rest) = some tokens := by
  have hquote : c ≠ '\x22' := by
    rintro rfl
    exact absurd hc (by decide)
  have hstep : step .between c = some (.between, []) := by
    simp [step, start, hc, hquote]
  exact tokensFrom_silent _ hstep h

/-- The start of a line counts for nothing. -/
theorem tokensFrom_jsonLine (depth : Nat) (h : tokensFrom .between rest = some tokens) :
    tokensFrom .between (Value.jsonLine depth ++ rest) = some tokens := by
  refine tokensFrom_space rfl ?_
  -- the spaces, however many they are
  induction 2 * depth with
  | zero => exact h
  | succ n ih => exact tokensFrom_space rfl ih

end Single

/-! ### Words -/

section Word

variable {w : Text} {rest : Text} {tokens : List Token}

/-- No word goes on with the text. -/
def Stops (rest : Text) : Prop :=
  ∀ c, rest.head? = some c → isOrdinary c = false

theorem stops_nil : Stops [] := by
  simp [Stops]

theorem stops_cons {c : Char} (hc : isOrdinary c = false) : Stops (c :: rest) := by
  rintro d ⟨⟩
  exact hc

theorem stops_jsonLine (depth : Nat) : Stops (Value.jsonLine depth ++ rest) :=
  stops_cons rfl

theorem tokensFrom_word_append (front : Text) (hw : ∀ c ∈ w, isOrdinary c = true)
    (hstop : Stops rest) (h : tokensFrom .between rest = some tokens) :
    tokensFrom (.word front) (w ++ rest) = some (.word (front ++ w) :: tokens) := by
  induction w generalizing front with
  | nil =>
    rw [List.append_nil, List.nil_append]
    cases rest with
    | nil =>
      obtain rfl : [] = tokens := Option.some.inj h
      rfl
    | cons c rest =>
      have hc := hstop c rfl
      simp only [tokensFrom, step, Option.bind_some, Option.map_eq_some_iff] at h
      obtain ⟨after, hafter, rfl⟩ := h
      have hstep : step (.word front) c = some ((start c).1, .word front :: (start c).2) := by
        simp [step, hc]
      exact tokensFrom_cons hstep hafter
  | cons c w ih =>
    obtain ⟨hc, hw⟩ := List.forall_mem_cons.mp hw
    have hstep : step (.word front) c = some (.word (front ++ [c]), []) := by simp [step, hc]
    have hmore := ih (front ++ [c]) hw
    rw [List.append_assoc] at hmore
    exact tokensFrom_silent _ hstep hmore

/-- A word is a token if it ends where the rest begins. -/
theorem tokensFrom_word (hne : w ≠ []) (hw : ∀ c ∈ w, isOrdinary c = true) (hstop : Stops rest)
    (h : tokensFrom .between rest = some tokens) :
    tokensFrom .between (w ++ rest) = some (.word w :: tokens) := by
  obtain ⟨c, w, rfl⟩ := List.exists_cons_of_ne_nil hne
  obtain ⟨hc, hw⟩ := List.forall_mem_cons.mp hw
  have hstep : step .between c = some (.word [c], []) := by
    simp only [isOrdinary, Bool.and_eq_true, decide_eq_true_eq, Bool.not_eq_true',
      Option.isNone_iff_eq_none] at hc
    simp [step, start, hc]
  exact tokensFrom_silent _ hstep (tokensFrom_word_append [c] hw hstop h)

theorem isOrdinary_of_isDigit {c : Char} (h : c.isDigit) : isOrdinary c = true := by
  have hne : ∀ d : Char, d.isDigit = false → c ≠ d := by
    rintro d hd rfl
    simp [hd] at h
  simp [isOrdinary, isSpace, marks, List.lookup_eq_none_iff, hne]

theorem isOrdinary_of_mem_ofInt {n : Int} : ∀ c ∈ Numeral.ofInt n, isOrdinary c = true := by
  have hdigits : ∀ n, ∀ c ∈ Numeral.ofNat n, isOrdinary c = true := fun n c hc =>
    isOrdinary_of_isDigit (List.all_eq_true.mp (Numeral.all_isDigit_ofNat n) c hc)
  cases n with
  | ofNat n => exact hdigits n
  | negSucc n => exact List.forall_mem_cons.mpr ⟨rfl, hdigits _⟩

theorem ofInt_ne_nil (n : Int) : Numeral.ofInt n ≠ [] := by
  cases n with
  | ofNat n => exact Nat.toDigits_ne_nil
  | negSucc n => exact List.cons_ne_nil _ _

end Word

/-! ### Strings -/

section String

variable {rest : Text} {tokens : List Token} {units : List Nat}

theorem joinUnit_toNat (c : Char) (units : List Nat) :
    joinUnit c.toNat units = c.toNat :: units := by
  cases units with
  | nil => rfl
  | cons next units =>
    refine if_neg fun h => ?_
    have hvalid : c.toNat.isValidChar := c.valid
    unfold Nat.isValidChar at hvalid
    omega

/-- The units of a text give it back; no surrogate is among them. -/
theorem ofUnits?_map_toNat (t : Text) : ofUnits? (t.map Char.toNat) = some t := by
  have hjoin : (t.map Char.toNat).foldr joinUnit [] = t.map Char.toNat := by
    induction t with
    | nil => rfl
    | cons c t ih => rw [List.map_cons, List.foldr_cons, ih, joinUnit_toNat]
  rw [ofUnits?, hjoin, List.mapM_map]
  clear hjoin
  induction t with
  | nil => rfl
  | cons c t ih =>
    have hvalid : c.toNat.isValidChar := c.valid
    rw [List.mapM_cons, ih]
    simp [hvalid]

/-- A letter behind a backslash adds what it stands for. -/
theorem tokensFrom_escaped {letter c : Char} (hletter : letter ≠ 'u')
    (hc : escapes.lookup letter = some c)
    (h : tokensFrom (.string (units ++ [c.toNat])) rest = some tokens) :
    tokensFrom (.string units) ('\\' :: letter :: rest) = some tokens := by
  have hstep : step (.escape units) letter = some (.string (units ++ [c.toNat]), []) := by
    simp [step, hletter, hc]
  exact tokensFrom_silent (.escape units) rfl (tokensFrom_silent _ hstep h)

theorem hexValue?_digitChar : ∀ digit < 16, hexValue? (Nat.digitChar digit) = some digit := by
  decide

theorem tokensFrom_digit {left value digit : Nat} (hdigit : digit < 16)
    (h : tokensFrom (.awaiting units left (16 * value + digit)) rest = some tokens) :
    tokensFrom (.awaiting units (left + 1) value) (Nat.digitChar digit :: rest) = some tokens := by
  have hstep : step (.code units left value) (Nat.digitChar digit)
      = some (.awaiting units left (16 * value + digit), []) := by
    simp [step, hexValue?_digitChar digit hdigit]
  exact tokensFrom_silent _ hstep h

/-- A number behind a backslash adds the unit with that number. -/
theorem tokensFrom_number {n : Nat} (hn : n < 0x10000)
    (h : tokensFrom (.string (units ++ [n])) rest = some tokens) :
    tokensFrom (.string units) ('\\' :: 'u' :: Text.hexDigits 4 n ++ rest) = some tokens := by
  have hplaces : 16 * (16 * (16 * (16 * 0 + n / 16 / 16 / 16 % 16) + n / 16 / 16 % 16)
      + n / 16 % 16) + n % 16 = n := by omega
  refine tokensFrom_silent (.escape units) rfl (tokensFrom_silent (.awaiting units 4 0) rfl ?_)
  refine tokensFrom_digit (Nat.mod_lt _ (by decide)) ?_
  refine tokensFrom_digit (Nat.mod_lt _ (by decide)) ?_
  refine tokensFrom_digit (Nat.mod_lt _ (by decide)) ?_
  refine tokensFrom_digit (Nat.mod_lt _ (by decide)) ?_
  rwa [hplaces]

/-- What is written for a character adds that character. -/
theorem tokensFrom_jsonEscape (c : Char)
    (h : tokensFrom (.string (units ++ [c.toNat])) rest = some tokens) :
    tokensFrom (.string units) (Value.jsonEscape c ++ rest) = some tokens := by
  unfold Value.jsonEscape
  split_ifs with hquote hback hfeed hreturn htab hb hf hcontrol
  · exact tokensFrom_escaped (by decide) rfl (hquote ▸ h)
  · exact tokensFrom_escaped (by decide) rfl (hback ▸ h)
  · exact tokensFrom_escaped (by decide) rfl (hfeed ▸ h)
  · exact tokensFrom_escaped (by decide) rfl (hreturn ▸ h)
  · exact tokensFrom_escaped (by decide) rfl (htab ▸ h)
  · exact tokensFrom_escaped (by decide) rfl (hb ▸ h)
  · exact tokensFrom_escaped (by decide) rfl (hf ▸ h)
  · exact tokensFrom_number (by omega) h
  · have hstep : step (.string units) c = some (.string (units ++ [c.toNat]), []) := by
      simp [step, hquote, hback, hcontrol]
    exact tokensFrom_silent _ hstep h

theorem tokensFrom_escapes (t : Text)
    (h : tokensFrom (.string (units ++ t.map Char.toNat)) rest = some tokens) :
    tokensFrom (.string units) (t.flatMap Value.jsonEscape ++ rest) = some tokens := by
  induction t generalizing units with
  | nil => simpa using h
  | cons c t ih =>
    rw [List.flatMap_cons, List.append_assoc]
    refine tokensFrom_jsonEscape c (ih ?_)
    rwa [List.append_assoc]

/-- A string is read as its text, whatever characters that has. -/
theorem tokensFrom_jsonString (t : Text) (h : tokensFrom .between rest = some tokens) :
    tokensFrom .between (Value.jsonString t ++ rest) = some (.string t :: tokens) := by
  have hend : step (.string (t.map Char.toNat)) '\x22' = some (.between, [.string t]) := by
    simp [step, ofUnits?_map_toNat]
  rw [Value.jsonString, List.append_assoc]
  refine tokensFrom_silent (.string []) rfl (tokensFrom_escapes t ?_)
  exact tokensFrom_cons hend h

end String

end Json

/-! ### The tokens of a value -/

namespace Value

mutual

/-- The tokens of a value. -/
def tokens : Value → List Json.Token
  | .null => [.word "null".toList]
  | .bool true => [.word "true".toList]
  | .bool false => [.word "false".toList]
  | .int n => [.word (Numeral.ofInt n)]
  | .text t => [.string t]
  | .list items => .openList :: (itemTokens items ++ [.closeList])
  | .fields entries => .openFields :: (fieldTokens entries ++ [.closeFields])

/-- The tokens of values with commas between them. -/
def itemTokens : List Value → List Json.Token
  | [] => []
  | [item] => item.tokens
  | item :: rest => item.tokens ++ .comma :: itemTokens rest

/-- The tokens of named values with commas between them. -/
def fieldTokens : List (Text × Value) → List Json.Token
  | [] => []
  | [(name, value)] => .string name :: .colon :: value.tokens
  | (name, value) :: rest => .string name :: .colon :: (value.tokens ++ .comma :: fieldTokens rest)

end

end Value

namespace Json

variable {rest : Text} {tokens : List Token}

mutual

/-- **A document has the tokens of its value**, at any depth, and whatever stands behind it. -/
theorem tokensFrom_jsonAt {rest : Text} {tokens : List Token} (depth : Nat) (hstop : Stops rest)
    (h : tokensFrom .between rest = some tokens) : (v : Value) →
    tokensFrom .between (v.jsonAt depth ++ rest) = some (v.tokens ++ tokens)
  | .null =>
    show tokensFrom _ ("null".toList ++ rest) = _ from
      tokensFrom_word (by decide) (List.all_eq_true.mp rfl) hstop h
  | .bool true =>
    show tokensFrom _ ("true".toList ++ rest) = _ from
      tokensFrom_word (by decide) (List.all_eq_true.mp rfl) hstop h
  | .bool false =>
    show tokensFrom _ ("false".toList ++ rest) = _ from
      tokensFrom_word (by decide) (List.all_eq_true.mp rfl) hstop h
  | .int n => tokensFrom_word (ofInt_ne_nil n) isOrdinary_of_mem_ofInt hstop h
  | .text t => tokensFrom_jsonString t h
  | .list [] => tokensFrom_mark rfl (tokensFrom_mark rfl h)
  | .list (item :: items) => by
    have hitems := tokensFrom_jsonItems (depth + 1) (stops_jsonLine depth)
      (tokensFrom_jsonLine depth (tokensFrom_mark (c := ']') rfl h)) (item :: items)
    have hlist := tokensFrom_mark (c := '[') rfl hitems
    simpa [Value.jsonAt, Value.tokens] using hlist
  | .fields [] => tokensFrom_mark rfl (tokensFrom_mark rfl h)
  | .fields (entry :: entries) => by
    have hfields := tokensFrom_jsonFields (depth + 1) (stops_jsonLine depth)
      (tokensFrom_jsonLine depth (tokensFrom_mark (c := '\x7d') rfl h)) (entry :: entries)
    have hwhole := tokensFrom_mark (c := '\x7b') rfl hfields
    simpa [Value.jsonAt, Value.tokens] using hwhole

theorem tokensFrom_jsonItems {rest : Text} {tokens : List Token} (depth : Nat) (hstop : Stops rest)
    (h : tokensFrom .between rest = some tokens) : (items : List Value) →
    tokensFrom .between (Value.jsonItems depth items ++ rest)
      = some (Value.itemTokens items ++ tokens)
  | [] => h
  | [item] => by
    have hitem := tokensFrom_jsonLine depth (tokensFrom_jsonAt depth hstop h item)
    simpa [Value.jsonItems, Value.itemTokens] using hitem
  | item :: second :: items => by
    have hothers := tokensFrom_mark (c := ',') rfl
      (tokensFrom_jsonItems depth hstop h (second :: items))
    have hitem := tokensFrom_jsonLine depth
      (tokensFrom_jsonAt depth (stops_cons rfl) hothers item)
    simpa [Value.jsonItems, Value.itemTokens] using hitem

theorem tokensFrom_jsonFields {rest : Text} {tokens : List Token} (depth : Nat) (hstop : Stops rest)
    (h : tokensFrom .between rest = some tokens) : (entries : List (Text × Value)) →
    tokensFrom .between (Value.jsonFields depth entries ++ rest)
      = some (Value.fieldTokens entries ++ tokens)
  | [] => h
  | [(name, value)] => by
    have hvalue := tokensFrom_mark (c := ':') rfl
      (tokensFrom_space (c := ' ') rfl (tokensFrom_jsonAt depth hstop h value))
    have hfield := tokensFrom_jsonLine depth (tokensFrom_jsonString name hvalue)
    simpa [Value.jsonFields, Value.fieldTokens] using hfield
  | (name, value) :: second :: entries => by
    have hothers := tokensFrom_mark (c := ',') rfl
      (tokensFrom_jsonFields depth hstop h (second :: entries))
    have hvalue := tokensFrom_mark (c := ':') rfl (tokensFrom_space (c := ' ') rfl
      (tokensFrom_jsonAt depth (stops_cons rfl) hothers value))
    have hfield := tokensFrom_jsonLine depth (tokensFrom_jsonString name hvalue)
    simpa [Value.jsonFields, Value.fieldTokens] using hfield

end

end Json

end PropertySettings
