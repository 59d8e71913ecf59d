import Mathlib
import PropertySettings.Proofs.JsonTokens

/-!
# Reading JSON documents

The tokens of a document are read from left to right, with a stack of the lists and fields that are
still open. A value of any depth is read from its tokens without touching what is below
(`Json.readFrom_value`); with the tokens of documents (`Json.tokensFrom_jsonAt`) this gives that
reading a document undoes writing it (`Value.ofJson?_json`). Numbers with a fraction or an exponent
are not read, since no value is one.
-/

namespace PropertySettings

/-! ### Words -/

namespace Json

/-- The integer that a word is: no plus sign, and no zero before other digits. -/
def integer? (w : Text) : Option Int :=
  (Numeral.ofText? w).bind fun numeral =>
    if w.head? = some '+' ∨ (numeral.digits.head? = some '0' ∧ numeral.digits ≠ ['0']) then none
    else some numeral.value

/-- The value that a word stands for. -/
def ofWord? (w : Text) : Option Value :=
  match integer? w with
  | some n => some (.int n)
  | none =>
    if w = "null".toList then some .null
    else if w = "true".toList then some (.bool true)
    else if w = "false".toList then some (.bool false)
    else none

end Json

/-- Only the digits of zero begin with zero. -/
theorem Numeral.ofNat_of_head? {n : Nat} (h : (ofNat n).head? = some '0') : ofNat n = ['0'] := by
  obtain ⟨rest, hrest⟩ := List.head?_eq_some_iff.mp h
  cases rest with
  | nil => exact hrest
  | cons d rest =>
    have hdigits : (d :: rest).all Char.isDigit := by
      have hall := all_isDigit_ofNat n
      rw [hrest, List.all_cons, Bool.and_eq_true] at hall
      exact hall.2
    have hvalue : magnitude (d :: rest) = n := by
      rw [← magnitude_ofNat n, hrest]
      rfl
    -- without the zero there are as many places, but one digit less
    have hshort : (ofNat n).length ≤ (d :: rest).length := by
      rw [ofNat, Nat.length_toDigits_le_iff (by decide) (by simp)]
      exact hvalue ▸ magnitude_lt hdigits
    rw [hrest, List.length_cons] at hshort
    omega

namespace Json

theorem integer?_ofInt (n : Int) : integer? (Numeral.ofInt n) = some n := by
  have hzero : ¬ ((Numeral.ofNat n.natAbs).head? = some '0' ∧ Numeral.ofNat n.natAbs ≠ ['0']) :=
    fun h => h.2 (Numeral.ofNat_of_head? h.1)
  have hplus : (Numeral.ofInt n).head? ≠ some '+' := by
    cases n with
    | negSucc n => simp [Numeral.ofInt]
    | ofNat n =>
      intro h
      have hmem := List.mem_of_head? h
      exact absurd (List.all_eq_true.mp (Numeral.all_isDigit_ofNat n) _ hmem) (by decide)
  rw [integer?, Numeral.ofText?_ofInt, Option.bind_some, if_neg (not_or.mpr ⟨hplus, hzero⟩),
    Numeral.value_ofInt]

theorem ofWord?_ofInt (n : Int) : ofWord? (Numeral.ofInt n) = some (.int n) := by
  rw [ofWord?, integer?_ofInt]

/-! ### Reading tokens -/

/-- What is still open around a value, the last item or field first. -/
inductive Frame where
  | item (before : List Value)
  | field (before : List (Text × Value)) (name : Text)

/-- Where in a document the next token stands. -/
inductive Point where
  /-- Before a value, and not at the start of a list. -/
  | value
  | item (before : List Value)
  | name (before : List (Text × Value))
  | colon (before : List (Text × Value)) (name : Text)
  /-- Behind a value. -/
  | done (v : Value)

/-- A token that begins a value. -/
def begin (stack : List Frame) : Token → Option (Point × List Frame)
  | .word w => (ofWord? w).map fun v => (.done v, stack)
  | .string t => some (.done (.text t), stack)
  | .openList => some (.item [], stack)
  | .openFields => some (.name [], stack)
  | _ => none

/-- What a token leads to. A list or fields can end right where they begin, but not behind a
comma. -/
def advance : Point → List Frame → Token → Option (Point × List Frame)
  | .value, stack, token => begin stack token
  | .item [], stack, .closeList => some (.done (.list []), stack)
  | .item before, stack, token => begin (.item before :: stack) token
  | .name [], stack, .closeFields => some (.done (.fields []), stack)
  | .name before, stack, .string name => some (.colon before name, stack)
  | .colon before name, stack, .colon => some (.value, .field before name :: stack)
  | .done v, .item before :: stack, .comma => some (.item (v :: before), stack)
  | .done v, .item before :: stack, .closeList => some (.done (.list (v :: before).reverse), stack)
  | .done v, .field before name :: stack, .comma => some (.name ((name, v) :: before), stack)
  | .done v, .field before name :: stack, .closeFields =>
    some (.done (.fields ((name, v) :: before).reverse), stack)
  | _, _, _ => none

/-- The value that tokens lead to. -/
def readFrom : Point → List Frame → List Token → Option Value
  | .done v, [], [] => some v
  | _, _, [] => none
  | point, stack, token :: tokens =>
    (advance point stack token).bind fun next => readFrom next.1 next.2 tokens

end Json

/-- The value that a JSON document stands for. -/
def Value.ofJson? (document : Text) : Option Value :=
  (Json.tokensFrom .between document).bind (Json.readFrom .value [])

namespace Json

section Reading

variable {point next : Point} {stack below : List Frame} {token : Token} {tokens : List Token}

theorem readFrom_cons (hstep : advance point stack token = some (next, below)) :
    readFrom point stack (token :: tokens) = readFrom next below tokens := by
  cases point <;> simp [readFrom, hstep]

/-- A value begins with a token that ends no list. -/
theorem exists_tokens_eq_cons (v : Value) :
    ∃ token tokens, v.tokens = token :: tokens ∧ token ≠ .closeList := by
  cases v with
  | bool b => cases b <;> exact ⟨_, _, rfl, by simp⟩
  | _ => exact ⟨_, _, rfl, by simp⟩

/-- An item is read as a value is. -/
theorem readFrom_item (before : List Value) (v : Value) :
    readFrom (.item before) stack (v.tokens ++ tokens)
      = readFrom .value (.item before :: stack) (v.tokens ++ tokens) := by
  obtain ⟨token, others, htokens, hopen⟩ := exists_tokens_eq_cons v
  have hstep : advance (.item before) stack token
      = advance .value (.item before :: stack) token := by
    cases before <;> cases token <;> first | rfl | exact absurd rfl hopen
  rw [htokens, List.cons_append, readFrom, readFrom, hstep]

theorem readFrom_name (before : List (Text × Value)) (name : Text) :
    readFrom (.name before) stack (.string name :: tokens)
      = readFrom (.colon before name) stack tokens :=
  readFrom_cons (by cases before <;> rfl)

mutual

/-- **A value is read from its tokens**, and what is open around it stays as it is. -/
theorem readFrom_value (stack : List Frame) (tokens : List Token) : (v : Value) →
    readFrom .value stack (v.tokens ++ tokens) = readFrom (.done v) stack tokens
  | .null => readFrom_cons rfl
  | .bool true => readFrom_cons rfl
  | .bool false => readFrom_cons rfl
  | .int n => readFrom_cons (by rw [advance, begin, ofWord?_ofInt]; rfl)
  | .text t => readFrom_cons rfl
  | .list [] => (readFrom_cons rfl).trans (readFrom_cons rfl)
  | .list (item :: items) => by
    rw [Value.tokens, List.cons_append, List.append_assoc]
    exact (readFrom_cons rfl).trans (readFrom_items stack tokens [] (item :: items) (by simp))
  | .fields [] => (readFrom_cons rfl).trans (readFrom_cons rfl)
  | .fields (entry :: entries) => by
    rw [Value.tokens, List.cons_append, List.append_assoc]
    exact (readFrom_cons rfl).trans (readFrom_fields stack tokens [] (entry :: entries) (by simp))

/-- The items to the end of a list are read behind those before. -/
theorem readFrom_items (stack : List Frame) (tokens : List Token) (before : List Value) :
    (items : List Value) → items ≠ [] →
    readFrom (.item before) stack (Value.itemTokens items ++ .closeList :: tokens)
      = readFrom (.done (.list (before.reverse ++ items))) stack tokens
  | [item], _ => by
    rw [Value.itemTokens, readFrom_item, readFrom_value, readFrom_cons rfl, List.reverse_cons]
  | item :: second :: items, _ => by
    have hothers := readFrom_items stack tokens (item :: before) (second :: items) (by simp)
    rw [Value.itemTokens, List.append_assoc, readFrom_item, readFrom_value, List.cons_append,
      readFrom_cons rfl, hothers, List.reverse_cons, List.append_assoc]
    · rfl
    · simp

/-- The fields to the end are read behind those before. -/
theorem readFrom_fields (stack : List Frame) (tokens : List Token) (before : List (Text × Value)) :
    (entries : List (Text × Value)) → entries ≠ [] →
    readFrom (.name before) stack (Value.fieldTokens entries ++ .closeFields :: tokens)
      = readFrom (.done (.fields (before.reverse ++ entries))) stack tokens
  | [(name, value)], _ => by
    rw [Value.fieldTokens, List.cons_append, readFrom_name, List.cons_append, readFrom_cons rfl,
      readFrom_value, readFrom_cons rfl, List.reverse_cons]
  | (name, value) :: second :: entries, _ => by
    have hothers := readFrom_fields stack tokens ((name, value) :: before) (second :: entries)
      (by simp)
    rw [Value.fieldTokens, List.cons_append, readFrom_name, List.cons_append, readFrom_cons rfl,
      List.append_assoc, readFrom_value, List.cons_append, readFrom_cons rfl, hothers,
      List.reverse_cons, List.append_assoc]
    · rfl
    · simp

end

end Reading

end Json

/-! ### Documents -/

namespace Value

/-- **Reading a document undoes writing it.** -/
theorem ofJson?_json (v : Value) : ofJson? v.json = some v := by
  have htokens : Json.tokensFrom .between (v.json ++ []) = some (v.tokens ++ []) :=
    Json.tokensFrom_jsonAt 0 Json.stops_nil rfl v
  rw [List.append_nil] at htokens
  rw [ofJson?, htokens, Option.bind_some, Json.readFrom_value]
  rfl

/-- A document in another layout, in which a slash and a face are written by their code units. -/
example : ofJson? "\x7b\"k\" :[\"\\u002F\\uD83d\\uDE00\",-0 ,\tnull]\r\n\x7d".toList
    = some (.fields [("k".toList, .list [.text "/😀".toList, .int 0, .null])]) := by
  decide +kernel

end Value

end PropertySettings
