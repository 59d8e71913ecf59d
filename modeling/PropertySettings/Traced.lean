import PropertySettings.Journal.Record

/-!
# Traced answers

A **traced answer** is an answer or a failure, together with the records that were made on the way
to it. Records that were made before a failure are kept; nothing is recorded after it.
-/

namespace PropertySettings

/-- An answer or a failure, and the records made on the way. -/
structure Traced (α : Type) where
  records : List Record
  outcome : Except Failure α

namespace Traced

variable {α β γ : Type}

/-- An answer that leaves no trace. -/
def answer (a : α) : Traced α :=
  ⟨[], .ok a⟩

/-- An answer or a failure that leaves no trace. -/
def ofExcept (outcome : Except Failure α) : Traced α :=
  ⟨[], outcome⟩

/-- A failure that leaves no trace. -/
def fail (failure : Failure) : Traced α :=
  ⟨[], .error failure⟩

/-- Makes a record. -/
def note (record : Record) : Traced Unit :=
  ⟨[record], .ok ()⟩

/-- Goes on with an answer; a failure ends it. -/
def next (x : Traced α) (f : α → Traced β) : Traced β :=
  match x.outcome with
  | .error failure => ⟨x.records, .error failure⟩
  | .ok a => ⟨x.records ++ (f a).records, (f a).outcome⟩

instance : Monad Traced where
  pure := answer
  bind := next

@[ext]
theorem ext {x y : Traced α} (hr : x.records = y.records) (ho : x.outcome = y.outcome) : x = y := by
  cases x
  cases y
  simp_all

theorem next_answer (x : Traced α) : x.next answer = x := by
  obtain ⟨records, _ | _⟩ := x <;> simp [next, answer]

theorem next_next (x : Traced α) (f : α → Traced β) (g : β → Traced γ) :
    (x.next f).next g = x.next fun a => (f a).next g := by
  obtain ⟨records, _ | a⟩ := x
  · rfl
  · simp only [next]
    cases (f a).outcome <;> simp

instance : LawfulMonad Traced :=
  LawfulMonad.mk' Traced next_answer (fun a f => by
    show (answer a).next f = f a
    simp [next, answer]) next_next

end Traced

end PropertySettings
