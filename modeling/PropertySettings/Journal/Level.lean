import PropertySettings.Text.LetterCase

/-!
# Levels

Records and thresholds have levels, ordered by rank. The lowest one, `notSet`, is a threshold only:
a journal whose threshold is not set lets through what a threshold of `warning` would. Levels are
named in any letter case, two of them by two names.
-/

namespace PropertySettings

/-- How much a record matters, or must matter to be let through. -/
inductive Level where
  | notSet
  | debug
  | info
  | warning
  | error
  | critical
deriving DecidableEq

namespace Level

/-- The place of the level in the order. -/
def rank : Level → Nat
  | .notSet => 0
  | .debug => 10
  | .info => 20
  | .warning => 30
  | .error => 40
  | .critical => 50

theorem rank_le (level : Level) : level.rank ≤ 50 := by
  cases level <;> decide

instance : LE Level := ⟨fun a b => a.rank ≤ b.rank⟩

instance (a b : Level) : Decidable (a ≤ b) :=
  inferInstanceAs (Decidable (a.rank ≤ b.rank))

/-- The name of the level in a record. -/
def name : Level → Text
  | .notSet => "NOTSET".toList
  | .debug => "DEBUG".toList
  | .info => "INFO".toList
  | .warning => "WARNING".toList
  | .error => "ERROR".toList
  | .critical => "CRITICAL".toList

/-- The levels by name, in upper case. -/
def byName : List (Text × Level) :=
  [("DEBUG".toList, .debug), ("INFO".toList, .info), ("WARNING".toList, .warning),
    ("WARN".toList, .warning), ("ERROR".toList, .error), ("CRITICAL".toList, .critical),
    ("FATAL".toList, .critical), ("NOTSET".toList, .notSet)]

/-- The level that a word names, in any letter case. -/
def ofName? (word : Text) : Option Level :=
  byName.lookup (Text.upper word)

/-- The threshold that is in force. -/
def orWarning : Level → Level
  | .notSet => .warning
  | level => level

end Level

end PropertySettings
