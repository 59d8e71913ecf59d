import PropertySettings.Text.Basic

/-!
# Letter-case tables

A case table maps a code point to the code points that are its image: **runs** of code points at
a fixed distance from their images, and **expansions** into several code points. What the table
does not name is its own image.
-/

namespace PropertySettings.Text

/-- Every `step`-th code point from `first` to `last`, each as far from `first` as its image is
from `image`. -/
structure CaseRun where
  first : Nat
  last : Nat
  step : Nat
  image : Nat

namespace CaseRun

/-- Whether the run names the code point. -/
def covers (r : CaseRun) (n : Nat) : Bool :=
  r.first ≤ n && n ≤ r.last && (n - r.first) % r.step == 0

end CaseRun

/-- A letter-case mapping. -/
structure CaseTable where
  runs : List CaseRun
  expansions : List (Nat × List Nat)

namespace CaseTable

/-- The image of one code point. -/
def image (table : CaseTable) (c : Char) : Text :=
  match table.expansions.lookup c.toNat with
  | some expansion => expansion.map Char.ofNat
  | none =>
    match table.runs.find? (·.covers c.toNat) with
    | some run => [Char.ofNat (run.image + (c.toNat - run.first))]
    | none => [c]

end CaseTable

end PropertySettings.Text
