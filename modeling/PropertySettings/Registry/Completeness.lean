import PropertySettings.Registry.Basic

/-!
# Completeness

A property set is **complete** for a registry if every required key is satisfied. Otherwise there is
a complaint for each key that is **missing**, in the order of the registry, which names the keys
that would do.
-/

namespace PropertySettings

/-- What is said about one key. -/
structure Complaint where
  key : Text
  message : Text
deriving DecidableEq

namespace Registry

variable (registry : Registry) (properties : PropertySet)

/-- Every required key is satisfied. -/
def Complete : Prop :=
  ∀ key ∈ registry.requiredKeys, registry.Satisfied properties key

instance : Decidable (registry.Complete properties) :=
  inferInstanceAs (Decidable (∀ key ∈ _, _))

/-- The required keys that are not satisfied. -/
def missing : List Text :=
  registry.requiredKeys.filter (¬ registry.Satisfied properties ·)

/-- What is said about a missing key. -/
def missingMessage (key : Text) : Text :=
  match registry.alternativesFor key with
  | [] => "Required property is not set.".toList
  | alternatives =>
    "Required property is not set (or use ".toList
      ++ List.intercalate " or ".toList alternatives ++ ").".toList

/-- A complaint for each missing key. -/
def complaints : List Complaint :=
  (registry.missing properties).map fun key => ⟨key, registry.missingMessage key⟩

theorem missing_eq_nil_iff : registry.missing properties = [] ↔ registry.Complete properties := by
  simp [missing, Complete]

end Registry

end PropertySettings
