import PropertySettings.Property

/-!
# Registries

A **declaration** names a property, says whether it is required, optional or an alternative to
another one, and describes it. A **registry** is a list of declarations; their order is the order
of the usage text. Nothing is demanded of the list: keys may repeat, and an alternative may stand
in for a key that is not declared, or for none.

A required property is **satisfied** by a value of its own or of one of its alternatives. Where an
alternative is declared more than once, its last target counts.
-/

namespace PropertySettings

/-- The part that a property plays. -/
inductive Role where
  | required
  | optional
  | alternative
deriving DecidableEq

namespace Role

/-- The name of the role. -/
def name : Role → Text
  | .required => "required".toList
  | .optional => "optional".toList
  | .alternative => "alternative".toList

/-- The remark behind a key in the usage text; optional properties have none. -/
def tag : Role → Text
  | .optional => []
  | role => role.name

end Role

/-- A property that is declared. -/
structure Declaration where
  key : Text
  role : Role
  /-- The lines that describe the property. -/
  lines : List Text
  /-- The key that an alternative can stand in for. -/
  replaces : Option Text
deriving DecidableEq

namespace Declaration

def required (key : Text) (lines : List Text) : Declaration :=
  ⟨key, .required, lines, none⟩

def optional (key : Text) (lines : List Text) : Declaration :=
  ⟨key, .optional, lines, none⟩

def alternative (key replaces : Text) (lines : List Text) : Declaration :=
  ⟨key, .alternative, lines, some replaces⟩

/-- The key and its target, if the declaration makes an alternative. -/
def target? (d : Declaration) : Option (Text × Text) :=
  match d.role, d.replaces with
  | .alternative, some target => some (d.key, target)
  | _, _ => none

end Declaration

/-- Declarations in order. -/
structure Registry where
  declarations : List Declaration
deriving DecidableEq

namespace Registry

instance : EmptyCollection Registry := ⟨⟨[]⟩⟩

/-- The registry with one more declaration at its end. -/
def declare (registry : Registry) (d : Declaration) : Registry :=
  ⟨registry.declarations ++ [d]⟩

/-- The declared keys. -/
def keys (registry : Registry) : List Text :=
  registry.declarations.map (·.key)

/-- The keys of the required properties. -/
def requiredKeys (registry : Registry) : List Text :=
  (registry.declarations.filter (·.role = .required)).map (·.key)

/-- The remarks behind the keys. -/
def tags (registry : Registry) : List Text :=
  registry.declarations.map (·.role.tag)

/-- The first declaration of a key. -/
def get? (registry : Registry) (key : Text) : Option Declaration :=
  registry.declarations.find? (·.key = key)

/-! ### Alternatives -/

/-- The alternatives, each with the key that it can stand in for. -/
def alternatives (registry : Registry) : Assignments Text Text :=
  .ofList (registry.declarations.filterMap Declaration.target?)

/-- The keys that can stand in for a key. -/
def alternativesFor (registry : Registry) (key : Text) : List Text :=
  (registry.alternatives.toList.filter (·.2 = key)).map Prod.fst

/-- The key or one that can stand in for it has a value. -/
def Satisfied (registry : Registry) (properties : PropertySet) (key : Text) : Prop :=
  properties.Gives key ∨ ∃ stand ∈ registry.alternativesFor key, properties.Gives stand

instance (registry : Registry) (properties : PropertySet) (key : Text) :
    Decidable (registry.Satisfied properties key) :=
  inferInstanceAs (Decidable (_ ∨ _))

end Registry

end PropertySettings
