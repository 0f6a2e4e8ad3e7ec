import Ruleset.RuleType

/-!
# The registry

A registry holds the type table in load order, the abstract types set aside by the last
finalize, the indexes from feature ids to the types that carry them, the next load index,
its phase and its load options.

While *loading*, documents can be merged in. *Finalizing* resolves inheritance, sets the
abstract types aside and builds the indexes; a finalized registry refuses loads until it is
*reopened*. Queries look at the table only, so abstract types are visible while loading and
hidden after finalize.
-/

namespace Ruleset

/-- The phase of a registry's lifecycle. -/
inductive Phase where
  | loading
  | finalized
  deriving DecidableEq, Repr, Inhabited

def Phase.name : Phase → String
  | loading => "Loading"
  | finalized => "Finalized"

/-- The registry of rule types. -/
structure Registry where
  /-- The queryable types, in table order (which is load-index order). -/
  types : List RuleType := []
  /-- Abstract types set aside by the last finalize. -/
  purged : List RuleType := []
  abilityIndex : Grouped String := {}
  modifierIndex : Grouped String := {}
  nextIndex : Nat := 0
  phase : Phase := .loading
  options : LoadOptions := {}
  deriving DecidableEq, Repr, Inhabited

namespace Registry

/-- An empty registry with the given options. -/
def withOptions (options : LoadOptions) : Registry := { options }

def isFinalized (r : Registry) : Bool := r.phase == .finalized

/-- The type with the id, if it is in the table. -/
def find (r : Registry) (id : String) : Option RuleType := r.types.find? (·.id == id)

def contains (r : Registry) (id : String) : Bool := r.types.any (·.id == id)

/-- The type with the id, or `notFound`. -/
def get (r : Registry) (id : String) : Except RegistryError RuleType :=
  match r.find id with
  | some t => .ok t
  | none => .error (.notFound id)

def getAbilities (r : Registry) (id : String) : Except RegistryError (List Ability) :=
  (r.get id).map RuleType.abilityList

def getModifiers (r : Registry) (id : String) : Except RegistryError (List Modifier) :=
  (r.get id).map RuleType.modifierList

/-- Whether the type's own scopes admit the target. -/
def appliesTo (r : Registry) (id : String) (target : Option Target) :
    Except RegistryError Bool :=
  (r.get id).map (·.appliesTo target)

/-- The types of a category, in table order. -/
def typesIn (r : Registry) (category : String) : List RuleType :=
  r.types.filter (·.category == category)

/-- The types that carried the ability when the indexes were last built. -/
def typesWithAbility (r : Registry) (id : String) : List String := r.abilityIndex.get id

/-- The types that carried the modifier when the indexes were last built. -/
def typesWithModifier (r : Registry) (id : String) : List String := r.modifierIndex.get id

def len (r : Registry) : Nat := r.types.length

def isEmpty (r : Registry) : Bool := r.types.isEmpty

/-- Replaces the type with the given id by `f` of it. -/
def update (types : List RuleType) (id : String) (f : RuleType → RuleType) : List RuleType :=
  types.map fun t => if t.id == id then f t else t

end Registry

end Ruleset
