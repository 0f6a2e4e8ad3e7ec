import Ruleset.Container
import Ruleset.Document
import Ruleset.Options

/-!
# Rule types

A rule type is a node of the type hierarchy: an id, the tag and category it was declared
with, an abstract flag, an optional parent, its features and scopes, its load index, and the
log of the edits applied to it. The features live in a container that exists only once some
edit has needed it.

The log is what makes inheritance work: finalizing rebuilds each type from its parent's
features and scopes by replaying the log (`RuleType.rebuild`), and a redefinition forgets
the logged edits of the kinds it clears (`RuleType.clearFor`).

* `RuleType.replay` — one edit's effect: an add creates the container if needed, a delete on
  a missing container does nothing, a scope is appended.
* `RuleType.apply` — an edit from a document: an added feature without a source gets the
  type's id as source, then the edit is replayed and logged. Unknown edits are dropped.
-/

namespace Ruleset

/-- A type of the registry. -/
structure RuleType where
  id : String
  tag : String
  category : String
  isAbstract : Bool := false
  parent : Option String := none
  features : Option Container := none
  scopes : List Scope := []
  index : Nat
  edits : List Edit := []
  deriving DecidableEq, Repr, Inhabited

/-- The key under which a type's name text is found. -/
def nameKey (id : String) : String := id ++ ".name"

/-- The key under which a type's description text is found. -/
def descriptionKey (id : String) : String := id ++ ".description"

/-- An edit as stored: an added feature without a source gets `id` as its source. -/
def Edit.withSource (e : Edit) (id : String) : Edit :=
  match e with
  | .addAbility a => .addAbility { a with source := a.source.getD id }
  | .addModifier m => .addModifier { m with source := m.source.getD id }
  | e => e

/-- Whether a redefinition with these clears keeps a logged edit. -/
def Clears.keeps (c : Clears) : Edit → Bool
  | .addAbility _ | .deleteAbility _ => !c.abilities
  | .addModifier _ | .deleteModifier _ => !c.modifiers
  | .scope _ => !c.scopes
  | .unknown _ => false

namespace RuleType

/-- A new type with no content. -/
def new (id tag category : String) (index : Nat) : RuleType :=
  { id, tag, category, index }

def abilityList (t : RuleType) : List Ability := (t.features.map Container.abilityList).getD []

def modifierList (t : RuleType) : List Modifier := (t.features.map Container.modifierList).getD []

def abilitiesWithId (t : RuleType) (id : String) : List Ability :=
  (t.features.map (·.abilitiesWithId id)).getD []

def modifiersWithId (t : RuleType) (id : String) : List Modifier :=
  (t.features.map (·.modifiersWithId id)).getD []

def hasAbility (t : RuleType) (id : String) (target : Option Target) (turn : Option Nat) : Bool :=
  t.features.any (·.hasAbility id target turn)

def applyModifiers (t : RuleType) (base : Binary32) (id : String) (target : Option Target)
    (turn : Option Nat) : Binary32 :=
  match t.features with
  | some c => c.applyModifiers base id target turn
  | none => base

def appliesTo (t : RuleType) (target : Option Target) : Bool := Scope.appliesTo t.scopes target

/-- The type as a scope target: its own id, the abilities it has with no target and no
turn, and no properties. -/
def asTarget (t : RuleType) : Target where
  typeId := some t.id
  hasAbility x := t.hasAbility x none none
  property _ := none

/-- The container, created empty when missing. -/
def container (t : RuleType) : Container := t.features.getD {}

/-- The effect of one edit on the features and scopes. -/
def replay (t : RuleType) : Edit → RuleType
  | .addAbility a => { t with features := some (t.container.addAbility a) }
  | .deleteAbility id => { t with features := t.features.map fun c => (c.removeAbilities id).1 }
  | .addModifier m => { t with features := some (t.container.addModifier m) }
  | .deleteModifier id => { t with features := t.features.map fun c => (c.removeModifiers id).1 }
  | .scope s => { t with scopes := t.scopes ++ [s] }
  | .unknown _ => t

/-- Applies an edit from a document and logs it; unknown edits change nothing. -/
def apply (t : RuleType) (e : Edit) : RuleType :=
  match e with
  | .unknown _ => t
  | e =>
    let e := e.withSource t.id
    { t.replay e with edits := t.edits ++ [e] }

/-- Clears the selected kinds of content and forgets their logged edits. -/
def clearFor (t : RuleType) (c : Clears) : RuleType :=
  let features := t.features.map fun f =>
    (if c.abilities then f.clearAbilities else f) |> fun f =>
      if c.modifiers then f.clearModifiers else f
  { t with
    features
    scopes := if c.scopes then [] else t.scopes
    edits := t.edits.filter c.keeps }

/-- Starts from the given features and scopes and replays the whole log. -/
def rebuild (t : RuleType) (features : Option Container) (scopes : List Scope) : RuleType :=
  let start := { t with features, scopes }
  t.edits.foldl replay start

/-- The added features of the log, with their kind and source. -/
def addedSources (t : RuleType) : List (String × Option String) :=
  t.edits.filterMap fun
    | .addAbility a => some ("ability", a.source)
    | .addModifier m => some ("modifier", m.source)
    | _ => none

@[simp] theorem edits_rebuild (t : RuleType) (features : Option Container)
    (scopes : List Scope) : (t.rebuild features scopes).edits = t.edits := by
  unfold rebuild
  generalize t.edits = es
  suffices h : ∀ (u : RuleType), (es.foldl replay u).edits = u.edits by simp [h]
  induction es with
  | nil => intro u; rfl
  | cons e rest ih =>
    intro u
    rw [List.foldl_cons, ih]
    cases e <;> rfl

end RuleType

end Ruleset
