import Ruleset.Feature
import Ruleset.Grouped

/-!
# Feature containers

A container holds a type's abilities and modifiers, each grouped by feature id in order of
arrival (`Grouped`). Several entries may share an id, for instance one ability granted under
different scopes: adding never overwrites, an entry equal to one present is skipped, and
removing an id drops all of its entries at once.

* `Container.hasAbility` — among the abilities with the id that are active on the turn and
  apply to the target, at least one exists and none has the value false.
* `Container.applyModifiers` — the modifiers with the id that are active and apply, sorted by
  `index` (a stable sort, so arrival order breaks ties), folded over the base quantity.
-/

namespace Ruleset

/-- The abilities and modifiers of a type. -/
structure Container where
  abilities : Grouped Ability := {}
  modifiers : Grouped Modifier := {}
  deriving DecidableEq, Repr, Inhabited

namespace Container

def addAbility (c : Container) (a : Ability) : Container :=
  { c with abilities := c.abilities.add (· == ·) a.id a }

def addModifier (c : Container) (m : Modifier) : Container :=
  { c with modifiers := c.modifiers.add Modifier.same m.id m }

/-- Drops every ability with the id; also answers how many there were. -/
def removeAbilities (c : Container) (id : String) : Container × Nat :=
  ({ c with abilities := c.abilities.erase id }, (c.abilities.get id).length)

/-- Drops every modifier with the id; also answers how many there were. -/
def removeModifiers (c : Container) (id : String) : Container × Nat :=
  ({ c with modifiers := c.modifiers.erase id }, (c.modifiers.get id).length)

def clearAbilities (c : Container) : Container := { c with abilities := {} }

def clearModifiers (c : Container) : Container := { c with modifiers := {} }

def clear (_ : Container) : Container := {}

/-- All abilities, grouped by id in order of arrival. -/
def abilityList (c : Container) : List Ability := c.abilities.entries

/-- All modifiers, grouped by id in order of arrival. -/
def modifierList (c : Container) : List Modifier := c.modifiers.entries

/-- Adds the other container's abilities, then its modifiers, one by one. -/
def addAll (c other : Container) : Container :=
  let c := other.abilityList.foldl addAbility c
  other.modifierList.foldl addModifier c

def isEmpty (c : Container) : Bool := c.abilities.isEmpty && c.modifiers.isEmpty

def abilitiesWithId (c : Container) (id : String) : List Ability := c.abilities.get id

def modifiersWithId (c : Container) (id : String) : List Modifier := c.modifiers.get id

def abilityIds (c : Container) : List String := c.abilities.keys

def modifierIds (c : Container) : List String := c.modifiers.keys

/-- True when some ability with the id is active and applies, and every such ability says
yes. -/
def hasAbility (c : Container) (id : String) (target : Option Target) (turn : Option Nat) :
    Bool :=
  let live := (c.abilitiesWithId id).filter fun a => a.activeOn turn && a.appliesTo target
  !live.isEmpty && live.all (·.value)

/-- The modifiers with the id that are active and apply, in the order they act: by
`index`, ties kept in arrival order. -/
def actingModifiers (c : Container) (id : String) (target : Option Target)
    (turn : Option Nat) : List Modifier :=
  ((c.modifiersWithId id).filter fun m => m.activeOn turn && m.appliesTo target).mergeSort
    fun m n => m.index ≤ n.index

/-- The base quantity after every acting modifier with the id. -/
def applyModifiers (c : Container) (base : Binary32) (id : String) (target : Option Target)
    (turn : Option Nat) : Binary32 :=
  (c.actingModifiers id target turn).foldl (fun b m => m.apply b) base

theorem abilitiesWithId_addAbility (c : Container) (a : Ability) (id : String) :
    (c.addAbility a).abilitiesWithId id =
      if id = a.id ∧ a ∉ c.abilitiesWithId a.id then c.abilitiesWithId a.id ++ [a]
      else c.abilitiesWithId id := by
  simp only [addAbility, abilitiesWithId, Grouped.get_add]
  congr 1
  simp only [List.all_eq_true, Bool.not_eq_true', beq_eq_false_iff_ne, ne_eq, eq_iff_iff]
  exact and_congr_right fun _ => ⟨fun h ha => h a ha rfl, fun h x hx e => h (e ▸ hx)⟩

theorem abilitiesWithId_removeAbilities (c : Container) (id other : String) :
    (c.removeAbilities id).1.abilitiesWithId other =
      if other = id then [] else c.abilitiesWithId other := by
  simp [removeAbilities, abilitiesWithId, Grouped.get_erase]

end Container

end Ruleset
