import Ruleset.Ron.Structure
import Ruleset.Container
import Ruleset.Options

/-!
# The rule types in RON

How each value of the rule model is written in RON, with the defaults of the fields that may
be left out:

* an id is a string;
* a scope is `Scope(type_id, ability_id, ability_value, method_name, method_value,
  match_negated, matches_null)`, every field optional (`ability_value` and `matches_null`
  default to true, the rest to none or false);
* an ability is `Ability(id, value, source, scopes, first_turn, last_turn)` with a required
  `id` and `value` true by default;
* a modifier is `Modifier(id, value, modifier_type, index, source, scopes, first_turn,
  last_turn)` with a required `id` and `value`; the kind is `additive` by default and is
  written in lower case; the value may be infinite or not a number;
* a container is `FeatureContainer(abilities, modifiers)`, both required, each a map from an
  id to a list of entries, taken as they are;
* load options are `LoadOptions(reload, redefine_clears)`, every field optional, with the
  reload mode `Patch` or `Redefine` and the cleared containers a
  `ContainerSet(abilities, modifiers, scopes)` whose fields default to true.

Optional values are written `Some(..)` or `None`. Struct names may be left out; fields the
model does not know are skipped.

The field names and their defaults are those of the rule model. How RON text is read is the
`ron` library's (0.12), whose code is not part of this source: the readers here stand in for
it, checked only by tests, never proved of it, and no theorem rests on their details.
-/

namespace Ruleset

namespace Ron

/-- An id. -/
def readId : Reader String := readString

/-- A turn. -/
def readTurn : Reader Nat := do pure (← readInteger (.exactly .u32)).toNat

/-- A scope. -/
def readScope : Reader Scope :=
  readStruct "Scope" ["type_id", "ability_id", "ability_value", "method_name", "method_value",
      "match_negated", "matches_null"] ({} : Scope)
    (fun i s => match i with
      | 0 => do pure { s with typeId := ← readOption readId }
      | 1 => do pure { s with abilityId := ← readOption readId }
      | 2 => do pure { s with abilityValue := ← readBool }
      | 3 => do pure { s with methodName := ← readOption readId }
      | 4 => do pure { s with methodValue := ← readOption readId }
      | 5 => do pure { s with matchNegated := ← readBool }
      | _ => do pure { s with matchesNull := ← readBool })
    fun _ s => pure s

/-- An ability. -/
def readAbility : Reader Ability :=
  readStruct "Ability" ["id", "value", "source", "scopes", "first_turn", "last_turn"]
      ({ id := "" } : Ability)
    (fun i a => match i with
      | 0 => do pure { a with id := ← readId }
      | 1 => do pure { a with value := ← readBool }
      | 2 => do pure { a with source := ← readOption readId }
      | 3 => do pure { a with scopes := ← readSeq readScope }
      | 4 => do pure { a with firstTurn := ← readOption readTurn }
      | _ => do pure { a with lastTurn := ← readOption readTurn })
    fun seen a => do
      require seen 0 "id"
      pure a

/-- The names of the modifier kinds, in the order of their declaration. -/
def modifierKindNames : List String := ["additive", "multiplicative", "percentage"]

/-- A modifier kind. -/
def readModifierKind : Reader ModifierKind := do
  let name ← readVariant "ModifierType" modifierKindNames
  pure ((ModifierKind.ofName? name).getD .additive)

/-- A modifier. -/
def readModifier : Reader Modifier :=
  readStruct "Modifier" ["id", "value", "modifier_type", "index", "source", "scopes",
      "first_turn", "last_turn"] ({ id := "", value := Binary32.zero false } : Modifier)
    (fun i m => match i with
      | 0 => do pure { m with id := ← readId }
      | 1 => do pure { m with value := ← readFloat true }
      | 2 => do pure { m with kind := ← readModifierKind }
      | 3 => do pure { m with index := ← readInteger (.exactly .i32) }
      | 4 => do pure { m with source := ← readOption readId }
      | 5 => do pure { m with scopes := ← readSeq readScope }
      | 6 => do pure { m with firstTurn := ← readOption readTurn }
      | _ => do pure { m with lastTurn := ← readOption readTurn })
    fun seen m => do
      require seen 0 "id"
      require seen 1 "value"
      pure m

/-- A container: the groups of abilities and of modifiers as written. -/
def readContainer : Reader Container :=
  readStruct "FeatureContainer" ["abilities", "modifiers"] ({} : Container)
    (fun i c => match i with
      | 0 => do pure { c with abilities := ⟨← readMap (readSeq readAbility)⟩ }
      | _ => do pure { c with modifiers := ⟨← readMap (readSeq readModifier)⟩ })
    fun seen c => do
      require seen 0 "abilities"
      require seen 1 "modifiers"
      pure c

/-- A reload mode. -/
def readReloadMode : Reader ReloadMode := do
  let name ← readVariant "ReloadMode" ["Patch", "Redefine"]
  pure (if name == "Redefine" then .redefine else .patch)

/-- The containers a redefinition clears. -/
def readClears : Reader Clears :=
  readStruct "ContainerSet" ["abilities", "modifiers", "scopes"] ({} : Clears)
    (fun i c => match i with
      | 0 => do pure { c with abilities := ← readBool }
      | 1 => do pure { c with modifiers := ← readBool }
      | _ => do pure { c with scopes := ← readBool })
    fun _ c => pure c

/-- Load options. -/
def readOptions : Reader LoadOptions :=
  readStruct "LoadOptions" ["reload", "redefine_clears"] ({} : LoadOptions)
    (fun i o => match i with
      | 0 => do pure { o with reload := ← readReloadMode }
      | _ => do pure { o with redefineClears := ← readClears })
    fun _ o => pure o

end Ron

end Ruleset
