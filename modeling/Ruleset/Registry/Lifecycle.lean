import Ruleset.Registry.Merge
import Ruleset.Registry.Inheritance

/-!
# Loading, finalizing and reopening

* `Registry.load` — refused with `frozen` when finalized; otherwise the document is validated
  as a whole first, so a malformed document changes nothing, and then merged.
* `Registry.finalize` — nothing to do when already finalized. Otherwise inheritance is
  resolved (`Inheritance.resolve`); on success the abstract types are set aside, the indexes
  are rebuilt from the remaining types, and the phase becomes finalized. On failure the
  registry is unchanged.
* `Registry.reopen` — when finalized, the set-aside types come back, the table is sorted by
  load index, the indexes are emptied and the phase returns to loading.
-/

namespace Ruleset

namespace Registry

/-- Validates and merges a document. -/
def load (r : Registry) (doc : Document) : Except RegistryError (Registry × LoadReport) :=
  if r.isFinalized then .error .frozen
  else
    match doc.validate with
    | .error e => .error e
    | .ok () => .ok (r.merge doc)

/-- Adds the type under each of the keys, at the end of the key's list. -/
def indexUnder (index : Grouped String) (keys : List String) (id : String) : Grouped String :=
  keys.foldl (fun g k => g.add (fun _ _ => false) k id) index

/-- The ability and modifier indexes of a table: for each feature id, the types whose
container has it, in table order. -/
def buildIndexes (types : List RuleType) : Grouped String × Grouped String :=
  types.foldl
    (fun (acc : Grouped String × Grouped String) t =>
      match t.features with
      | none => acc
      | some c => (indexUnder acc.1 c.abilityIds t.id, indexUnder acc.2 c.modifierIds t.id))
    ({}, {})

/-- Resolves inheritance and freezes the registry. -/
def finalize (r : Registry) : Except RegistryError Registry :=
  if r.isFinalized then .ok r
  else
    match Inheritance.resolve r.types with
    | .error e => .error e
    | .ok types =>
      let kept := types.filter (!·.isAbstract)
      let (abilityIndex, modifierIndex) := buildIndexes kept
      .ok { r with
        types := kept
        purged := r.purged ++ types.filter (·.isAbstract)
        abilityIndex, modifierIndex
        phase := .finalized }

/-- Thaws a finalized registry. -/
def reopen (r : Registry) : Registry :=
  if r.isFinalized then
    { r with
      types := (r.types ++ r.purged).mergeSort fun a b => a.index ≤ b.index
      purged := []
      abilityIndex := {}
      modifierIndex := {}
      phase := .loading }
  else r

/-- The number of types of a finalized registry; refused while loading. -/
def share (r : Registry) : Except RegistryError Nat :=
  if r.isFinalized then .ok r.len else .error .notFinalized

end Registry

end Ruleset
