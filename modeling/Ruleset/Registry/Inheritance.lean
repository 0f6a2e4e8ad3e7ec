import Ruleset.Registry.Basic

/-!
# Inheritance resolution

The `parent` links form a forest over the type ids. Resolution checks every reference before
it touches any type, so a failed resolution changes nothing.

1. In table order, the first type whose parent is not in the table is an unresolved reference
   of kind `type`.
2. The resolution order lists parents before children (Kahn's algorithm): the roots in table
   order, then breadth first, each type's children in table order. Types left out lie on or
   below a cycle; the cycle reported is the one reached from the first left-out type by
   following parents, listed in table order.
3. In table order, and within a type in log order, the first added feature whose source is
   not a type of the table is an unresolved reference of kind `ability` or `modifier`.

Then every type, in resolution order, is rebuilt from its parent's resolved features and
scopes (none for a root) by replaying its own log (`RuleType.rebuild`).
-/

namespace Ruleset

namespace Inheritance

/-- Whether some type of the table has the id. -/
def known (types : List RuleType) (id : String) : Bool := types.any (·.id == id)

/-- The first type, in table order, whose parent is missing: the type and the parent. -/
def firstMissingParent (types : List RuleType) : Option (String × String) :=
  types.findSome? fun t =>
    t.parent.bind fun p => if known types p then none else some (t.id, p)

/-- The ids of the children of a type, in table order. -/
def childrenOf (types : List RuleType) (id : String) : List String :=
  (types.filter (·.parent == some id)).map (·.id)

/-- Breadth-first visit from the queue; each type enters the queue at most once, through its
only parent, so as many steps as there are types suffice. -/
def visit (types : List RuleType) : Nat → List String → List String → List String
  | 0, _, order => order
  | _, [], order => order
  | fuel + 1, id :: queue, order => visit types fuel (queue ++ childrenOf types id) (order ++ [id])

/-- Parents before children: roots in table order, then breadth first. -/
def kahnOrder (types : List RuleType) : List String :=
  visit types types.length ((types.filter (·.parent.isNone)).map (·.id)) []

/-- Follows parents from `id` until an id repeats; the repeated part, in table order. Each
step adds a distinct id to the path, so one step more than there are types suffices. -/
def walkToCycle (types : List RuleType) : Nat → List String → String → List String
  | 0, _, _ => []
  | fuel + 1, path, id =>
    if path.contains id then
      let cycle := path.drop (path.idxOf id)
      (types.filter fun t => cycle.contains t.id).map (·.id)
    else
      match (types.find? (·.id == id)).bind (·.parent) with
      | some p => walkToCycle types fuel (path ++ [id]) p
      | none => []

/-- The cycle reached from the first type, in table order, that the order leaves out. -/
def findCycle (types : List RuleType) (order : List String) : List String :=
  match types.find? fun t => !order.contains t.id with
  | some t => walkToCycle types (types.length + 1) [] t.id
  | none => []

/-- The resolution order, or the first missing parent, or the cycle. -/
def resolutionOrder (types : List RuleType) : Except RegistryError (List String) :=
  match firstMissingParent types with
  | some (id, p) => .error (.unresolved id p "type")
  | none =>
    let order := kahnOrder types
    if order.length < types.length then .error (.cycle (findCycle types order)) else .ok order

/-- The first added feature, in table and log order, whose source is not a known type. -/
def firstMissingSource (types : List RuleType) : Option RegistryError :=
  types.findSome? fun t =>
    t.addedSources.findSome? fun (kind, source) =>
      source.bind fun s => if known types s then none else some (.unresolved t.id s kind)

/-- Rebuilds one type from its parent's current features and scopes. -/
def rebuildOne (types : List RuleType) (id : String) : List RuleType :=
  match types.find? (·.id == id) with
  | none => types
  | some t =>
    let (features, scopes) :=
      match t.parent.bind fun p => types.find? (·.id == p) with
      | some parent => (parent.features, parent.scopes)
      | none => (none, [])
    Registry.update types id fun u => u.rebuild features scopes

/-- Checks every reference, then rebuilds every type in resolution order. -/
def resolve (types : List RuleType) : Except RegistryError (List RuleType) :=
  match resolutionOrder types with
  | .error e => .error e
  | .ok order =>
    match firstMissingSource types with
    | some e => .error e
    | none => .ok (order.foldl rebuildOne types)

end Inheritance

end Ruleset
