import Ruleset.Scope
import Ruleset.Binary32.Arith

/-!
# Abilities and modifiers

A *feature* is attached to a type under an id. An ability is a yes-or-no feature; a
modifier changes a single-precision quantity. Both may name the type they come from (their
source), restrict where they apply by scopes, and bound the turns on which they are active.

* `withinTurns` — a feature is active when no turn is asked about, or when the turn lies
  between the bounds that are present.
* `ModifierKind.apply` — additive `b + v`, multiplicative `b · v`, percentage
  `b + (b · v) / 100`, each operation rounded in single precision.
* `Modifier.same` — equality of modifiers as the container sees it: the value compares by
  the format's equality, so a NaN value is never the same as anything.
-/

namespace Ruleset

/-- A turn lies between the bounds that are present; with no turn every feature is active. -/
def withinTurns (first last : Option Nat) : Option Nat → Bool
  | none => true
  | some turn => first.all (· ≤ turn) && last.all (turn ≤ ·)

/-- How a modifier combines its value with the quantity. -/
inductive ModifierKind where
  | additive
  | multiplicative
  | percentage
  deriving DecidableEq, Repr, Inhabited

namespace ModifierKind

/-- The name of the kind, in lower case. -/
def name : ModifierKind → String
  | additive => "additive"
  | multiplicative => "multiplicative"
  | percentage => "percentage"

/-- The kind with the given name; names are lower case and compared exactly. -/
def ofName? : String → Option ModifierKind
  | "additive" => some additive
  | "multiplicative" => some multiplicative
  | "percentage" => some percentage
  | _ => none

/-- Combines the quantity `b` with the modifier value `v`. -/
def apply : ModifierKind → Binary32 → Binary32 → Binary32
  | additive, b, v => b + v
  | multiplicative, b, v => b * v
  | percentage, b, v => b + b * v / Binary32.hundred

theorem ofName?_name (k : ModifierKind) : ofName? k.name = some k := by
  cases k <;> rfl

end ModifierKind

/-- A yes-or-no feature. -/
structure Ability where
  id : String
  value : Bool := true
  source : Option String := none
  scopes : List Scope := []
  firstTurn : Option Nat := none
  lastTurn : Option Nat := none
  deriving DecidableEq, Repr, Inhabited

/-- A feature that changes a quantity. -/
structure Modifier where
  id : String
  value : Binary32
  kind : ModifierKind := .additive
  index : Int := 0
  source : Option String := none
  scopes : List Scope := []
  firstTurn : Option Nat := none
  lastTurn : Option Nat := none
  deriving DecidableEq, Repr, Inhabited

namespace Ability

def activeOn (a : Ability) (turn : Option Nat) : Bool := withinTurns a.firstTurn a.lastTurn turn

def appliesTo (a : Ability) (target : Option Target) : Bool := Scope.appliesTo a.scopes target

end Ability

namespace Modifier

def activeOn (m : Modifier) (turn : Option Nat) : Bool := withinTurns m.firstTurn m.lastTurn turn

def appliesTo (m : Modifier) (target : Option Target) : Bool := Scope.appliesTo m.scopes target

/-- The quantity after this modifier. -/
def apply (m : Modifier) (base : Binary32) : Binary32 := m.kind.apply base m.value

/-- Equality of every field, the value by the format's equality. -/
def same (m n : Modifier) : Bool :=
  m.id == n.id && m.value.beq n.value && m.kind == n.kind && m.index == n.index &&
    m.source == n.source && m.scopes == n.scopes && m.firstTurn == n.firstTurn &&
    m.lastTurn == n.lastTurn

end Modifier

@[simp] theorem withinTurns_none (first last : Option Nat) : withinTurns first last none = true :=
  rfl

theorem withinTurns_some (first last : Option Nat) (turn : Nat) :
    withinTurns first last (some turn) = true ↔
      (∀ f, first = some f → f ≤ turn) ∧ (∀ l, last = some l → turn ≤ l) := by
  cases first <;> cases last <;> simp [withinTurns]

end Ruleset
