/-!
# Scopes

A scope restricts where a type or a feature applies. It is tested against a *target*: an
object that may have a type id, abilities and named properties. A list of scopes is read
"any of": the empty list applies everywhere, otherwise one matching scope suffices.

* `Scope.accepts` — with no target the answer is `matchesNull`. Otherwise three checks run
  in order (type, ability, property); the first that fails answers `matchNegated`, and when
  all pass the answer is `!matchNegated`.
* `Scope.appliesTo` — the "any of" reading of a list.
* `Scope.negate` — flips `matchNegated`; `matchesNull` is left alone.
-/

namespace Ruleset

/-- Names the type, ability or property that a scope requires. Every field is optional;
absent fields are not checked. -/
structure Scope where
  typeId : Option String := none
  abilityId : Option String := none
  abilityValue : Bool := true
  methodName : Option String := none
  methodValue : Option String := none
  matchNegated : Bool := false
  matchesNull : Bool := true
  deriving DecidableEq, Repr, Inhabited

/-- What a scope is tested against. -/
structure Target where
  typeId : Option String
  hasAbility : String → Bool
  property : String → Option String

namespace Scope

/-- The scope that requires the given type. -/
def forType (id : String) : Scope := { typeId := some id }

/-- The scope that requires the ability to have the given value. -/
def withAbility (id : String) (value : Bool) : Scope :=
  { abilityId := some id, abilityValue := value }

/-- The scope that requires the property to have the given value. -/
def withMethod (name value : String) : Scope :=
  { methodName := some name, methodValue := some value }

/-- The same scope with the answer of a matching target flipped. -/
def negate (s : Scope) : Scope := { s with matchNegated := !s.matchNegated }

/-- Whether the target passes the three checks of the scope: its type, its ability and
its property. -/
def passes (s : Scope) (t : Target) : Bool :=
  (s.typeId.all fun id => t.typeId == some id) &&
  (s.abilityId.all fun id => t.hasAbility id == s.abilityValue) &&
  (s.methodName.all fun name => t.property name == s.methodValue)

/-- Whether the scope matches the target, or the absence of one. -/
def accepts (s : Scope) : Option Target → Bool
  | none => s.matchesNull
  | some t => if s.passes t then !s.matchNegated else s.matchNegated

/-- The "any of" reading of a scope list: empty applies to everything. -/
def appliesTo (scopes : List Scope) (target : Option Target) : Bool :=
  scopes.isEmpty || scopes.any fun s => s.accepts target

@[simp] theorem accepts_none (s : Scope) : s.accepts none = s.matchesNull := rfl

theorem accepts_some (s : Scope) (t : Target) :
    s.accepts (some t) = (s.passes t != s.matchNegated) := by
  cases h : s.passes t <;> cases hn : s.matchNegated <;> simp [accepts, h, hn]

theorem negate_negate (s : Scope) : s.negate.negate = s := by
  simp [negate]

@[simp] theorem appliesTo_nil (target : Option Target) : appliesTo [] target = true := rfl

theorem appliesTo_iff (scopes : List Scope) (target : Option Target) :
    appliesTo scopes target = true ↔ scopes = [] ∨ ∃ s ∈ scopes, s.accepts target = true := by
  cases scopes <;> simp [appliesTo]

end Scope

end Ruleset
