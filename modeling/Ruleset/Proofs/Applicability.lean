import Ruleset.RuleType

/-!
# When scopes match and abilities hold

A scope tested against a present target answers whether the target passes its three checks
(type, ability, property), flipped when the scope is negated; with no target it answers
`matchesNull`, negated or not. A list of scopes is read "any of". An ability is in force for
a target on a turn when the turn lies within its bounds and its scopes admit the target; a
container has the ability when some entry under the id is in force and every entry in force
says yes. The answer depends on which entries are there, never on their order.

* `Scope.Passes` — the three checks, each vacuous when its field is absent.
* `Scope.accepts_spec` — what a scope answers for no target and for a present one, that
  negating flips the second and keeps the first, and the "any of" reading of a list.
* `Ability.InForce` — the turn bounds and the scopes of an ability, read as a proposition;
  `Ability.activeOn_and_appliesTo` says the container's test computes it.
* `Container.hasAbility_iff` — the container's answer in terms of the entries in force.
* `Container.hasAbility_spec` — the whole statement: the answer, its independence from the
  order of the entries, and the answer of a type that has no container (also when the type
  is the target of a scope).
-/

namespace Ruleset

namespace Scope

/-- The three checks of a scope, each vacuous when its field is absent: the target is of the
named type, its answer for the named ability is the expected one, and the named property has
the expected value (an absent value asks for an absent property). -/
def Passes (s : Scope) (t : Target) : Prop :=
  (∀ id, s.typeId = some id → t.typeId = some id) ∧
  (∀ id, s.abilityId = some id → t.hasAbility id = s.abilityValue) ∧
  (∀ name, s.methodName = some name → t.property name = s.methodValue)

theorem passes_eq_true_iff (s : Scope) (t : Target) : s.passes t = true ↔ s.Passes t := by
  simp [passes, Passes, Option.all_eq_true, and_assoc]

@[simp] theorem passes_negate (s : Scope) (t : Target) : s.negate.passes t = s.passes t := rfl

@[simp] theorem matchNegated_negate (s : Scope) : s.negate.matchNegated = !s.matchNegated := rfl

@[simp] theorem matchesNull_negate (s : Scope) : s.negate.matchesNull = s.matchesNull := rfl

/-- A present target is accepted exactly when passing the checks and being negated differ. -/
theorem accepts_some_iff (s : Scope) (t : Target) :
    s.accepts (some t) = true ↔ (s.Passes t ↔ s.matchNegated = false) := by
  rw [accepts_some, ← passes_eq_true_iff]
  cases s.passes t <;> cases s.matchNegated <;> simp

theorem accepts_negate_some (s : Scope) (t : Target) :
    s.negate.accepts (some t) = !s.accepts (some t) := by
  rw [accepts_some, accepts_some, passes_negate, matchNegated_negate]
  cases s.passes t <;> cases s.matchNegated <;> rfl

theorem accepts_negate_none (s : Scope) : s.negate.accepts none = s.accepts none := rfl

/-- **What a scope answers.** With no target, `matchesNull`; for a present target, whether
it passes the three checks, exclusive-or the negation flag. Negating a scope therefore flips
its answer for every present target and keeps it for none, and a list of scopes applies when
it is empty or one of its scopes accepts. -/
theorem accepts_spec (s : Scope) :
    s.accepts none = s.matchesNull ∧
    (∀ t, s.accepts (some t) = true ↔ (s.Passes t ↔ s.matchNegated = false)) ∧
    (∀ t, s.negate.accepts (some t) = !s.accepts (some t)) ∧
    s.negate.accepts none = s.accepts none ∧
    ∀ (scopes : List Scope) (target : Option Target),
      appliesTo scopes target = true ↔
        scopes = [] ∨ ∃ s ∈ scopes, s.accepts target = true :=
  ⟨accepts_none s, accepts_some_iff s, accepts_negate_some s, accepts_negate_none s,
    appliesTo_iff⟩

end Scope

namespace Ability

/-- The ability is in force for the target on the turn: the turn, when one is asked about,
lies between the bounds that are present, and the scope list is empty or has a scope that
accepts the target. -/
def InForce (a : Ability) (target : Option Target) (turn : Option Nat) : Prop :=
  (∀ n, turn = some n →
    (∀ f, a.firstTurn = some f → f ≤ n) ∧ (∀ l, a.lastTurn = some l → n ≤ l)) ∧
  (a.scopes = [] ∨ ∃ s ∈ a.scopes, s.accepts target = true)

theorem activeOn_eq_true_iff (a : Ability) (turn : Option Nat) :
    a.activeOn turn = true ↔ ∀ n, turn = some n →
      (∀ f, a.firstTurn = some f → f ≤ n) ∧ (∀ l, a.lastTurn = some l → n ≤ l) := by
  cases turn with
  | none => simp [activeOn]
  | some n => simp [activeOn, withinTurns_some]

/-- The container's test of an entry computes `InForce`. -/
theorem activeOn_and_appliesTo (a : Ability) (target : Option Target) (turn : Option Nat) :
    a.activeOn turn = true ∧ a.appliesTo target = true ↔ a.InForce target turn := by
  rw [activeOn_eq_true_iff, appliesTo, Scope.appliesTo_iff]
  rfl

end Ability

namespace Container

/-- A container has an ability when some entry under the id is in force and every entry in
force says yes. -/
theorem hasAbility_iff (c : Container) (x : String) (target : Option Target)
    (turn : Option Nat) :
    c.hasAbility x target turn = true ↔
      (∃ a ∈ c.abilitiesWithId x, a.InForce target turn) ∧
        ∀ a ∈ c.abilitiesWithId x, a.InForce target turn → a.value = true := by
  simp only [hasAbility, Bool.and_eq_true, Bool.not_eq_true',
    List.isEmpty_eq_false_iff_exists_mem, List.all_eq_true, List.mem_filter,
    Ability.activeOn_and_appliesTo]
  constructor
  · rintro ⟨⟨a, ha, hin⟩, hall⟩
    exact ⟨⟨a, ha, hin⟩, fun b hb hbin => hall b ⟨hb, hbin⟩⟩
  · rintro ⟨⟨a, ha, hin⟩, hall⟩
    exact ⟨⟨a, ha, hin⟩, fun b ⟨hb, hbin⟩ => hall b hb hbin⟩

/-- Containers holding the same entries under the id give the same answer, whatever their
order. -/
theorem hasAbility_congr {c c' : Container} {x : String}
    (h : ∀ a, a ∈ c'.abilitiesWithId x ↔ a ∈ c.abilitiesWithId x) (target : Option Target)
    (turn : Option Nat) : c'.hasAbility x target turn = c.hasAbility x target turn := by
  rw [Bool.eq_iff_iff, hasAbility_iff, hasAbility_iff]
  simp only [h]

end Container

namespace RuleType

@[simp] theorem hasAbility_of_features_eq_none {t : RuleType} (h : t.features = none)
    (x : String) (target : Option Target) (turn : Option Nat) :
    t.hasAbility x target turn = false := by
  simp [hasAbility, h]

@[simp] theorem asTarget_hasAbility (t : RuleType) (x : String) :
    t.asTarget.hasAbility x = t.hasAbility x none none := rfl

end RuleType

namespace Container

/-- **When a container has an ability.** Exactly when some entry under the id is in force for
the target on the turn and every entry in force says yes; so containers holding the same
entries answer alike, whatever their order. A type that has no container has no ability, for
any target and turn, and none when it is itself the target of a scope. -/
theorem hasAbility_spec (c : Container) (x : String) (target : Option Target)
    (turn : Option Nat) :
    (c.hasAbility x target turn = true ↔
      (∃ a ∈ c.abilitiesWithId x, a.InForce target turn) ∧
        ∀ a ∈ c.abilitiesWithId x, a.InForce target turn → a.value = true) ∧
    (∀ c' : Container, (∀ a, a ∈ c'.abilitiesWithId x ↔ a ∈ c.abilitiesWithId x) →
      c'.hasAbility x target turn = c.hasAbility x target turn) ∧
    (∀ t : RuleType, t.features = none →
      t.hasAbility x target turn = false ∧ t.asTarget.hasAbility x = false) := by
  refine ⟨hasAbility_iff c x target turn, fun c' h => hasAbility_congr h target turn, ?_⟩
  intro t ht
  exact ⟨RuleType.hasAbility_of_features_eq_none ht x target turn, by simp [ht]⟩

/-- The expert ability, granted outright. -/
def grantExpert : Ability := { id := "expert" }

/-- The expert ability, denied where the target is artillery. -/
def denyExpertToArtillery : Ability :=
  { id := "expert", value := false, scopes := [Scope.forType "artillery"] }

/-- A target of type artillery, with no abilities and no properties. -/
def artillery : Target := ⟨some "artillery", fun _ => false, fun _ => none⟩

theorem expertDenial_order_free :
    (({} : Container).addAbility denyExpertToArtillery |>.addAbility grantExpert).hasAbility
        "expert" (some artillery) none =
      (({} : Container).addAbility grantExpert |>.addAbility denyExpertToArtillery).hasAbility
        "expert" (some artillery) none ∧
    (RuleType.new "colonist" "unit-type" "unit-types" 0).hasAbility "expert" none none =
      false := by
  have h₁ : (({} : Container).addAbility grantExpert |>.addAbility
      denyExpertToArtillery).abilitiesWithId "expert" = [grantExpert, denyExpertToArtillery] := by
    decide
  have h₂ : (({} : Container).addAbility denyExpertToArtillery |>.addAbility
      grantExpert).abilitiesWithId "expert" = [denyExpertToArtillery, grantExpert] := by
    decide
  have hsame : ∀ a, a ∈ (({} : Container).addAbility denyExpertToArtillery |>.addAbility
      grantExpert).abilitiesWithId "expert" ↔ a ∈ (({} : Container).addAbility grantExpert
        |>.addAbility denyExpertToArtillery).abilitiesWithId "expert" := by
    intro a
    rw [h₁, h₂]
    simp only [List.mem_cons, List.not_mem_nil, or_false]
    exact or_comm
  exact ⟨(hasAbility_spec _ "expert" (some artillery) none).2.1 _ hsame,
    ((hasAbility_spec {} "expert" none none).2.2 _ rfl).1⟩

end Container

end Ruleset
