import Ruleset.Proofs.Grouped
import Ruleset.RuleType

/-!
# Replaying edit logs

Resolution rebuilds a type by replaying edit logs with `RuleType.replay`. Replaying touches
only a type's features and scopes, and what it leaves there depends only on the features and
scopes it starts from. Started from a type with no container and no scopes (`RuleType.bare`),
the result can be read off the log alone:

* `foldl_replay_features_eq_none` — no container exactly when the log adds nothing;
* `foldl_replay_scopes` — the scopes are the log's scope edits, in order;
* `abilitiesWithId_foldl_replay_bare` / `modifiersWithId_foldl_replay_bare` — the entries
  with an id are those the log adds after its last deletion of the id, keeping the first of
  `same` ones (`addedSince`, `firstOccurrences`);
* `rebuild_foldl_replay_bare` — rebuilding a type on top of a replayed log replays the two
  logs one after the other, which is how inheritance concatenates logs;
* `Container.WellFormed` is kept by every replay, and every entry of a replayed container was
  there before or is added by the log (`mem_abilityList_foldl_replay`).
-/

namespace Ruleset

/-! ## Reading a log -/

namespace Edit

/-- Whether the edit adds an ability or a modifier. -/
def isAdd : Edit → Bool
  | .addAbility _ | .addModifier _ => true
  | .deleteAbility _ | .deleteModifier _ | .scope _ | .unknown _ => false

/-- The scope an edit appends, if it is a scope edit. -/
def addedScope : Edit → Option Scope
  | .scope s => some s
  | .addAbility _ | .deleteAbility _ | .addModifier _ | .deleteModifier _ | .unknown _ => none

/-- The ability an edit adds under the id `a`, if any. -/
def abilityWithId (a : String) : Edit → Option Ability
  | .addAbility b => if b.id = a then some b else none
  | .deleteAbility _ | .addModifier _ | .deleteModifier _ | .scope _ | .unknown _ => none

/-- The kind of feature an edit adds and the source it names, when it adds one with a
source. -/
def sourceRef : Edit → Option (String × String)
  | .addAbility a => a.source.map ("ability", ·)
  | .addModifier m => m.source.map ("modifier", ·)
  | .deleteAbility _ | .deleteModifier _ | .scope _ | .unknown _ => none

/-- The modifier an edit adds under the id `m`, if any. -/
def modifierWithId (m : String) : Edit → Option Modifier
  | .addModifier n => if n.id = m then some n else none
  | .addAbility _ | .deleteAbility _ | .deleteModifier _ | .scope _ | .unknown _ => none

end Edit

/-- What the edits of a log add after the last edit that `resets` (all of the log when no
edit resets). -/
def addedSince {α : Type} (resets : Edit → Bool) (added : Edit → Option α) (L : List Edit) :
    List α :=
  (L.reverse.takeWhile (!resets ·)).reverse.filterMap added

theorem addedSince_append_singleton {α : Type} (resets : Edit → Bool)
    (added : Edit → Option α) (L : List Edit) (e : Edit) :
    addedSince resets added (L ++ [e]) =
      if resets e then [] else addedSince resets added L ++ (added e).toList := by
  unfold addedSince
  by_cases h : resets e = true
  · simp [h]
  · cases hx : added e <;> simp [h, hx]

/-! ## Replay keeps everything but features and scopes -/

namespace RuleType

/-- The type with no container and no scopes, everything else kept. -/
def bare (t : RuleType) : RuleType := { t with features := none, scopes := [] }

@[simp] theorem bare_features (t : RuleType) : t.bare.features = none := rfl
@[simp] theorem bare_scopes (t : RuleType) : t.bare.scopes = [] := rfl
@[simp] theorem bare_bare (t : RuleType) : t.bare.bare = t.bare := rfl
@[simp] theorem bare_id (t : RuleType) : t.bare.id = t.id := rfl
@[simp] theorem bare_parent (t : RuleType) : t.bare.parent = t.parent := rfl
@[simp] theorem bare_edits (t : RuleType) : t.bare.edits = t.edits := rfl
@[simp] theorem bare_index (t : RuleType) : t.bare.index = t.index := rfl
@[simp] theorem bare_isAbstract (t : RuleType) : t.bare.isAbstract = t.isAbstract := rfl

/-- A type is determined by its bare part, its features and its scopes. -/
theorem ext_bare {t u : RuleType} (hb : t.bare = u.bare) (hf : t.features = u.features)
    (hs : t.scopes = u.scopes) : t = u := by
  cases t; cases u
  simp only [bare, mk.injEq] at hb hf hs ⊢
  simp_all

@[simp] theorem bare_replay (t : RuleType) (e : Edit) : (t.replay e).bare = t.bare := by
  cases e <;> rfl

@[simp] theorem bare_foldl_replay (L : List Edit) (t : RuleType) :
    (L.foldl replay t).bare = t.bare := by
  induction L generalizing t with
  | nil => rfl
  | cons e L ih => rw [List.foldl_cons, ih, bare_replay]

@[simp] theorem bare_rebuild (t : RuleType) (f : Option Container) (s : List Scope) :
    (t.rebuild f s).bare = t.bare :=
  bare_foldl_replay _ _

@[simp] theorem id_rebuild (t : RuleType) (f : Option Container) (s : List Scope) :
    (t.rebuild f s).id = t.id :=
  congrArg (·.id) (bare_rebuild t f s)

@[simp] theorem parent_rebuild (t : RuleType) (f : Option Container) (s : List Scope) :
    (t.rebuild f s).parent = t.parent :=
  congrArg (·.parent) (bare_rebuild t f s)

/-- What replay leaves in the features and scopes depends on nothing else. -/
theorem foldl_replay_congr {t u : RuleType} (hf : t.features = u.features)
    (hs : t.scopes = u.scopes) (L : List Edit) :
    (L.foldl replay t).features = (L.foldl replay u).features ∧
      (L.foldl replay t).scopes = (L.foldl replay u).scopes := by
  induction L generalizing t u with
  | nil => exact ⟨hf, hs⟩
  | cons e L ih =>
    apply ih <;> cases e <;> simp [replay, container, hf, hs]

/-- Rebuilding on the features and scopes that replaying `L` from nothing gives is replaying
`L` and then the type's own log, from nothing. -/
theorem rebuild_foldl_replay_bare (t u : RuleType) (L : List Edit) :
    t.rebuild (L.foldl replay u.bare).features (L.foldl replay u.bare).scopes =
      (L ++ t.edits).foldl replay t.bare := by
  show t.edits.foldl replay { t with features := _, scopes := _ } = _
  rw [List.foldl_append]
  congr 1
  have hc := @foldl_replay_congr t.bare u.bare rfl rfl L
  exact ext_bare (by rw [bare_foldl_replay]; rfl) hc.1.symm hc.2.symm

theorem rebuild_none_nil (t : RuleType) : t.rebuild none [] = t.edits.foldl replay t.bare :=
  rebuild_foldl_replay_bare t t []

/-! ## The log alone decides the result -/

theorem foldl_replay_features_eq_none (L : List Edit) (t : RuleType) :
    (L.foldl replay t).features = none ↔ t.features = none ∧ ∀ e ∈ L, e.isAdd = false := by
  induction L generalizing t with
  | nil => simp
  | cons e L ih =>
    rw [List.foldl_cons, ih]
    cases e <;> simp [replay, Edit.isAdd]

theorem foldl_replay_scopes (L : List Edit) (t : RuleType) :
    (L.foldl replay t).scopes = t.scopes ++ L.filterMap Edit.addedScope := by
  induction L generalizing t with
  | nil => simp
  | cons e L ih =>
    rw [List.foldl_cons, ih]
    cases e <;> simp [replay, Edit.addedScope, List.filterMap_cons]

theorem abilitiesWithId_eq (t : RuleType) (a : String) :
    t.abilitiesWithId a = t.container.abilities.get a := by
  cases h : t.features <;> simp [abilitiesWithId, container, h, Container.abilitiesWithId]

theorem modifiersWithId_eq (t : RuleType) (m : String) :
    t.modifiersWithId m = t.container.modifiers.get m := by
  cases h : t.features <;> simp [modifiersWithId, container, h, Container.modifiersWithId]

end RuleType

/-- Equality of modifiers as the container sees it is transitive. -/
theorem Binary32.beq_trans {x y z : Binary32} (hxy : x.beq y = true) (hyz : y.beq z = true) :
    x.beq z = true := by
  have bits : ∀ {u v : Binary32}, u.bits = v.bits → u = v := fun {u v} h => by
    cases u; cases v; simp_all
  simp only [Binary32.beq, Bool.and_eq_true, Bool.not_eq_true', Bool.or_eq_true,
    beq_iff_eq] at hxy hyz ⊢
  obtain ⟨⟨hx, -⟩, exy⟩ := hxy
  obtain ⟨⟨-, hz⟩, eyz⟩ := hyz
  refine ⟨⟨hx, hz⟩, ?_⟩
  rcases exy with e | ⟨zx, zy⟩ <;> rcases eyz with e' | ⟨zy', zz⟩
  · exact .inl (e.trans e')
  · exact .inr ⟨bits e ▸ zy', zz⟩
  · exact .inr ⟨zx, bits e' ▸ zy⟩
  · exact .inr ⟨zx, zz⟩

theorem Modifier.same_trans (m n k : Modifier) (hmn : m.same n = true) (hnk : n.same k = true) :
    m.same k = true := by
  simp only [Modifier.same, Bool.and_eq_true, beq_iff_eq] at hmn hnk ⊢
  obtain ⟨⟨⟨⟨⟨⟨⟨h1, h2⟩, h3⟩, h4⟩, h5⟩, h6⟩, h7⟩, h8⟩ := hmn
  obtain ⟨⟨⟨⟨⟨⟨⟨k1, k2⟩, k3⟩, k4⟩, k5⟩, k6⟩, k7⟩, k8⟩ := hnk
  exact ⟨⟨⟨⟨⟨⟨⟨h1.trans k1, Binary32.beq_trans h2 k2⟩, h3.trans k3⟩, h4.trans k4⟩,
    h5.trans k5⟩, h6.trans k6⟩, h7.trans k7⟩, h8.trans k8⟩

theorem ability_beq_trans (a b c : Ability) (hab : (a == b) = true) (hbc : (b == c) = true) :
    (a == c) = true := by
  simp only [beq_iff_eq] at hab hbc ⊢
  exact hab.trans hbc

namespace RuleType

/-- One step of a group read as a log: an add of an entry keyed `k` extends the log. -/
theorem get_add_step {α : Type} {same : α → α → Bool}
    (trans : ∀ x y z, same x y = true → same y z = true → same x z = true)
    {g : Grouped α} {k : String} {l : List α} (h : g.get k = firstOccurrences same [] l)
    (key : String) (b : α) : (g.add same key b).get k =
      firstOccurrences same [] (l ++ if key = k then [b] else []) := by
  by_cases hk : key = k
  · subst hk
    simpa using Grouped.get_add_eq_firstOccurrences trans h b
  · rw [Grouped.get_add]
    simp [hk, Ne.symm hk, h]

theorem abilitiesWithId_foldl_replay_bare (L : List Edit) (t : RuleType) (a : String) :
    (L.foldl replay t.bare).abilitiesWithId a =
      firstOccurrences (· == ·) []
        (addedSince (· == .deleteAbility a) (Edit.abilityWithId a) L) := by
  induction L using List.reverseRecOn with
  | nil => simp [abilitiesWithId, addedSince, firstOccurrences]
  | append_singleton L e ih =>
    rw [List.foldl_append, List.foldl_cons, List.foldl_nil, addedSince_append_singleton]
    rw [abilitiesWithId_eq] at ih ⊢
    cases e with
    | addAbility b =>
      have := get_add_step ability_beq_trans ih b.id b
      simp only [Edit.abilityWithId] at this ⊢
      by_cases hb : b.id = a <;> simp_all [replay, container, Container.addAbility]
    | deleteAbility x =>
      by_cases hx : x = a
      · subst hx
        cases hf : (L.foldl replay t.bare).features <;>
          simp [replay, container, hf, Container.removeAbilities, Grouped.get_erase,
            firstOccurrences]
      · have hne : (Edit.deleteAbility x == Edit.deleteAbility a) = false := by simp [hx]
        cases hf : (L.foldl replay t.bare).features <;>
          simp_all [replay, container, Container.removeAbilities, Grouped.get_erase,
            Edit.abilityWithId, Ne.symm hx]
    | addModifier m => simpa [replay, container, Container.addModifier, Edit.abilityWithId] using ih
    | deleteModifier x =>
      cases hf : (L.foldl replay t.bare).features <;>
        simp_all [replay, container, Container.removeModifiers, Edit.abilityWithId]
    | scope s => simpa [replay, container, Edit.abilityWithId] using ih
    | unknown tag => simpa [replay, Edit.abilityWithId] using ih

theorem modifiersWithId_foldl_replay_bare (L : List Edit) (t : RuleType) (m : String) :
    (L.foldl replay t.bare).modifiersWithId m =
      firstOccurrences Modifier.same []
        (addedSince (· == .deleteModifier m) (Edit.modifierWithId m) L) := by
  induction L using List.reverseRecOn with
  | nil => simp [modifiersWithId, addedSince, firstOccurrences]
  | append_singleton L e ih =>
    rw [List.foldl_append, List.foldl_cons, List.foldl_nil, addedSince_append_singleton]
    rw [modifiersWithId_eq] at ih ⊢
    cases e with
    | addModifier n =>
      have := get_add_step Modifier.same_trans ih n.id n
      simp only [Edit.modifierWithId] at this ⊢
      by_cases hn : n.id = m <;> simp_all [replay, container, Container.addModifier]
    | deleteModifier x =>
      by_cases hx : x = m
      · subst hx
        cases hf : (L.foldl replay t.bare).features <;>
          simp [replay, container, hf, Container.removeModifiers, Grouped.get_erase,
            firstOccurrences]
      · cases hf : (L.foldl replay t.bare).features <;>
          simp_all [replay, container, Container.removeModifiers, Grouped.get_erase,
            Edit.modifierWithId, Ne.symm hx]
    | addAbility a => simpa [replay, container, Container.addAbility, Edit.modifierWithId] using ih
    | deleteAbility x =>
      cases hf : (L.foldl replay t.bare).features <;>
        simp_all [replay, container, Container.removeAbilities, Edit.modifierWithId]
    | scope s => simpa [replay, container, Edit.modifierWithId] using ih
    | unknown tag => simpa [replay, Edit.modifierWithId] using ih

end RuleType

/-! ## Well-formed containers -/

/-- Both stores of the container are well formed and keyed by the feature id. -/
structure Container.WellFormed (c : Container) : Prop where
  abilities : c.abilities.WellFormed
  abilities_keyed : c.abilities.Keyed (·.id)
  modifiers : c.modifiers.WellFormed
  modifiers_keyed : c.modifiers.Keyed (·.id)

namespace Container

theorem wellFormed_empty : ({} : Container).WellFormed :=
  ⟨Grouped.wellFormed_empty, Grouped.keyed_empty _, Grouped.wellFormed_empty,
    Grouped.keyed_empty _⟩

variable {c : Container}

/-- A feature id is listed exactly when some ability has it. -/
theorem mem_abilityIds_iff (hc : c.WellFormed) (a : String) :
    a ∈ c.abilityIds ↔ ∃ b ∈ c.abilityList, b.id = a := by
  rw [abilityIds, Grouped.mem_keys_iff hc.abilities]
  constructor
  · intro h
    obtain ⟨b, hb⟩ := List.exists_mem_of_ne_nil _ h
    obtain ⟨hb, hid⟩ := Grouped.mem_entries_of_mem_get hc.abilities_keyed hb
    exact ⟨b, hb, hid⟩
  · rintro ⟨b, hb, rfl⟩
    exact List.ne_nil_of_mem (Grouped.mem_get_of_mem_entries hc.abilities hc.abilities_keyed hb)

theorem mem_modifierIds_iff (hc : c.WellFormed) (m : String) :
    m ∈ c.modifierIds ↔ ∃ n ∈ c.modifierList, n.id = m := by
  rw [modifierIds, Grouped.mem_keys_iff hc.modifiers]
  constructor
  · intro h
    obtain ⟨n, hn⟩ := List.exists_mem_of_ne_nil _ h
    obtain ⟨hn, hid⟩ := Grouped.mem_entries_of_mem_get hc.modifiers_keyed hn
    exact ⟨n, hn, hid⟩
  · rintro ⟨n, hn, rfl⟩
    exact List.ne_nil_of_mem (Grouped.mem_get_of_mem_entries hc.modifiers hc.modifiers_keyed hn)

end Container

namespace RuleType

/-- The container, where there is one, is well formed. -/
def ContainerWellFormed (t : RuleType) : Prop := ∀ c, t.features = some c → c.WellFormed

theorem containerWellFormed_bare (t : RuleType) : t.bare.ContainerWellFormed :=
  fun _ h => nomatch h

theorem ContainerWellFormed.container {t : RuleType} (ht : t.ContainerWellFormed) :
    t.container.WellFormed := by
  unfold RuleType.container
  cases h : t.features with
  | none => exact Container.wellFormed_empty
  | some c => exact ht c h

theorem ContainerWellFormed.replay {t : RuleType} (ht : t.ContainerWellFormed) (e : Edit) :
    (t.replay e).ContainerWellFormed := by
  have hc := ht.container
  intro c h
  cases e with
  | addAbility a =>
    cases h
    exact { hc with
      abilities := hc.abilities.add _ _ _
      abilities_keyed := hc.abilities_keyed.add _ a }
  | deleteAbility x =>
    obtain ⟨c₀, h₀, rfl⟩ := Option.map_eq_some_iff.1 h
    have := ht c₀ h₀
    exact { this with
      abilities := this.abilities.erase x
      abilities_keyed := this.abilities_keyed.erase x }
  | addModifier m =>
    cases h
    exact { hc with
      modifiers := hc.modifiers.add _ _ _
      modifiers_keyed := hc.modifiers_keyed.add _ m }
  | deleteModifier x =>
    obtain ⟨c₀, h₀, rfl⟩ := Option.map_eq_some_iff.1 h
    have := ht c₀ h₀
    exact { this with
      modifiers := this.modifiers.erase x
      modifiers_keyed := this.modifiers_keyed.erase x }
  | scope s => exact ht c h
  | unknown tag => exact ht c h

theorem ContainerWellFormed.foldl_replay {t : RuleType} (ht : t.ContainerWellFormed)
    (L : List Edit) : (L.foldl RuleType.replay t).ContainerWellFormed := by
  induction L generalizing t with
  | nil => exact ht
  | cons e L ih => exact ih (ht.replay e)

theorem abilityList_eq (t : RuleType) : t.abilityList = t.container.abilities.entries := by
  cases h : t.features <;> simp [abilityList, container, h, Container.abilityList]

theorem modifierList_eq (t : RuleType) : t.modifierList = t.container.modifiers.entries := by
  cases h : t.features <;> simp [modifierList, container, h, Container.modifierList]

/-- Every ability after a replay was there before or is added by the log. -/
theorem mem_abilityList_foldl_replay {L : List Edit} {t : RuleType} {b : Ability}
    (h : b ∈ (L.foldl replay t).abilityList) : b ∈ t.abilityList ∨ Edit.addAbility b ∈ L := by
  induction L generalizing t with
  | nil => exact .inl h
  | cons e L ih =>
    rcases ih h with h | h
    · rw [abilityList_eq] at h ⊢
      cases e with
      | addAbility a =>
        rcases Grouped.mem_entries_add h with h | rfl
        · exact .inl h
        · exact .inr List.mem_cons_self
      | deleteAbility x =>
        cases hf : t.features with
        | none => simp [replay, container, hf] at h
        | some c =>
          simp only [replay, container, hf, Option.map_some, Option.getD_some,
            Container.removeAbilities] at h
          exact .inl (by simpa [container, hf] using Grouped.mem_entries_erase h)
      | addModifier m => exact .inl h
      | deleteModifier x =>
        cases hf : t.features with
        | none => simp [replay, container, hf] at h
        | some c => exact .inl (by simpa [replay, container, hf, Container.removeModifiers] using h)
      | scope s => exact .inl h
      | unknown tag => exact .inl h
    · exact .inr (List.mem_cons_of_mem _ h)

/-- Every modifier after a replay was there before or is added by the log. -/
theorem mem_modifierList_foldl_replay {L : List Edit} {t : RuleType} {n : Modifier}
    (h : n ∈ (L.foldl replay t).modifierList) : n ∈ t.modifierList ∨ Edit.addModifier n ∈ L := by
  induction L generalizing t with
  | nil => exact .inl h
  | cons e L ih =>
    rcases ih h with h | h
    · rw [modifierList_eq] at h ⊢
      cases e with
      | addModifier m =>
        rcases Grouped.mem_entries_add h with h | rfl
        · exact .inl h
        · exact .inr List.mem_cons_self
      | deleteModifier x =>
        cases hf : t.features with
        | none => simp [replay, container, hf] at h
        | some c =>
          simp only [replay, container, hf, Option.map_some, Option.getD_some,
            Container.removeModifiers] at h
          exact .inl (by simpa [container, hf] using Grouped.mem_entries_erase h)
      | addAbility a => exact .inl h
      | deleteAbility x =>
        cases hf : t.features with
        | none => simp [replay, container, hf] at h
        | some c => exact .inl (by simpa [replay, container, hf, Container.removeAbilities] using h)
      | scope s => exact .inl h
      | unknown tag => exact .inl h
    · exact .inr (List.mem_cons_of_mem _ h)

end RuleType

end Ruleset
