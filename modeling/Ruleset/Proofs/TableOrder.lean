import Ruleset.Proofs.BareTable
import Ruleset.Proofs.Finalize
import Ruleset.Proofs.Invariants

/-!
# Finalize reads neither table order nor load indexes

Loading the same declarations in another order gives the same types at other load indexes
and in another table order. Finalize cannot tell two such tables apart.

* `RuleType.unindexed` — a type with its load index forgotten. Two tables hold the same
  types up to index when their unindexed lists are permutations of each other.
* `Inheritance.Resolvable` — what resolution asks of a table, said without table order;
  `resolve_ok_iff` — resolution succeeds exactly on such tables.
* `Resolvable.of_perm` — the same types up to index, in any order, are resolvable too;
  `resolve_perm` — and they resolve to the same types up to index, since each resolved type
  is its lineage's log replayed from nothing.
* `Registry.SameUpToIndex`, `SameUpToIndex.finalize` — two loading registries with the same
  types up to index finalize together. The results hold the same types and set-aside types
  up to index, and the same index entries up to order.
-/

namespace Ruleset

namespace RuleType

/-- The type with its load index forgotten. -/
def unindexed (t : RuleType) : RuleType := { t with index := 0 }

@[simp] theorem id_unindexed (t : RuleType) : t.unindexed.id = t.id := rfl
@[simp] theorem parent_unindexed (t : RuleType) : t.unindexed.parent = t.parent := rfl
@[simp] theorem edits_unindexed (t : RuleType) : t.unindexed.edits = t.edits := rfl

theorem unindexed_replay (t : RuleType) (e : Edit) :
    (t.replay e).unindexed = t.unindexed.replay e := by
  cases e <;> rfl

theorem unindexed_foldl_replay (L : List Edit) (t : RuleType) :
    (L.foldl replay t).unindexed = L.foldl replay t.unindexed := by
  induction L generalizing t with
  | nil => rfl
  | cons e L ih => simp only [List.foldl_cons, ih, unindexed_replay]

theorem nodup_map_unindexed {l : List RuleType} (hnd : (l.map (·.id)).Nodup) :
    (l.map unindexed).Nodup :=
  List.Nodup.of_map (·.id) (by simpa [List.map_map, Function.comp_def] using hnd)

end RuleType

namespace Inheritance

open RuleType

/-! ## Twins up to index -/

theorem LineageTwin.of_unindexed {t t' : RuleType} (h : t'.unindexed = t.unindexed) :
    LineageTwin t t' :=
  ⟨(congrArg RuleType.id h :), (congrArg RuleType.parent h :), (congrArg RuleType.edits h :)⟩

theorem LineageTwin.of_bare_unindexed {t t' : RuleType}
    (h : t'.bare.unindexed = t.bare.unindexed) : LineageTwin t t' :=
  ⟨(congrArg RuleType.id h :), (congrArg RuleType.parent h :), (congrArg RuleType.edits h :)⟩

section Twins

variable {l₁ l₂ : List RuleType}

theorem map_id_perm (h : (l₁.map unindexed).Perm (l₂.map unindexed)) :
    (l₁.map (·.id)).Perm (l₂.map (·.id)) := by
  simpa [List.map_map, Function.comp_def] using h.map (·.id)

theorem exists_twin_of_perm (h : (l₁.map unindexed).Perm (l₂.map unindexed)) {t : RuleType}
    (ht : t ∈ l₁) : ∃ t' ∈ l₂, t'.unindexed = t.unindexed :=
  List.mem_map.1 (h.mem_iff.1 (List.mem_map_of_mem ht))

theorem parentOf_of_not_mem {l : List RuleType} {x : String} (hx : x ∉ l.map (·.id)) :
    parentOf l x = none := by
  have hf : l.find? (·.id == x) = none := by simpa [List.find?_eq_none] using hx
  simp [parentOf, hf]

/-- The parent relation of a table with distinct ids reads neither order nor indexes. -/
theorem parentOf_eq_of_perm (hnd : (l₁.map (·.id)).Nodup)
    (h : (l₁.map unindexed).Perm (l₂.map unindexed)) : parentOf l₁ = parentOf l₂ := by
  have hnd₂ := (map_id_perm h).nodup_iff.1 hnd
  funext x
  by_cases hx : x ∈ l₁.map (·.id)
  · obtain ⟨t, ht, rfl⟩ := List.mem_map.1 hx
    obtain ⟨t', ht', htt⟩ := exists_twin_of_perm h ht
    have tw := LineageTwin.of_unindexed htt
    calc parentOf l₁ t.id = t.parent := parentOf_id hnd ht
      _ = parentOf l₂ t'.id := by rw [parentOf_id hnd₂ ht', tw.parent]
      _ = parentOf l₂ t.id := by rw [tw.id]
  · have hx₂ : x ∉ l₂.map (·.id) := fun hx₂ => hx ((map_id_perm h).mem_iff.2 hx₂)
    rw [parentOf_of_not_mem hx, parentOf_of_not_mem hx₂]

theorem ancestorAt_congr (h : parentOf l₁ = parentOf l₂) : ancestorAt l₁ = ancestorAt l₂ := by
  funext k x
  simp only [ancestorAt, h]

theorem HasCycle.of_perm (hnd : (l₁.map (·.id)).Nodup)
    (h : (l₁.map unindexed).Perm (l₂.map unindexed)) (hc : HasCycle l₁) : HasCycle l₂ := by
  obtain ⟨t, ht, k, hk, hcyc⟩ := hc
  obtain ⟨t', ht', htt⟩ := exists_twin_of_perm h ht
  refine ⟨t', ht', k, hk, ?_⟩
  rw [← ancestorAt_congr (parentOf_eq_of_perm hnd h), (LineageTwin.of_unindexed htt).id]
  exact hcyc

end Twins

/-! ## What resolution asks, without table order -/

/-- What resolution asks of a table: every parent is a type of the table, following parents
never goes round a cycle, and every source a logged edit names is a type of the table. -/
structure Resolvable (types : List RuleType) : Prop where
  parents : ∀ t ∈ types, ParentKnown types t
  acyclic : ¬ HasCycle types
  sources : ∀ t ∈ types, ∀ e ∈ t.edits, SourceKnown types e

/-- **Resolution succeeds exactly on resolvable tables**; the order in which it checks, and
which offender it reports, matter only for refusals. -/
theorem resolve_ok_iff {types : List RuleType} (hnd : (types.map (·.id)).Nodup) :
    (∃ res, resolve types = .ok res) ↔ Resolvable types := by
  constructor
  · rintro ⟨res, h⟩
    obtain ⟨hp, hlen, hs, -⟩ := resolve_eq_ok h
    have hk := firstMissingParent_eq_none_iff.1 hp
    exact ⟨hk, fun hc => hlen ((hasCycle_iff_length_lt hnd hk).1 hc),
      firstMissingSource_eq_none_iff.1 hs⟩
  · intro hr
    have hlen : ¬ (kahnOrder types).length < types.length := fun hlt =>
      hr.acyclic ((hasCycle_iff_length_lt hnd hr.parents).2 hlt)
    refine ⟨(kahnOrder types).foldl rebuildOne types, ?_⟩
    simp [resolve, resolutionOrder, firstMissingParent_eq_none_iff.2 hr.parents, hlen,
      firstMissingSource_eq_none_iff.2 hr.sources]

theorem Resolvable.of_perm {l₁ l₂ : List RuleType} (hnd : (l₁.map (·.id)).Nodup)
    (h : (l₁.map unindexed).Perm (l₂.map unindexed)) (hr : Resolvable l₁) : Resolvable l₂ := by
  have hids : ∀ x, x ∈ l₂.map (·.id) ↔ x ∈ l₁.map (·.id) := fun x => (map_id_perm h).mem_iff.symm
  refine ⟨fun t' ht' p hp => ?_, fun hc => hr.acyclic ?_, fun t' ht' e he kind s hs => ?_⟩
  · obtain ⟨t, ht, htt⟩ := exists_twin_of_perm h.symm ht'
    rw [hids]
    exact hr.parents t ht p ((LineageTwin.of_unindexed htt).parent.trans hp)
  · exact hc.of_perm ((map_id_perm h).nodup_iff.1 hnd) h.symm
  · obtain ⟨t, ht, htt⟩ := exists_twin_of_perm h.symm ht'
    rw [hids]
    exact hr.sources t ht e ((LineageTwin.of_unindexed htt).edits ▸ he) kind s hs

/-! ## The resolved tables -/

section Resolved

variable {l₁ l₂ res₁ res₂ : List RuleType}

/-- A resolved type has a twin, up to index, in the other resolved table: resolution keeps the
bare types in place. -/
theorem exists_twin_of_resolve (h : (l₁.map unindexed).Perm (l₂.map unindexed))
    (h₁ : resolve l₁ = .ok res₁) (h₂ : resolve l₂ = .ok res₂) {t : RuleType} (ht : t ∈ res₁) :
    ∃ t' ∈ res₂, t'.bare.unindexed = t.bare.unindexed := by
  obtain ⟨s, hs, hst⟩ := exists_bare_of_map_bare (map_bare_resolve h₁) ht
  obtain ⟨s', hs', hss⟩ := exists_twin_of_perm h hs
  obtain ⟨t', ht', hts⟩ := exists_bare_of_map_bare (map_bare_resolve h₂).symm hs'
  refine ⟨t', ht', ?_⟩
  calc t'.bare.unindexed = s'.unindexed.bare := by rw [hts]; rfl
    _ = s.unindexed.bare := by rw [hss]
    _ = t.bare.unindexed := by rw [← hst]; rfl

/-- A resolved type is, up to index, a type of the other resolved table: twins have lineages
with the same log, and each is that log replayed from its bare type. -/
theorem unindexed_mem_of_resolve (hnd : (l₁.map (·.id)).Nodup)
    (h : (l₁.map unindexed).Perm (l₂.map unindexed)) (h₁ : resolve l₁ = .ok res₁)
    (h₂ : resolve l₂ = .ok res₂) {t : RuleType} (ht : t ∈ res₁) :
    t.unindexed ∈ res₂.map unindexed := by
  have hnd₂ := (map_id_perm h).nodup_iff.1 hnd
  have htwins : ∀ u ∈ res₁, ∃ u' ∈ res₂, LineageTwin u u' := fun u hu => by
    obtain ⟨u', hu', huu⟩ := exists_twin_of_resolve h h₁ h₂ hu
    exact ⟨u', hu', .of_bare_unindexed huu⟩
  obtain ⟨t', ht', htt⟩ := exists_twin_of_resolve h h₁ h₂ ht
  obtain ⟨line, hl⟩ := lineage_of_resolve hnd h₁ t ht
  obtain ⟨line', hl', hlog⟩ := hl.of_twins htwins t' (.of_bare_unindexed htt)
  have e₁ := eq_foldl_replay_of_lineage (nodup_resolve hnd h₁) (rebuiltIn_resolve hnd h₁) hl ht
  have e₂ := eq_foldl_replay_of_lineage (nodup_resolve hnd₂ h₂) (rebuiltIn_resolve hnd₂ h₂) hl'
    ht'
  refine List.mem_map.2 ⟨t', ht', ?_⟩
  calc t'.unindexed = ((line'.flatMap (·.edits)).foldl replay t'.bare).unindexed := by rw [← e₂]
    _ = (line.flatMap (·.edits)).foldl replay t'.bare.unindexed := by
      rw [hlog, unindexed_foldl_replay]
    _ = (line.flatMap (·.edits)).foldl replay t.bare.unindexed := by rw [htt]
    _ = t.unindexed := by rw [← unindexed_foldl_replay, ← e₁]

/-- **Tables with the same types up to index resolve to tables with the same types up to
index.** -/
theorem resolve_perm (hnd : (l₁.map (·.id)).Nodup)
    (h : (l₁.map unindexed).Perm (l₂.map unindexed)) (h₁ : resolve l₁ = .ok res₁)
    (h₂ : resolve l₂ = .ok res₂) : (res₁.map unindexed).Perm (res₂.map unindexed) := by
  have hnd₂ := (map_id_perm h).nodup_iff.1 hnd
  rw [List.perm_ext_iff_of_nodup (nodup_map_unindexed (nodup_resolve hnd h₁))
    (nodup_map_unindexed (nodup_resolve hnd₂ h₂))]
  intro y
  constructor
  · intro hy
    obtain ⟨t, ht, rfl⟩ := List.mem_map.1 hy
    exact unindexed_mem_of_resolve hnd h h₁ h₂ ht
  · intro hy
    obtain ⟨t, ht, rfl⟩ := List.mem_map.1 hy
    exact unindexed_mem_of_resolve hnd₂ h.symm h₂ h₁ ht

end Resolved

end Inheritance

namespace Registry

open RuleType Inheritance

/-! ## Registries with the same types up to index -/

/-- Two registries that hold the same types up to their load indexes, in any table order:
the same set-aside types up to index, the same index entries up to order, and the same next
index, phase and options. -/
structure SameUpToIndex (r₁ r₂ : Registry) : Prop where
  types : (r₁.types.map unindexed).Perm (r₂.types.map unindexed)
  purged : (r₁.purged.map unindexed).Perm (r₂.purged.map unindexed)
  typesWithAbility : ∀ a, (r₁.typesWithAbility a).Perm (r₂.typesWithAbility a)
  typesWithModifier : ∀ m, (r₁.typesWithModifier m).Perm (r₂.typesWithModifier m)
  nextIndex : r₁.nextIndex = r₂.nextIndex
  phase : r₁.phase = r₂.phase
  options : r₁.options = r₂.options

section Filter

variable {l₁ l₂ : List RuleType} (p : RuleType → Bool) (hp : ∀ t, p t.unindexed = p t)
include hp

theorem perm_filter_unindexed (h : (l₁.map unindexed).Perm (l₂.map unindexed)) :
    ((l₁.filter p).map unindexed).Perm ((l₂.filter p).map unindexed) := by
  have key : ∀ l : List RuleType, (l.filter p).map unindexed = (l.map unindexed).filter p := by
    intro l
    rw [List.filter_map, show p ∘ unindexed = p from funext hp]
  rw [key, key]
  exact h.filter p

theorem perm_filter_ids (h : (l₁.map unindexed).Perm (l₂.map unindexed)) :
    ((l₁.filter p).map (·.id)).Perm ((l₂.filter p).map (·.id)) := by
  simpa [List.map_map, Function.comp_def] using (perm_filter_unindexed p hp h).map (·.id)

end Filter

theorem finalize_ok_iff_resolvable {r : Registry} {D : List String} (hi : LoadingInv D r) :
    (∃ F, r.finalize = .ok F) ↔ Resolvable r.types := by
  rw [← resolve_ok_iff hi.nodup_ids]
  constructor
  · rintro ⟨F, hF⟩
    obtain ⟨res, hres, -⟩ := finalize_of_loading hi.phase hF
    exact ⟨res, hres⟩
  · rintro ⟨res, hres⟩
    exact ⟨_, finalize_eq_ok_of_resolve hi.phase hres⟩

/-- **Finalize respects sameness up to index.** Two loading registries with the same types up
to index are both finalized or both refused, and when finalized they hold the same types up
to index again, with index entries that agree up to order. -/
theorem SameUpToIndex.finalize {A B : Registry} {D₁ D₂ : List String} (hA : LoadingInv D₁ A)
    (hB : LoadingInv D₂ B) (h : SameUpToIndex A B) :
    ((∃ F, A.finalize = .ok F) ↔ ∃ G, B.finalize = .ok G) ∧
      ∀ F G, A.finalize = .ok F → B.finalize = .ok G → SameUpToIndex F G := by
  refine ⟨?_, fun F G hF hG => ?_⟩
  · rw [finalize_ok_iff_resolvable hA, finalize_ok_iff_resolvable hB]
    exact ⟨(·.of_perm hA.nodup_ids h.types), (·.of_perm hB.nodup_ids h.types.symm)⟩
  · have hFi := hA.finalize hF
    have hGi := hB.finalize hG
    obtain ⟨res₁, h₁, rfl⟩ := finalize_of_loading hA.phase hF
    obtain ⟨res₂, h₂, rfl⟩ := finalize_of_loading hB.phase hG
    have hres := resolve_perm hA.nodup_ids h.types h₁ h₂
    -- the kept and the set-aside types are the resolved tables filtered on the abstract flag
    have htypes := perm_filter_unindexed (!·.isAbstract) (fun _ => rfl) hres
    refine ⟨htypes, ?_, fun a => ?_, fun m => ?_, h.nextIndex, rfl, h.options⟩
    · simp only [List.map_append]
      exact h.purged.append (perm_filter_unindexed (·.isAbstract) (fun _ => rfl) hres)
    · rw [hFi.typesWithAbility_eq, hGi.typesWithAbility_eq]
      exact perm_filter_ids _ (fun _ => rfl) htypes
    · rw [hFi.typesWithModifier_eq, hGi.typesWithModifier_eq]
      exact perm_filter_ids _ (fun _ => rfl) htypes

end Registry

end Ruleset
