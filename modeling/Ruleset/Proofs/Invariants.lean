import Ruleset.Proofs.Session

/-!
# The phase and index invariants of every session

Over every sequence of loads, finalizes and reopens from an empty registry, refused steps
included:

* `session_phase_invariant` — while loading, nothing is set aside or indexed and the table
  lists every created id, in order of creation; once finalized, the table and the set-aside
  types split the created ids between them, the table holding the concrete types and the
  set-aside list the abstract ones, so a lookup fails exactly on an abstract or never-created
  id; each index lists, in table order and once each, the types having a feature with the id;
  and every feature names, as its source, a type of the registry.
* `session_index_invariant` — the load indices are `0, …, nextIndex - 1`, once each; the
  table and the set-aside list are each in increasing index order; the type of index `k` has
  the `k`-th created id; and a type keeps its index in every longer session.

Both are read off the run lemma `sessionInv_run`; the index facts are those of `Indexed`,
which both phases carry.
-/

namespace Ruleset

open RuleType

namespace Registry

variable {r : Registry} {D : List String}

/-! ## Positions among the created ids -/

theorem isPrefix_getElem?_eq {C C' : List String} (hp : C <+: C') {k : Nat} {x : String}
    (h : C[k]? = some x) : C'[k]? = some x := by
  obtain ⟨hk, rfl⟩ := List.getElem?_eq_some_iff.1 h
  exact List.prefix_iff_getElem?.1 hp k hk

/-- In a list without repeats, an element has one position. -/
theorem eq_of_getElem?_eq_some {C : List String} (hnd : C.Nodup) {i j : Nat} {x : String}
    (hi : C[i]? = some x) (hj : C[j]? = some x) : i = j := by
  have hlt : i < C.length := (List.getElem?_eq_some_iff.1 hi).1
  exact (List.getElem?_inj hlt hnd).1 (hi.trans hj.symm)

/-! ## The index facts, in both phases -/

theorem LoadingInv.indexed (hi : LoadingInv D r) : Indexed D r := by
  have hidx : r.types.map (·.index) = List.range r.nextIndex := by
    rw [hi.nextIndex]
    exact hi.indices
  refine
    { indices := ?_
      created := ?_
      nextIndex := hi.nextIndex_eq
      types_sorted := pairwise_index_lt hidx
      purged_sorted := by simp [hi.purged] }
  · rw [hi.purged, List.append_nil, hidx]
  · rw [hi.purged, List.append_nil]
    exact hi.created

theorem SessionInv.indexed (hi : SessionInv D r) : Indexed D r := by
  rcases hi with hi | hi
  · exact hi.indexed
  · exact hi.toIndexed

theorem Indexed.nodup_indices (hx : Indexed D r) :
    ((r.types ++ r.purged).map (·.index)).Nodup :=
  hx.indices.nodup_iff.2 List.nodup_range

/-- Two types of a registry never share an id: their indices would be equal. -/
theorem Indexed.nodup_ids (hx : Indexed D r) : ((r.types ++ r.purged).map (·.id)).Nodup := by
  have hnd := hx.nodup_indices
  refine List.Nodup.map_on (fun t ht u hu hid => ?_) (List.Nodup.of_map _ hnd)
  have hu' : D.eraseDups[u.index]? = some t.id := by
    rw [hid]
    exact hx.created u hu
  have hidx : t.index = u.index := eq_of_getElem?_eq_some (nodup_eraseDups D) (hx.created t ht) hu'
  exact List.inj_on_of_nodup_map hnd ht hu hidx

/-- The `k`-th created id is the id of the type of index `k`. -/
theorem Indexed.exists_of_getElem? (hx : Indexed D r) {k : Nat} {x : String}
    (h : D.eraseDups[k]? = some x) : ∃ t ∈ r.types ++ r.purged, t.id = x ∧ t.index = k := by
  obtain ⟨hk, rfl⟩ := List.getElem?_eq_some_iff.1 h
  have hk' : k ∈ (r.types ++ r.purged).map (·.index) := by
    rw [hx.indices.mem_iff, List.mem_range, hx.nextIndex]
    exact hk
  obtain ⟨t, ht, htk⟩ := List.mem_map.1 hk'
  have hc := hx.created t ht
  rw [htk, List.getElem?_eq_getElem hk, Option.some.injEq] at hc
  exact ⟨t, ht, hc.symm, htk⟩

theorem Indexed.mem_ids_iff (hx : Indexed D r) (x : String) :
    x ∈ (r.types ++ r.purged).map (·.id) ↔ x ∈ D.eraseDups := by
  constructor
  · intro h
    obtain ⟨t, ht, rfl⟩ := List.mem_map.1 h
    exact List.mem_of_getElem? (hx.created t ht)
  · intro h
    obtain ⟨k, hk, hkx⟩ := List.getElem_of_mem h
    obtain ⟨t, ht, rfl, -⟩ := hx.exists_of_getElem? (List.getElem?_eq_some_iff.2 ⟨hk, hkx⟩)
    exact List.mem_map_of_mem ht

/-! ## Facts of a finalized registry -/

theorem FinalInv.disjoint (hf : FinalInv D r) :
    ∀ x ∈ r.types.map (·.id), x ∉ r.purged.map (·.id) := by
  have hnd := hf.nodup_ids
  rw [List.map_append, List.nodup_append] at hnd
  intro x hx hx'
  exact hnd.2.2 x hx x hx' rfl

theorem get_eq_error_iff (r : Registry) (x : String) :
    r.get x = .error (.notFound x) ↔ x ∉ r.types.map (·.id) := by
  rw [← find_eq_none_iff]
  unfold get
  cases r.find x <;> simp

/-- A lookup fails exactly on an abstract or a never-created id. -/
theorem FinalInv.get_notFound_iff (hf : FinalInv D r) (x : String) :
    r.get x = .error (.notFound x) ↔ x ∉ D.eraseDups ∨ x ∈ r.purged.map (·.id) := by
  rw [get_eq_error_iff, ← hf.mem_ids_iff, List.map_append, List.mem_append]
  constructor
  · intro hx
    by_cases hp : x ∈ r.purged.map (·.id)
    · exact .inr hp
    · exact .inl fun h => h.elim hx hp
  · rintro (h | h) ht
    · exact h (.inl ht)
    · exact hf.disjoint x ht h

theorem FinalInv.typesWithAbility_eq (hf : FinalInv D r) (a : String) :
    r.typesWithAbility a = (r.types.filter fun t => t.abilityList.any (·.id == a)).map (·.id) := by
  have h := (buildIndexes_get hf.wellFormed a).1
  rw [hf.indexes] at h
  exact h

theorem FinalInv.typesWithModifier_eq (hf : FinalInv D r) (m : String) :
    r.typesWithModifier m =
      (r.types.filter fun t => t.modifierList.any (·.id == m)).map (·.id) := by
  have h := (buildIndexes_get hf.wellFormed m).2
  rw [hf.indexes] at h
  exact h

/-- Any selection of the table, in table order, lists each id once. -/
theorem FinalInv.nodup_filter (hf : FinalInv D r) (p : RuleType → Bool) :
    ((r.types.filter p).map (·.id)).Nodup := by
  have hnd := hf.nodup_ids
  rw [List.map_append] at hnd
  exact (List.nodup_append.1 hnd).1.sublist (List.filter_sublist.map _)

/-! ## Every session -/

/-- **The phase invariant.** Over every session from an empty registry, while loading the
table lists the created ids and nothing is set aside or indexed; once finalized, the created
ids are split between the concrete table and the abstract set-aside types, lookups fail on
exactly the others, the indexes list the carriers of each feature id in table order, and
every feature's source is a type of the registry. -/
theorem session_phase_invariant (o : LoadOptions) (ops : List Op) :
    let r := (withOptions o).run ops
    let C := (withOptions o).createdIds ops
    (r.phase = .loading → r.purged = [] ∧ r.abilityIndex = {} ∧ r.modifierIndex = {} ∧
      r.types.map (·.id) = C) ∧
    (r.phase = .finalized →
      (∀ x ∈ r.types.map (·.id), x ∉ r.purged.map (·.id)) ∧
      (∀ x, x ∈ r.types.map (·.id) ∨ x ∈ r.purged.map (·.id) ↔ x ∈ C) ∧
      (∀ t ∈ r.types, t.isAbstract = false) ∧ (∀ t ∈ r.purged, t.isAbstract = true) ∧
      (∀ x, r.get x = .error (.notFound x) ↔ x ∉ C ∨ x ∈ r.purged.map (·.id)) ∧
      (∀ a, r.typesWithAbility a =
          (r.types.filter fun t => t.abilityList.any (·.id == a)).map (·.id) ∧
        (r.typesWithAbility a).Nodup) ∧
      (∀ m, r.typesWithModifier m =
          (r.types.filter fun t => t.modifierList.any (·.id == m)).map (·.id) ∧
        (r.typesWithModifier m).Nodup) ∧
      ∀ t ∈ r.types ++ r.purged,
        (∀ b ∈ t.abilityList, ∃ s, b.source = some s ∧ s ∈ (r.types ++ r.purged).map (·.id)) ∧
        ∀ n ∈ t.modifierList, ∃ s, n.source = some s ∧ s ∈ (r.types ++ r.purged).map (·.id)) := by
  intro r C
  have hinv := sessionInv_run o ops
  refine ⟨fun hl => ?_, fun hfin => ?_⟩
  · have hi := hinv.loading hl
    exact ⟨hi.purged, hi.abilityIndex, hi.modifierIndex, hi.ids⟩
  · have hf := hinv.final hfin
    refine ⟨hf.disjoint, fun x => ?_, hf.concrete, hf.abstract, hf.get_notFound_iff,
      fun a => ?_, fun m => ?_, fun t ht => ⟨hf.abilitySources t ht, hf.modifierSources t ht⟩⟩
    · rw [← List.mem_append, ← List.map_append]
      exact hf.mem_ids_iff x
    · rw [hf.typesWithAbility_eq a]
      exact ⟨rfl, hf.nodup_filter _⟩
    · rw [hf.typesWithModifier_eq m]
      exact ⟨rfl, hf.nodup_filter _⟩

/-- **The index invariant.** Over every session from an empty registry, the load indices of
the table and the set-aside types are `0, …, nextIndex - 1`, once each; each list, and each
category of the table, is in increasing index order; the `k`-th created id belongs to the type
of index `k`; and no later step changes a type's index. -/
theorem session_index_invariant (o : LoadOptions) (ops : List Op) :
    let r := (withOptions o).run ops
    let C := (withOptions o).createdIds ops
    ((r.types ++ r.purged).map (·.index)).Perm (List.range r.nextIndex) ∧
    r.types.Pairwise (·.index < ·.index) ∧ r.purged.Pairwise (·.index < ·.index) ∧
    (∀ c, (r.typesIn c).Pairwise (·.index < ·.index)) ∧
    r.nextIndex = C.length ∧
    (∀ t ∈ r.types ++ r.purged, C[t.index]? = some t.id) ∧
    (∀ k x, C[k]? = some x → ∃ t ∈ r.types ++ r.purged, t.id = x ∧ t.index = k) ∧
    ∀ more, ∀ t ∈ r.types ++ r.purged,
      ∀ t' ∈ ((withOptions o).run (ops ++ more)).types ++
          ((withOptions o).run (ops ++ more)).purged,
        t'.id = t.id → t'.index = t.index := by
  intro r C
  have hx := (sessionInv_run o ops).indexed
  refine ⟨hx.indices, hx.types_sorted, hx.purged_sorted,
    fun c => hx.types_sorted.sublist List.filter_sublist, hx.nextIndex, hx.created,
    fun k x h => hx.exists_of_getElem? h, fun more t ht t' ht' hid => ?_⟩
  -- both indices are positions of the one id among the ids of the longer session
  have hx' := (sessionInv_run o (ops ++ more)).indexed
  have hpos : ((withOptions o).createdIds (ops ++ more))[t.index]? = some t.id :=
    isPrefix_getElem?_eq (createdIds_isPrefix_append _ ops more) (hx.created t ht)
  have hpos' : ((withOptions o).createdIds (ops ++ more))[t'.index]? = some t.id := by
    rw [← hid]
    exact hx'.created t' ht'
  exact eq_of_getElem?_eq_some (nodup_eraseDups _) hpos' hpos

end Registry

end Ruleset
