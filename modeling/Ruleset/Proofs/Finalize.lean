import Ruleset.Proofs.Load
import Ruleset.Proofs.BareTable

/-!
# Finalizing and reopening

What a finalized registry looks like (`FinalInv D r`): the table and the set-aside types
together carry the load indices `0, …, nextIndex - 1`, each list in increasing index order,
and the type of index `k` has the `k`-th declared id; the table holds the concrete types and
the set-aside list the abstract ones; the indexes are those of the table; every container is
well formed; and every feature names, as its source, a type of the registry.

* `buildIndexes_get` — an index lists, in table order, the types having a feature with the id.
* `LoadingInv.finalize` — a finalize that succeeds on a loading registry makes it finalized.
  The containers and the sources come from the closed form of resolution
  (`eq_foldl_replay_of_lineage`): a feature of a resolved type was added by an edit of its
  lineage, which was checked.
* `FinalInv.reopen` — reopening sorts the types back into one table, in index order, and the
  loading invariant holds again.
-/

namespace Ruleset

open RuleType Inheritance

namespace Registry

/-! ## The indexes -/

theorem get_indexUnder (g : Grouped String) {keys : List String} (hk : keys.Nodup)
    (x a : String) : (indexUnder g keys x).get a = g.get a ++ if a ∈ keys then [x] else [] := by
  induction keys generalizing g with
  | nil => simp [indexUnder]
  | cons k rest ih =>
    rw [List.nodup_cons] at hk
    unfold indexUnder at ih ⊢
    rw [List.foldl_cons, ih _ hk.2, Grouped.get_add]
    by_cases hak : a = k
    · subst hak
      simp [hk.1]
    · simp [hak]

theorem buildIndexes_append_singleton (types : List RuleType) (t : RuleType) :
    buildIndexes (types ++ [t]) = match t.features with
      | none => buildIndexes types
      | some c => (indexUnder (buildIndexes types).1 c.abilityIds t.id,
          indexUnder (buildIndexes types).2 c.modifierIds t.id) := by
  cases h : t.features <;>
    simp only [buildIndexes, List.foldl_append, List.foldl_cons, List.foldl_nil, h]

/-- **The indexes list, in table order, the types having a feature with the id.** -/
theorem buildIndexes_get {types : List RuleType} (hwf : ∀ t ∈ types, t.ContainerWellFormed)
    (a : String) :
    (buildIndexes types).1.get a =
        (types.filter fun t => t.abilityList.any (·.id == a)).map (·.id) ∧
      (buildIndexes types).2.get a =
        (types.filter fun t => t.modifierList.any (·.id == a)).map (·.id) := by
  induction types using List.reverseRecOn with
  | nil => exact ⟨rfl, rfl⟩
  | append_singleton types t ih =>
    have hwf' : ∀ u ∈ types, u.ContainerWellFormed := fun u hu => hwf u (by simp [hu])
    obtain ⟨ha, hm⟩ := ih hwf'
    rw [buildIndexes_append_singleton, List.filter_append, List.filter_append]
    cases hf : t.features with
    | none =>
      -- a type without a container carries nothing and is indexed nowhere
      have hl : t.abilityList = [] ∧ t.modifierList = [] := by
        simp [abilityList, modifierList, hf]
      simp [ha, hm, hl]
    | some c =>
      have hc : c.WellFormed := hwf t (by simp) c hf
      have hal : t.abilityList = c.abilityList := by simp [abilityList, hf]
      have hml : t.modifierList = c.modifierList := by simp [modifierList, hf]
      simp only
      have hka : c.abilityIds.Nodup := hc.abilities.keys_nodup
      have hkm : c.modifierIds.Nodup := hc.modifiers.keys_nodup
      rw [get_indexUnder _ hka, get_indexUnder _ hkm, ha, hm]
      have hia : a ∈ c.abilityIds ↔ t.abilityList.any (·.id == a) = true := by
        rw [Container.mem_abilityIds_iff hc, hal, List.any_eq_true]
        simp
      have him : a ∈ c.modifierIds ↔ t.modifierList.any (·.id == a) = true := by
        rw [Container.mem_modifierIds_iff hc, hml, List.any_eq_true]
        simp
      constructor
      · by_cases hx : a ∈ c.abilityIds
        · simp [hx, hia.1 hx]
        · have hn : ¬ t.abilityList.any (·.id == a) = true := mt hia.2 hx
          simp [hx, hn]
      · by_cases hx : a ∈ c.modifierIds
        · simp [hx, him.1 hx]
        · have hn : ¬ t.modifierList.any (·.id == a) = true := mt him.2 hx
          simp [hx, hn]

/-! ## Finalize and reopen, by phase -/

variable {r r' : Registry} {D : List String}

theorem finalize_of_loading (hl : r.phase = .loading) (h : r.finalize = .ok r') :
    ∃ res, resolve r.types = .ok res ∧ r' = { r with
      types := res.filter (!·.isAbstract)
      purged := r.purged ++ res.filter (·.isAbstract)
      abilityIndex := (buildIndexes (res.filter (!·.isAbstract))).1
      modifierIndex := (buildIndexes (res.filter (!·.isAbstract))).2
      phase := .finalized } := by
  have hnf : r.isFinalized = false := by simp [isFinalized, hl]
  unfold finalize at h
  rw [hnf] at h
  cases hres : resolve r.types with
  | error e => simp [hres] at h
  | ok res =>
    simp only [hres, Bool.false_eq_true, if_false, Except.ok.injEq] at h
    exact ⟨res, rfl, h.symm⟩

/-- A loading registry whose table resolves is finalized: the concrete types stay, the
abstract ones are set aside, and the indexes are built from what stays. -/
theorem finalize_eq_ok_of_resolve (hl : r.phase = .loading) {res : List RuleType}
    (h : resolve r.types = .ok res) : r.finalize = .ok { r with
      types := res.filter (!·.isAbstract)
      purged := r.purged ++ res.filter (·.isAbstract)
      abilityIndex := (buildIndexes (res.filter (!·.isAbstract))).1
      modifierIndex := (buildIndexes (res.filter (!·.isAbstract))).2
      phase := .finalized } := by
  simp [finalize, isFinalized, hl, h]

theorem finalize_of_finalized (hf : r.phase = .finalized) : r.finalize = .ok r := by
  simp [finalize, isFinalized, hf]

theorem phase_of_finalize (h : r.finalize = .ok r') : r'.phase = .finalized := by
  unfold finalize at h
  split at h
  · rename_i hf
    cases h
    simpa [isFinalized] using hf
  · split at h
    · cases h
    · cases h
      rfl

theorem reopen_of_loading (hl : r.phase = .loading) : r.reopen = r := by
  simp [reopen, isFinalized, hl]

theorem reopen_of_finalized (hf : r.phase = .finalized) :
    r.reopen = { r with
      types := (r.types ++ r.purged).mergeSort fun a b => a.index ≤ b.index
      purged := []
      abilityIndex := {}
      modifierIndex := {}
      phase := .loading } := by
  simp [reopen, isFinalized, hf]

/-- On a loading registry, finalize fails exactly when resolution does, with its error. -/
theorem finalize_eq_error_iff (hl : r.phase = .loading) (e : RegistryError) :
    r.finalize = .error e ↔ resolve r.types = .error e := by
  have hnf : r.isFinalized = false := by simp [isFinalized, hl]
  unfold finalize
  rw [hnf]
  cases resolve r.types <;> simp

/-! ## Index bookkeeping -/

/-- In a list whose `k`-th member has index `k`, the index of a member is its position. -/
theorem getElem?_ids_of_indices {l : List RuleType} (h : l.map (·.index) = List.range l.length)
    {t : RuleType} (ht : t ∈ l) : (l.map (·.id))[t.index]? = some t.id := by
  obtain ⟨k, hk, rfl⟩ := List.getElem_of_mem ht
  have hidx : l[k].index = k := by
    have := congrArg (·[k]?) h
    simpa [hk] using this
  rw [hidx]
  simp [hk]

/-- A list ordered by index, whose `k`-th member has the `k`-th id of `C`, lists `C`. -/
theorem ids_eq_of_indices {l : List RuleType} {C : List String}
    (hidx : l.map (·.index) = List.range l.length) (hlen : l.length = C.length)
    (hc : ∀ t ∈ l, C[t.index]? = some t.id) : l.map (·.id) = C := by
  apply List.ext_getElem?
  intro k
  by_cases hk : k < l.length
  · have hk' : l[k].index = k := by
      have := congrArg (·[k]?) hidx
      simpa [hk] using this
    have hck := hc _ (List.getElem_mem hk)
    rw [hk'] at hck
    rw [List.getElem?_map, List.getElem?_eq_getElem hk, hck]
    rfl
  · rw [List.getElem?_eq_none (by simpa using hk), List.getElem?_eq_none (by omega)]

theorem pairwise_index_lt {l : List RuleType} {n : Nat} (h : l.map (·.index) = List.range n) :
    l.Pairwise (·.index < ·.index) := by
  have : (List.range n).Pairwise (· < ·) := List.pairwise_lt_range
  rw [← h, List.pairwise_map] at this
  exact this

/-- The table and the set-aside types merged back into one list in index order, as reopening
lists them. -/
def indexOrder (r : Registry) : List RuleType :=
  (r.types ++ r.purged).mergeSort fun a b => a.index ≤ b.index

theorem pairwise_mergeSort_index (l : List RuleType) :
    (l.mergeSort fun a b => a.index ≤ b.index).Pairwise (·.index ≤ ·.index) := by
  have := @List.pairwise_mergeSort RuleType (fun a b => decide (a.index ≤ b.index))
    (fun _ _ _ hab hbc => decide_eq_true (Nat.le_trans (of_decide_eq_true hab)
      (of_decide_eq_true hbc)))
    (fun a b => by simpa using Nat.le_total a.index b.index) l
  exact this.imp of_decide_eq_true

/-- A list in strictly increasing index order is the only arrangement of its members in
increasing index order. -/
theorem eq_of_perm_of_index_sorted {l₁ l₂ : List RuleType}
    (h₁ : l₁.Pairwise (·.index ≤ ·.index)) (h₂ : l₂.Pairwise (·.index < ·.index))
    (hp : l₁.Perm l₂) : l₁ = l₂ := by
  have hnd : (l₂.map (·.index)).Nodup := List.pairwise_map.2 (h₂.imp Nat.ne_of_lt)
  refine List.Perm.eq_of_pairwise (fun a b ha hb hab hba => ?_) h₁ (h₂.imp Nat.le_of_lt) hp
  exact List.inj_on_of_nodup_map hnd (hp.mem_iff.1 ha) hb (Nat.le_antisymm hab hba)

/-- Sorting by index a rearrangement of a list in strictly increasing index order gives that
list back. -/
theorem mergeSort_index_eq_of_perm {l l' : List RuleType} (hs : l.Pairwise (·.index < ·.index))
    (hp : l'.Perm l) : (l'.mergeSort fun a b => a.index ≤ b.index) = l :=
  eq_of_perm_of_index_sorted (pairwise_mergeSort_index l') hs ((List.mergeSort_perm _ _).trans hp)

theorem LoadingInv.nodup_ids (hi : LoadingInv D r) : (r.types.map (·.id)).Nodup :=
  hi.ids ▸ nodup_eraseDups D

theorem LoadingInv.created (hi : LoadingInv D r) :
    ∀ t ∈ r.types, D.eraseDups[t.index]? = some t.id := by
  intro t ht
  rw [← hi.ids]
  exact getElem?_ids_of_indices hi.indices ht

theorem LoadingInv.nextIndex_eq (hi : LoadingInv D r) : r.nextIndex = D.eraseDups.length := by
  rw [hi.nextIndex, ← hi.ids, List.length_map]

/-! ## What resolution gives a loading registry -/

theorem Edit.source_of_sourceRef_addAbility {b : Ability} {kind s : String}
    (h : (Edit.addAbility b).sourceRef = some (kind, s)) : b.source = some s := by
  cases hb : b.source <;> simp_all [Edit.sourceRef]

theorem Edit.source_of_sourceRef_addModifier {n : Modifier} {kind s : String}
    (h : (Edit.addModifier n).sourceRef = some (kind, s)) : n.source = some s := by
  cases hn : n.source <;> simp_all [Edit.sourceRef]

section Resolved

variable {res : List RuleType} (hi : LoadingInv D r) (h : resolve r.types = .ok res)
include hi h

theorem LoadingInv.nodup_resolve : (res.map (·.id)).Nodup :=
  Inheritance.nodup_resolve hi.nodup_ids h

/-- **A resolved type is its lineage's log replayed from nothing.** -/
theorem LoadingInv.eq_foldl_replay {t : RuleType} (ht : t ∈ res) {line : List RuleType}
    (hl : Lineage res t line) : t = (line.flatMap (·.edits)).foldl replay t.bare :=
  eq_foldl_replay_of_lineage (hi.nodup_resolve h) (rebuiltIn_resolve hi.nodup_ids h) hl ht

/-- Every add logged along a resolved type's lineage names a type of the table. -/
theorem LoadingInv.sourceKnown_log {t : RuleType} (ht : t ∈ res) {line : List RuleType}
    (hl : Lineage res t line) {e : Edit} (he : e ∈ line.flatMap (·.edits)) (hadd : e.isAdd = true) :
    ∃ kind s, e.sourceRef = some (kind, s) ∧ s ∈ res.map (·.id) := by
  obtain ⟨u, hu, heu⟩ := List.mem_flatMap.1 he
  obtain ⟨u₀, hu₀, hb⟩ := exists_bare_of_map_bare (map_bare_resolve h) (hl.mem ht u hu)
  have he₀ : e ∈ u₀.edits := by
    rw [← bare_edits, hb, bare_edits]
    exact heu
  obtain ⟨kind, s, hs⟩ := hi.sourced u₀ hu₀ e he₀ hadd
  have hchecked := firstMissingSource_eq_none_iff.1 (resolve_eq_ok h).2.2.1
  refine ⟨kind, s, hs, ?_⟩
  rw [map_id_eq_of_map_bare (map_bare_resolve h)]
  exact hchecked u₀ hu₀ e he₀ kind s hs

theorem LoadingInv.containerWellFormed_resolve {t : RuleType} (ht : t ∈ res) :
    t.ContainerWellFormed := by
  obtain ⟨line, hl⟩ := lineage_of_resolve hi.nodup_ids h t ht
  rw [hi.eq_foldl_replay h ht hl]
  exact (containerWellFormed_bare t).foldl_replay _

theorem LoadingInv.abilitySource_resolve {t : RuleType} (ht : t ∈ res) {b : Ability}
    (hb : b ∈ t.abilityList) : ∃ s, b.source = some s ∧ s ∈ res.map (·.id) := by
  obtain ⟨line, hl⟩ := lineage_of_resolve hi.nodup_ids h t ht
  rw [hi.eq_foldl_replay h ht hl] at hb
  rcases mem_abilityList_foldl_replay hb with hb | hb
  · simp [abilityList] at hb
  · obtain ⟨kind, s, hs, hmem⟩ := hi.sourceKnown_log h ht hl hb rfl
    exact ⟨s, Edit.source_of_sourceRef_addAbility hs, hmem⟩

theorem LoadingInv.modifierSource_resolve {t : RuleType} (ht : t ∈ res) {n : Modifier}
    (hn : n ∈ t.modifierList) : ∃ s, n.source = some s ∧ s ∈ res.map (·.id) := by
  obtain ⟨line, hl⟩ := lineage_of_resolve hi.nodup_ids h t ht
  rw [hi.eq_foldl_replay h ht hl] at hn
  rcases mem_modifierList_foldl_replay hn with hn | hn
  · simp [modifierList] at hn
  · obtain ⟨kind, s, hs, hmem⟩ := hi.sourceKnown_log h ht hl hn rfl
    exact ⟨s, Edit.source_of_sourceRef_addModifier hs, hmem⟩

theorem LoadingInv.sourced_resolve {t : RuleType} (ht : t ∈ res) : t.Sourced := by
  obtain ⟨u₀, hu₀, hb⟩ := exists_bare_of_map_bare (map_bare_resolve h) ht
  have he : t.edits = u₀.edits := by rw [← bare_edits, ← hb, bare_edits]
  exact (hi.sourced u₀ hu₀).of_subset (he ▸ fun _ h => h)

end Resolved

/-- After a finalize, the table and the set-aside types are the resolved table, split. -/
theorem LoadingInv.mem_finalize_iff (hi : LoadingInv D r) (h : r.finalize = .ok r') :
    ∃ res, resolve r.types = .ok res ∧ ∀ t, t ∈ r'.types ++ r'.purged ↔ t ∈ res := by
  obtain ⟨res, hres, rfl⟩ := finalize_of_loading hi.phase h
  refine ⟨res, hres, fun t => ?_⟩
  simp only [hi.purged, List.nil_append, List.mem_append, List.mem_filter]
  cases t.isAbstract <;> simp

/-! ## The finalized invariant -/

/-- The load indices of a registry after the ids `D` were declared: the table and the
set-aside types carry `0, …, nextIndex - 1`, each list in increasing order, and the type of
index `k` has the `k`-th created id. -/
structure Indexed (D : List String) (r : Registry) : Prop where
  indices : ((r.types ++ r.purged).map (·.index)).Perm (List.range r.nextIndex)
  created : ∀ t ∈ r.types ++ r.purged, D.eraseDups[t.index]? = some t.id
  nextIndex : r.nextIndex = D.eraseDups.length
  types_sorted : r.types.Pairwise (·.index < ·.index)
  purged_sorted : r.purged.Pairwise (·.index < ·.index)

/-- A finalized registry, after the ids `D` were declared into an empty one. -/
structure FinalInv (D : List String) (r : Registry) : Prop extends Indexed D r where
  phase : r.phase = .finalized
  concrete : ∀ t ∈ r.types, t.isAbstract = false
  abstract : ∀ t ∈ r.purged, t.isAbstract = true
  indexes : buildIndexes r.types = (r.abilityIndex, r.modifierIndex)
  wellFormed : ∀ t ∈ r.types, t.ContainerWellFormed
  abilitySources : ∀ t ∈ r.types ++ r.purged, ∀ b ∈ t.abilityList,
    ∃ s, b.source = some s ∧ s ∈ (r.types ++ r.purged).map (·.id)
  modifierSources : ∀ t ∈ r.types ++ r.purged, ∀ n ∈ t.modifierList,
    ∃ s, n.source = some s ∧ s ∈ (r.types ++ r.purged).map (·.id)
  sourced : ∀ t ∈ r.types ++ r.purged, t.Sourced
  /-- Merged back in index order, the types are resolved: resolving them again changes
  nothing. -/
  resolved : resolve r.indexOrder = .ok r.indexOrder

/-- **A finalize that succeeds on a loading registry makes it finalized.** The concrete and
the abstract types split the resolved table, each keeping its order. -/
theorem LoadingInv.finalize (hi : LoadingInv D r) (h : r.finalize = .ok r') : FinalInv D r' := by
  obtain ⟨res, hres, rfl⟩ := finalize_of_loading hi.phase h
  have hbare := map_bare_resolve hres
  have hidx : res.map (·.index) = List.range r.nextIndex := by
    rw [hi.nextIndex, ← hi.indices]
    have := congrArg (List.map (·.index)) hbare
    simpa [List.map_map, Function.comp_def] using this
  have hsplit : (res.filter (!·.isAbstract) ++ res.filter (·.isAbstract)).Perm res := by
    have := List.filter_append_perm (fun t : RuleType => !t.isAbstract) res
    simpa using this
  have hmem : ∀ t, t ∈ res.filter (!·.isAbstract) ++ res.filter (·.isAbstract) ↔ t ∈ res :=
    fun t => hsplit.mem_iff
  have hids : ∀ s, s ∈ (res.filter (!·.isAbstract) ++ res.filter (·.isAbstract)).map (·.id) ↔
      s ∈ res.map (·.id) := fun s => (hsplit.map _).mem_iff
  have hsorted : res.Pairwise (·.index < ·.index) := pairwise_index_lt hidx
  simp only [hi.purged, List.nil_append]
  refine
    { phase := rfl
      indices := (hsplit.map _).trans (List.Perm.of_eq hidx)
      nextIndex := hi.nextIndex_eq
      types_sorted := hsorted.sublist List.filter_sublist
      purged_sorted := hsorted.sublist List.filter_sublist
      indexes := rfl
      created := ?_
      concrete := ?_
      abstract := ?_
      wellFormed := ?_
      abilitySources := ?_
      modifierSources := ?_
      sourced := ?_
      resolved := ?_ }
  · -- resolution keeps every id and index, so each type is where the loading table had it
    intro t ht
    obtain ⟨u, hu, hb⟩ := exists_bare_of_map_bare hbare ((hmem t).1 ht)
    rw [← bare_index, ← bare_id, ← hb, bare_index, bare_id]
    exact hi.created u hu
  · intro t ht
    simpa using (List.mem_filter.1 ht).2
  · intro t ht
    simpa using (List.mem_filter.1 ht).2
  · exact fun t ht => hi.containerWellFormed_resolve hres (List.mem_of_mem_filter ht)
  · intro t ht b hb
    obtain ⟨s, hs, hm⟩ := hi.abilitySource_resolve hres ((hmem t).1 ht) hb
    exact ⟨s, hs, (hids s).2 hm⟩
  · intro t ht n hn
    obtain ⟨s, hs, hm⟩ := hi.modifierSource_resolve hres ((hmem t).1 ht) hn
    exact ⟨s, hs, (hids s).2 hm⟩
  · exact fun t ht => hi.sourced_resolve hres ((hmem t).1 ht)
  · -- merged back in index order, the split table is the resolved one, which resolution
    -- keeps since it reads only the bare table
    have hback : (res.filter (!·.isAbstract) ++ res.filter (·.isAbstract)).mergeSort
        (fun a b => a.index ≤ b.index) = res := mergeSort_index_eq_of_perm hsorted hsplit
    dsimp only [indexOrder]
    rw [hback, ← resolve_congr hi.nodup_ids hbare.symm]
    exact hres

/-- **Reopening a finalized registry makes it loading again**: sorted by index, the table
and the set-aside types line up with the declared ids. -/
theorem FinalInv.reopen (hf : FinalInv D r) : LoadingInv D r.reopen := by
  rw [reopen_of_finalized hf.phase]
  have hperm : r.indexOrder.Perm (r.types ++ r.purged) := List.mergeSort_perm _ _
  have hidx_perm : (r.indexOrder.map (·.index)).Perm (List.range r.nextIndex) :=
    (hperm.map _).trans hf.indices
  have hlen : r.indexOrder.length = r.nextIndex := by
    simpa using hidx_perm.length_eq
  -- sorted and a permutation of `0, …, n - 1`, the indices are exactly those
  have hidx : r.indexOrder.map (·.index) = List.range r.indexOrder.length := by
    rw [hlen]
    exact List.Perm.eq_of_pairwise (fun a b _ _ hab hba => Nat.le_antisymm hab hba)
      (List.pairwise_map.2 (pairwise_mergeSort_index _)) List.pairwise_le_range hidx_perm
  refine ⟨rfl, rfl, rfl, rfl, ?_, hidx, hlen.symm, ?_⟩
  · exact ids_eq_of_indices hidx (hlen.trans hf.nextIndex)
      fun t ht => hf.created t (List.mem_mergeSort.1 ht)
  · exact fun t ht => hf.sourced t (List.mem_mergeSort.1 ht)

end Registry

end Ruleset
