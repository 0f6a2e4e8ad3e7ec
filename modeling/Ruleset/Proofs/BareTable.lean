import Ruleset.Proofs.Resolve
import Ruleset.Registry.Lifecycle

/-!
# Resolution reads only the bare table

Finalizing rebuilds every type from its parent's features and scopes and from its own log, so
what a loading registry holds in its live containers and scope lists never matters. The
*bare table* of a table is the table with every container and scope list dropped
(`RuleType.bare`, type by type, in place).

* The checks of resolution read the bare table only: `firstMissingParent_map_bare`,
  `kahnOrder_map_bare`, `findCycle_map_bare`, `firstMissingSource_map_bare`.
* `Lineage.of_twins` — a lineage in one table gives a lineage, with the same concatenated log,
  in any table where each type has a twin with the same id, parent and log;
  `Lineage.of_map_bare` — in particular in any table with the same bare table.
* `eq_of_resolve_of_map_bare` — two tables resolved from the same bare table are equal, since
  each type is its lineage's log replayed from nothing.
* `resolve_congr` — so resolution gives the same answer, error or table, for two tables with
  the same bare table; `Registry.finalize_congr` — and finalize, for a loading registry and
  the same registry with other live containers and scopes.
-/

namespace Ruleset

namespace Inheritance

open RuleType

theorem exists_bare_of_map_bare {l₁ l₂ : List RuleType} (h : l₁.map bare = l₂.map bare)
    {t : RuleType} (ht : t ∈ l₁) : ∃ u ∈ l₂, u.bare = t.bare := by
  have : t.bare ∈ l₂.map bare := h ▸ List.mem_map_of_mem ht
  simpa using this

/-! ## The checks -/

section Checks

variable (l : List RuleType)

@[simp] theorem addedSources_bare (t : RuleType) : t.bare.addedSources = t.addedSources := rfl

@[simp] theorem known_map_bare : known (l.map bare) = known l := by
  funext x
  simp [known, Function.comp_def]

theorem firstMissingParent_map_bare : firstMissingParent (l.map bare) = firstMissingParent l := by
  simp [firstMissingParent, List.findSome?_map, Function.comp_def]

theorem childrenOf_map_bare : childrenOf (l.map bare) = childrenOf l := by
  funext x
  simp [childrenOf, List.filter_map, Function.comp_def]

/-- The visit reads the table only through the children it lists. -/
theorem visit_congr {l₁ l₂ : List RuleType} (h : childrenOf l₁ = childrenOf l₂) :
    visit l₁ = visit l₂ := by
  funext fuel queue order
  induction fuel generalizing queue order with
  | zero => rfl
  | succ fuel ih =>
    cases queue with
    | nil => rfl
    | cons x queue => simp only [visit, h, ih]

theorem kahnOrder_map_bare : kahnOrder (l.map bare) = kahnOrder l := by
  simp [kahnOrder, visit_congr (childrenOf_map_bare l), List.filter_map, Function.comp_def]

theorem walkToCycle_map_bare : walkToCycle (l.map bare) = walkToCycle l := by
  funext fuel path x
  induction fuel generalizing path x with
  | zero => rfl
  | succ fuel ih =>
    simp only [walkToCycle, ih, List.filter_map, List.map_map, List.find?_map, Option.bind_map,
      Function.comp_def, bare_id, bare_parent]

theorem findCycle_map_bare (order : List String) :
    findCycle (l.map bare) order = findCycle l order := by
  unfold findCycle
  rw [List.find?_map, walkToCycle_map_bare, List.length_map]
  simp only [Function.comp_def, bare_id]
  cases l.find? fun t => !order.contains t.id <;> rfl

theorem resolutionOrder_map_bare : resolutionOrder (l.map bare) = resolutionOrder l := by
  simp only [resolutionOrder, firstMissingParent_map_bare, kahnOrder_map_bare,
    findCycle_map_bare, List.length_map]

theorem firstMissingSource_map_bare : firstMissingSource (l.map bare) = firstMissingSource l := by
  simp [firstMissingSource, List.findSome?_map, Function.comp_def]

end Checks

/-! ## The rebuilt table -/

/-- Two types a lineage cannot tell apart: the same id, parent and log. -/
structure LineageTwin (t t' : RuleType) : Prop where
  id : t'.id = t.id
  parent : t'.parent = t.parent
  edits : t'.edits = t.edits

theorem LineageTwin.of_bare {t t' : RuleType} (h : t'.bare = t.bare) : LineageTwin t t' where
  id := by rw [← bare_id t', h, bare_id]
  parent := by rw [← bare_parent t', h, bare_parent]
  edits := by rw [← bare_edits t', h, bare_edits]

/-- A lineage reads the table only through ids, parents and logs: it carries over to a twin of
its type in any table where every type of the first has a twin, with the same concatenated
log. -/
theorem Lineage.of_twins {l₁ l₂ : List RuleType} (h : ∀ u ∈ l₁, ∃ u' ∈ l₂, LineageTwin u u')
    {t : RuleType} {line : List RuleType} (hl : Lineage l₁ t line) :
    ∀ t' : RuleType, LineageTwin t t' →
      ∃ line', Lineage l₂ t' line' ∧ line'.flatMap (·.edits) = line.flatMap (·.edits) := by
  induction hl with
  | @root t hp =>
    intro t' ht'
    exact ⟨[t'], .root (ht'.parent.trans hp), by simp [ht'.edits]⟩
  | @child t u line hp hu _ ih =>
    intro t' ht'
    -- the parent has a twin in the other table, whose lineage the induction gives
    obtain ⟨u', hu', hut⟩ := h u hu
    obtain ⟨line', hl', hlog⟩ := ih u' hut
    have hp' : t'.parent = some u'.id := by rw [ht'.parent, hp, hut.id]
    refine ⟨line' ++ [t'], .child hp' hu' hl', ?_⟩
    simp [hlog, ht'.edits]

/-- A lineage reads the table only through its bare types: it carries over to any type with
the same bare type, in any table with the same bare table, with the same concatenated log. -/
theorem Lineage.of_map_bare {l₁ l₂ : List RuleType} (h : l₁.map bare = l₂.map bare)
    {t : RuleType} {line : List RuleType} (hl : Lineage l₁ t line) :
    ∀ t' : RuleType, t'.bare = t.bare →
      ∃ line', Lineage l₂ t' line' ∧ line'.flatMap (·.edits) = line.flatMap (·.edits) := by
  have htwins : ∀ u ∈ l₁, ∃ u' ∈ l₂, LineageTwin u u' := fun u hu => by
    obtain ⟨u', hu', hb⟩ := exists_bare_of_map_bare h hu
    exact ⟨u', hu', .of_bare hb⟩
  exact fun t' ht' => hl.of_twins htwins t' (.of_bare ht')

/-- **Two tables resolved from the same bare table are equal.** Each type is its lineage's
log replayed from nothing, and the lineages of twin types carry the same log. -/
theorem eq_of_resolve_of_map_bare {l₁ l₂ res₁ res₂ : List RuleType}
    (hnd : (l₁.map (·.id)).Nodup) (h : l₁.map bare = l₂.map bare)
    (h₁ : resolve l₁ = .ok res₁) (h₂ : resolve l₂ = .ok res₂) : res₁ = res₂ := by
  have hnd₂ : (l₂.map (·.id)).Nodup := map_id_eq_of_map_bare h ▸ hnd
  have hb : res₁.map bare = res₂.map bare := by
    rw [map_bare_resolve h₁, map_bare_resolve h₂, h]
  have hlen : res₁.length = res₂.length := by simpa using congrArg List.length hb
  apply List.ext_getElem hlen
  intro i hi₁ hi₂
  have hbi : res₁[i].bare = res₂[i].bare := by
    have := congrArg (·[i]?) hb
    simpa [hi₁, hi₂] using this
  obtain ⟨line, hl⟩ := lineage_of_resolve hnd h₁ _ (List.getElem_mem hi₁)
  obtain ⟨line', hl', hlog⟩ := hl.of_map_bare hb res₂[i] hbi.symm
  calc res₁[i]
      = (line.flatMap (·.edits)).foldl replay res₁[i].bare :=
        eq_foldl_replay_of_lineage (nodup_resolve hnd h₁) (rebuiltIn_resolve hnd h₁) hl
          (List.getElem_mem hi₁)
    _ = (line'.flatMap (·.edits)).foldl replay res₂[i].bare := by rw [hlog, hbi]
    _ = res₂[i] :=
        (eq_foldl_replay_of_lineage (nodup_resolve hnd₂ h₂) (rebuiltIn_resolve hnd₂ h₂) hl'
          (List.getElem_mem hi₂)).symm

/-- **Resolution reads only the bare table**: two tables with the same bare table (and
distinct ids) are refused with the same error or resolved to the same table. -/
theorem resolve_congr {l₁ l₂ : List RuleType} (hnd : (l₁.map (·.id)).Nodup)
    (h : l₁.map bare = l₂.map bare) : resolve l₁ = resolve l₂ := by
  have ho : resolutionOrder l₁ = resolutionOrder l₂ := by
    rw [← resolutionOrder_map_bare l₁, h, resolutionOrder_map_bare]
  have hs : firstMissingSource l₁ = firstMissingSource l₂ := by
    rw [← firstMissingSource_map_bare l₁, h, firstMissingSource_map_bare]
  cases hor : resolutionOrder l₁ with
  | error e => simp [resolve, hor, ← ho]
  | ok order =>
    cases hfs : firstMissingSource l₁ with
    | some e => simp [resolve, hor, hfs, ← ho, ← hs]
    | none =>
      -- both checks pass; the two rebuilt tables agree
      have h₁ : resolve l₁ = .ok (order.foldl rebuildOne l₁) := by simp [resolve, hor, hfs]
      have h₂ : resolve l₂ = .ok (order.foldl rebuildOne l₂) := by
        simp [resolve, ← ho, ← hs, hor, hfs]
      rw [h₁, h₂, eq_of_resolve_of_map_bare hnd h h₁ h₂]

end Inheritance

namespace Registry

open RuleType Inheritance

/-- **A loading registry finalizes as it would with any other live containers and scopes**:
finalize reads the table only through its bare table. -/
theorem finalize_congr {r : Registry} (hl : r.phase = .loading) (hnd : (r.types.map (·.id)).Nodup)
    {types : List RuleType} (hb : r.types.map bare = types.map bare) :
    r.finalize = { r with types }.finalize := by
  have hnf : r.isFinalized = false := by simp [isFinalized, hl]
  have hnf' : ({ r with types } : Registry).isFinalized = false := hnf
  unfold finalize
  rw [hnf, hnf', resolve_congr hnd hb]
  cases resolve types <;> rfl

end Registry

end Ruleset
