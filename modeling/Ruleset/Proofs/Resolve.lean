import Ruleset.Proofs.Kahn
import Ruleset.Proofs.Replay

/-!
# Inheritance resolution

`Inheritance.resolve` checks a table and then rebuilds every type in the resolution order.
This module says what comes out, for a table whose ids are distinct.

* Resolution changes only features and scopes: the bare types are kept, in place
  (`map_bare_resolve`).
* `RebuiltIn res t` — the local equation of a resolved type: its own log replayed onto its
  parent's features and scopes in `res`, or onto nothing for a root. The rebuild pass makes it
  hold of every type, because each parent is rebuilt before its children and never touched
  again (`rebuiltIn_foldl_rebuildOne`).
* `eq_foldl_replay_of_lineage` — from the local equations, by induction over the chain of
  parents: a resolved type is its whole lineage's concatenated log replayed from nothing.
* `resolve_refused_iff` and `Refusal` — resolution fails exactly on a missing parent, else a
  cycle, else a missing feature source, and reports the first offender in table and log order.
-/

namespace Ruleset

namespace Inheritance

open RuleType

/-! ## What resolution keeps -/

theorem map_bare_update {types : List RuleType} {x : String} {f : RuleType → RuleType}
    (hf : ∀ u, (f u).bare = u.bare) :
    (Registry.update types x f).map bare = types.map bare := by
  unfold Registry.update
  rw [List.map_map]
  apply List.map_congr_left
  intro u _
  by_cases h : u.id = x <;> simp [h, hf]

theorem map_bare_rebuildOne (types : List RuleType) (x : String) :
    (rebuildOne types x).map bare = types.map bare := by
  unfold rebuildOne
  split
  · rfl
  · exact map_bare_update fun u => bare_rebuild u _ _

theorem map_bare_foldl_rebuildOne (order : List String) (types : List RuleType) :
    (order.foldl rebuildOne types).map bare = types.map bare := by
  induction order generalizing types with
  | nil => rfl
  | cons x rest ih => rw [List.foldl_cons, ih, map_bare_rebuildOne]

theorem map_id_eq_of_map_bare {l₁ l₂ : List RuleType} (h : l₁.map bare = l₂.map bare) :
    l₁.map (·.id) = l₂.map (·.id) := by
  have := congrArg (List.map (·.id)) h
  simpa [List.map_map, Function.comp_def] using this

/-- The parent relation reads only bare types. -/
theorem parentOf_eq_of_map_bare {l₁ l₂ : List RuleType} (h : l₁.map bare = l₂.map bare) :
    parentOf l₁ = parentOf l₂ := by
  have read : ∀ l : List RuleType, parentOf l = fun x =>
      ((l.map bare).find? (·.id == x)).bind (·.parent) := by
    intro l
    funext x
    unfold parentOf
    rw [List.find?_map]
    show _ = (Option.map bare (l.find? (·.id == x))).bind (·.parent)
    cases l.find? (·.id == x) <;> rfl
  rw [read l₁, read l₂, h]

theorem parentsFirst_congr {l₁ l₂ : List RuleType} (h : parentOf l₁ = parentOf l₂) :
    ∀ {done order : List String}, ParentsFirst l₁ done order ↔ ParentsFirst l₂ done order
  | _, [] => Iff.rfl
  | _, _ :: _ => by simp only [ParentsFirst, h, parentsFirst_congr h]

theorem Lineage.mono {l₁ l₂ : List RuleType} (h : ∀ u ∈ l₁, u ∈ l₂) {t : RuleType}
    {line : List RuleType} (hl : Lineage l₁ t line) : Lineage l₂ t line := by
  induction hl with
  | root hp => exact .root hp
  | child hp hu _ ih => exact .child hp (h _ hu) ih

/-! ## The rebuild pass -/

/-- A type is rebuilt in `types`: its own log replayed onto nothing when it has no parent,
and onto its parent's features and scopes in `types` when it has one. -/
structure RebuiltIn (types : List RuleType) (t : RuleType) : Prop where
  root : t.parent = none → t = t.edits.foldl replay t.bare
  child : ∀ p, t.parent = some p → ∃ u ∈ types, u.id = p ∧ t = t.rebuild u.features u.scopes

theorem rebuild_congr {t u : RuleType} (h : t.bare = u.bare) (f : Option Container)
    (s : List Scope) : t.rebuild f s = u.rebuild f s := by
  have he : t.edits = u.edits := congrArg (·.edits) h
  have hs : { t with features := f, scopes := s } = { u with features := f, scopes := s } :=
    ext_bare h rfl rfl
  show t.edits.foldl replay { t with features := f, scopes := s } =
    u.edits.foldl replay { u with features := f, scopes := s }
  rw [hs, he]

theorem mem_update {types : List RuleType} {x : String} {f : RuleType → RuleType} {t : RuleType}
    (h : t ∈ Registry.update types x f) : ∃ u ∈ types, t = if u.id = x then f u else u := by
  obtain ⟨u, hu, rfl⟩ := List.mem_map.1 h
  exact ⟨u, hu, by simp⟩

theorem mem_update_of_ne {types : List RuleType} {x : String} {f : RuleType → RuleType}
    {u : RuleType} (hu : u ∈ types) (hx : u.id ≠ x) : u ∈ Registry.update types x f :=
  List.mem_map.2 ⟨u, hu, by simp [hx]⟩

theorem rebuildOne_root {cur : List RuleType} {x : String} {t₀ : RuleType}
    (hf : cur.find? (·.id == x) = some t₀) (hp : t₀.parent = none) :
    rebuildOne cur x = Registry.update cur x (·.rebuild none []) := by
  simp [rebuildOne, hf, hp]

theorem rebuildOne_child {cur : List RuleType} {x p : String} {t₀ v : RuleType}
    (hf : cur.find? (·.id == x) = some t₀) (hp : t₀.parent = some p)
    (hv : cur.find? (·.id == p) = some v) :
    rebuildOne cur x = Registry.update cur x (·.rebuild v.features v.scopes) := by
  simp [rebuildOne, hf, hp, hv]

/-- Rebuilding the type `x` from a start that is nothing (for a root) or its parent's
content (a type other than `x`) makes it rebuilt; every other type keeps being rebuilt as
long as its parent is not `x`. -/
theorem rebuiltIn_update {cur : List RuleType} (hnd : (cur.map (·.id)).Nodup) {x : String}
    {t₀ : RuleType} (ht₀ : t₀ ∈ cur) (hx : t₀.id = x) {F : Option Container} {S : List Scope}
    (hstart : (t₀.parent = none ∧ F = none ∧ S = []) ∨
      ∃ v ∈ cur, t₀.parent = some v.id ∧ v.id ≠ x ∧ F = v.features ∧ S = v.scopes)
    {t : RuleType} (ht : t ∈ Registry.update cur x (·.rebuild F S)) :
    (t.id = x → RebuiltIn (Registry.update cur x (·.rebuild F S)) t) ∧
    (t.id ≠ x → t ∈ cur ∧ (RebuiltIn cur t → (∀ p, t.parent = some p → p ≠ x) →
      RebuiltIn (Registry.update cur x (·.rebuild F S)) t)) := by
  obtain ⟨u, hu, rfl⟩ := mem_update ht
  by_cases hux : u.id = x
  · obtain rfl : u = t₀ := List.inj_on_of_nodup_map hnd hu ht₀ (hux.trans hx.symm)
    simp only [hux, if_true, id_rebuild, ne_eq, not_true_eq_false, false_imp_iff, and_true]
    intro _
    have hb : (u.rebuild F S).bare = u.bare := bare_rebuild _ _ _
    rcases hstart with ⟨hp, rfl, rfl⟩ | ⟨v, hv, hp, hvx, rfl, rfl⟩
    · refine ⟨fun _ => ?_, fun p hp' => by simp [hp] at hp'⟩
      rw [bare_rebuild, edits_rebuild]
      exact rebuild_none_nil u
    · refine ⟨fun hp' => by simp [hp] at hp', fun p hp' => ?_⟩
      refine ⟨v, mem_update_of_ne hv hvx, ?_, rebuild_congr hb.symm _ _⟩
      simp [hp] at hp'
      exact hp'
  · simp only [hux, if_false, ne_eq, false_imp_iff, true_and]
    intro _
    refine ⟨hu, fun hreb hpx => ⟨hreb.root, fun p hp => ?_⟩⟩
    obtain ⟨w, hw, rfl, heq⟩ := hreb.child p hp
    exact ⟨w, mem_update_of_ne hw (hpx _ hp), rfl, heq⟩

/-- The start a type is rebuilt from: nothing for a root, else its parent's content, when the
parent is another type of the table. -/
theorem rebuildOne_start {cur : List RuleType} (hnd : (cur.map (·.id)).Nodup) {x : String}
    {t₀ : RuleType} (ht₀ : t₀ ∈ cur) (hx : t₀.id = x)
    (hparent : ∀ p, t₀.parent = some p → p ∈ cur.map (·.id) ∧ p ≠ x) :
    ∃ F S, rebuildOne cur x = Registry.update cur x (·.rebuild F S) ∧
      ((t₀.parent = none ∧ F = none ∧ S = []) ∨
        ∃ v ∈ cur, t₀.parent = some v.id ∧ v.id ≠ x ∧ F = v.features ∧ S = v.scopes) := by
  have hf : cur.find? (·.id == x) = some t₀ := hx ▸ find?_id hnd ht₀
  cases hp : t₀.parent with
  | none => exact ⟨none, [], rebuildOne_root hf hp, .inl ⟨rfl, rfl, rfl⟩⟩
  | some p =>
    obtain ⟨hpc, hpx⟩ := hparent p hp
    obtain ⟨v, hv, rfl⟩ := List.mem_map.1 hpc
    exact ⟨v.features, v.scopes, rebuildOne_child hf hp (find?_id hnd hv),
      .inr ⟨v, hv, rfl, hpx, rfl, rfl⟩⟩

/-- The rebuild pass, run in a parents-first order of ids of the table, leaves every type it
has visited rebuilt: a parent is visited before its children, and once visited it is never
touched again. -/
theorem rebuiltIn_foldl_rebuildOne :
    ∀ (order done : List String) (cur : List RuleType),
      (cur.map (·.id)).Nodup → ParentsFirst cur done order →
      (∀ y ∈ done, ∀ p, parentOf cur y = some p → p ∈ done) →
      (∀ y ∈ done ++ order, y ∈ cur.map (·.id)) →
      (∀ t ∈ cur, t.id ∈ done → RebuiltIn cur t) →
      ∀ t ∈ order.foldl rebuildOne cur, t.id ∈ done ++ order →
        RebuiltIn (order.foldl rebuildOne cur) t
  | [], _, _, _, _, _, _, hreb => by simpa using hreb
  | x :: rest, done, cur, hnd, ⟨hxd, hxp, hrest⟩, hclosed, hids, hreb => by
    -- the type `x`, and the start it is rebuilt from: nothing, or its parent, visited before
    obtain ⟨t₀, ht₀, hx⟩ := List.mem_map.1 (hids x (by simp))
    have hparent : ∀ p, t₀.parent = some p → p ∈ cur.map (·.id) ∧ p ≠ x := by
      intro p hp
      have hpd : p ∈ done := hxp p (by rw [← hx, parentOf_id hnd ht₀, hp])
      exact ⟨hids _ (List.mem_append_left _ hpd), fun e => hxd (e ▸ hpd)⟩
    obtain ⟨F, S, heq, hFS⟩ := rebuildOne_start hnd ht₀ hx hparent
    have hbare := map_bare_rebuildOne cur x
    have hpar := parentOf_eq_of_map_bare hbare
    have hids' := map_id_eq_of_map_bare hbare
    have hclosed' : ∀ y ∈ done ++ [x], ∀ p, parentOf (rebuildOne cur x) y = some p →
        p ∈ done ++ [x] := by
      intro y hy p hp
      rw [hpar] at hp
      rcases List.mem_append.1 hy with hy | hy
      · exact List.mem_append_left _ (hclosed y hy p hp)
      · rw [List.mem_singleton.1 hy] at hp
        exact List.mem_append_left _ (hxp p hp)
    have hreb' : ∀ t ∈ rebuildOne cur x, t.id ∈ done ++ [x] →
        RebuiltIn (rebuildOne cur x) t := by
      intro t ht htd
      rw [heq] at ht ⊢
      obtain ⟨hself, hother⟩ := rebuiltIn_update hnd ht₀ hx hFS ht
      by_cases htx : t.id = x
      · exact hself htx
      · obtain ⟨htc, hkeep⟩ := hother htx
        have htd' : t.id ∈ done := by simpa [htx] using htd
        -- the parent of a visited type was visited before `x`
        refine hkeep (hreb t htc htd') fun p hp e => hxd ?_
        exact e ▸ hclosed t.id htd' p (by rw [parentOf_id hnd htc, hp])
    have := rebuiltIn_foldl_rebuildOne rest (done ++ [x]) (rebuildOne cur x) (hids' ▸ hnd)
      ((parentsFirst_congr hpar).2 hrest) hclosed' (by simpa [hids'] using hids) hreb'
    simpa using this

/-- A resolved table is the rebuild pass run over the resolution order, after the checks
passed. -/
theorem resolve_eq_ok {types res : List RuleType} (h : resolve types = .ok res) :
    firstMissingParent types = none ∧ ¬ (kahnOrder types).length < types.length ∧
      firstMissingSource types = none ∧ res = (kahnOrder types).foldl rebuildOne types := by
  unfold resolve resolutionOrder at h
  cases hp : firstMissingParent types with
  | some q => simp [hp] at h
  | none =>
    by_cases hlen : (kahnOrder types).length < types.length
    · simp [hp, hlen] at h
    · cases hs : firstMissingSource types with
      | some e => simp [hp, hlen, hs] at h
      | none =>
        simp only [hp, hlen, hs, if_false] at h
        exact ⟨rfl, hlen, rfl, (Except.ok.inj h).symm⟩

/-- **Resolution changes nothing but features and scopes**, and keeps every type in place. -/
theorem map_bare_resolve {types res : List RuleType} (h : resolve types = .ok res) :
    res.map bare = types.map bare := by
  obtain ⟨-, -, -, rfl⟩ := resolve_eq_ok h
  exact map_bare_foldl_rebuildOne _ _

section Resolved

variable {types res : List RuleType} (hnd : (types.map (·.id)).Nodup)
  (h : resolve types = .ok res)
include hnd h

theorem nodup_resolve : (res.map (·.id)).Nodup :=
  map_id_eq_of_map_bare (map_bare_resolve h) ▸ hnd

theorem length_kahnOrder_of_resolve : (kahnOrder types).length = types.length := by
  have := (resolve_eq_ok h).2.1
  have := length_kahnOrder_le hnd
  omega

theorem mem_kahnOrder_of_mem_resolve {t : RuleType} (ht : t ∈ res) :
    t.id ∈ kahnOrder types := by
  have hid : t.id ∈ types.map (·.id) := by
    rw [← map_id_eq_of_map_bare (map_bare_resolve h)]
    exact List.mem_map_of_mem ht
  obtain ⟨u, hu, hut⟩ := List.mem_map.1 hid
  rw [← hut]
  exact mem_kahnOrder_of_length hnd (length_kahnOrder_of_resolve hnd h) hu

/-- **Every resolved type is rebuilt from its resolved parent.** -/
theorem rebuiltIn_resolve : ∀ t ∈ res, RebuiltIn res t := by
  intro t ht
  have hmem := mem_kahnOrder_of_mem_resolve hnd h ht
  obtain ⟨-, -, -, rfl⟩ := resolve_eq_ok h
  exact rebuiltIn_foldl_rebuildOne (kahnOrder types) [] types hnd (kahnOrder_parentsFirst hnd)
    (fun _ hy => nomatch hy) (fun y hy => mem_ids_of_mem_kahnOrder hnd (by simpa using hy))
    (fun _ _ hy => nomatch hy) t ht (by simpa using hmem)

/-- Every resolved type's parents lead to a root. -/
theorem lineage_of_resolve : ∀ t ∈ res, ∃ line, Lineage res t line := by
  have hbare := map_bare_resolve h
  have hids := map_id_eq_of_map_bare hbare
  intro t ht
  refine lineage_of_parentsFirst (nodup_resolve hnd h)
    ((parentsFirst_congr (parentOf_eq_of_map_bare hbare)).2 (kahnOrder_parentsFirst hnd))
    (fun y hy => hids ▸ mem_ids_of_mem_kahnOrder hnd hy) (fun _ hy => nomatch hy) t ht
    (mem_kahnOrder_of_mem_resolve hnd h ht)

end Resolved

/-- **A resolved type is its lineage's log replayed from nothing.** The induction follows the
chain of parents; each step is the local equation of `RebuiltIn`. -/
theorem eq_foldl_replay_of_lineage {res : List RuleType} (hnd : (res.map (·.id)).Nodup)
    (hreb : ∀ t ∈ res, RebuiltIn res t) {t : RuleType} {line : List RuleType}
    (hl : Lineage res t line) (ht : t ∈ res) :
    t = (line.flatMap (·.edits)).foldl replay t.bare := by
  induction hl with
  | @root t hp => simpa using (hreb t ht).root hp
  | @child t u line hp hu _ ih =>
    obtain ⟨w, hw, hwu, heq⟩ := (hreb t ht).child u.id hp
    obtain rfl : w = u := List.inj_on_of_nodup_map hnd hw hu hwu
    have hw' := ih hw
    rw [hw'] at heq
    rw [List.flatMap_append, List.flatMap_singleton, ← rebuild_foldl_replay_bare t w]
    exact heq

/-! ## Refusals -/


/-- The source an edit names, if it names one, is a type of the table. -/
def SourceKnown (types : List RuleType) (e : Edit) : Prop :=
  ∀ kind s, e.sourceRef = some (kind, s) → s ∈ types.map (·.id)

/-- Why resolution refuses a table, in the order its checks run. -/
inductive Refusal (types : List RuleType) : RegistryError → Prop
  /-- The first type, in table order, whose parent is not a type of the table. -/
  | missingParent (pre post : List RuleType) (t : RuleType) (p : String) :
      types = pre ++ t :: post → (∀ u ∈ pre, ParentKnown types u) → t.parent = some p →
      p ∉ types.map (·.id) → Refusal types (.unresolved t.id p "type")
  /-- Every parent is a type of the table, and following parents goes round a cycle. -/
  | cycle (ids : List String) : (∀ t ∈ types, ParentKnown types t) → HasCycle types →
      Refusal types (.cycle ids)
  /-- Neither of the above; the first type in table order whose log adds a feature naming a
  source outside the table, and the first such edit of its log. -/
  | missingSource (pre post : List RuleType) (t : RuleType) (before after : List Edit)
      (e : Edit) (kind s : String) :
      (∀ t ∈ types, ParentKnown types t) → ¬ HasCycle types →
      types = pre ++ t :: post → (∀ u ∈ pre, ∀ e ∈ u.edits, SourceKnown types e) →
      t.edits = before ++ e :: after → (∀ e ∈ before, SourceKnown types e) →
      e.sourceRef = some (kind, s) → s ∉ types.map (·.id) →
      Refusal types (.unresolved t.id s kind)

variable {types : List RuleType}

/-- The parent check of one type passes exactly when its parent is known. -/
theorem parentCheck_eq_none_iff (t : RuleType) :
    (t.parent.bind fun p => if known types p then none else some (t.id, p)) = none ↔
      ParentKnown types t := by
  unfold ParentKnown
  cases hp : t.parent with
  | none => simp
  | some p => by_cases hk : known types p = true <;> simp_all [known_iff]

theorem parentCheck_eq_some_iff (t : RuleType) (x p : String) :
    (t.parent.bind fun p => if known types p then none else some (t.id, p)) = some (x, p) ↔
      t.parent = some p ∧ p ∉ types.map (·.id) ∧ x = t.id := by
  cases hp : t.parent with
  | none => simp
  | some q =>
    by_cases hk : known types q = true
    · simp only [Option.bind_some, hk, if_true, reduceCtorEq, false_iff]
      rintro ⟨hq, hmiss, -⟩
      cases hq
      exact hmiss ((known_iff _).1 hk)
    · simp only [Option.bind_some, hk, Bool.false_eq_true, if_false, Option.some.injEq,
        Prod.mk.injEq]
      rw [known_iff] at hk
      constructor
      · rintro ⟨rfl, rfl⟩
        exact ⟨rfl, hk, rfl⟩
      · rintro ⟨rfl, -, rfl⟩
        exact ⟨rfl, rfl⟩

theorem firstMissingParent_eq_none_iff :
    firstMissingParent types = none ↔ ∀ t ∈ types, ParentKnown types t := by
  unfold firstMissingParent
  rw [List.findSome?_eq_none_iff]
  exact forall₂_congr fun t _ => parentCheck_eq_none_iff t

theorem firstMissingParent_eq_some_iff {x p : String} :
    firstMissingParent types = some (x, p) ↔
      ∃ pre t post, types = pre ++ t :: post ∧ (∀ u ∈ pre, ParentKnown types u) ∧
        t.parent = some p ∧ p ∉ types.map (·.id) ∧ x = t.id := by
  unfold firstMissingParent
  rw [List.findSome?_eq_some_iff]
  simp only [parentCheck_eq_some_iff, parentCheck_eq_none_iff]
  constructor
  · rintro ⟨pre, t, post, h, ⟨hp, hk, hx⟩, hpre⟩
    exact ⟨pre, t, post, h, hpre, hp, hk, hx⟩
  · rintro ⟨pre, t, post, h, hpre, hp, hk, hx⟩
    exact ⟨pre, t, post, h, ⟨hp, hk, hx⟩, hpre⟩

/-- The source check reads the log through `Edit.sourceRef`. -/
theorem firstMissingSource_eq (types : List RuleType) :
    firstMissingSource types = types.findSome? fun t => t.edits.findSome? fun e =>
      e.sourceRef.bind fun r =>
        if known types r.2 then none else some (.unresolved t.id r.2 r.1) := by
  unfold firstMissingSource
  congr 1
  funext t
  unfold RuleType.addedSources
  induction t.edits with
  | nil => rfl
  | cons e rest ih =>
    cases e with
    | addAbility a => cases h : a.source <;> simp [Edit.sourceRef, h, ih, List.findSome?_cons]
    | addModifier m => cases h : m.source <;> simp [Edit.sourceRef, h, ih, List.findSome?_cons]
    | deleteAbility _ | deleteModifier _ | scope _ | unknown _ =>
      simp [Edit.sourceRef, ih]

theorem sourceCheck_eq_none_iff (t : RuleType) (e : Edit) :
    (e.sourceRef.bind fun r =>
      if known types r.2 then none else some (RegistryError.unresolved t.id r.2 r.1)) = none ↔
      SourceKnown types e := by
  unfold SourceKnown
  cases h : e.sourceRef with
  | none => simp
  | some r =>
    obtain ⟨kind, s⟩ := r
    by_cases hk : known types s = true <;> simp_all [known_iff]

theorem sourceCheck_eq_some_iff (t : RuleType) (e : Edit) (err : RegistryError) :
    (e.sourceRef.bind fun r =>
      if known types r.2 then none else some (RegistryError.unresolved t.id r.2 r.1)) = some err ↔
      ∃ kind s, e.sourceRef = some (kind, s) ∧ s ∉ types.map (·.id) ∧
        err = .unresolved t.id s kind := by
  cases h : e.sourceRef with
  | none => simp
  | some r =>
    obtain ⟨kind, s⟩ := r
    by_cases hk : known types s = true
    · simp only [Option.bind_some, hk, if_true, reduceCtorEq, false_iff]
      rintro ⟨k, s', hr, hmiss, -⟩
      cases hr
      exact hmiss ((known_iff _).1 hk)
    · simp only [Option.bind_some, hk, Bool.false_eq_true, if_false, Option.some.injEq]
      rw [known_iff] at hk
      constructor
      · rintro rfl
        exact ⟨kind, s, rfl, hk, rfl⟩
      · rintro ⟨k, s', hr, -, rfl⟩
        cases hr
        rfl

theorem firstMissingSource_eq_none_iff :
    firstMissingSource types = none ↔ ∀ t ∈ types, ∀ e ∈ t.edits, SourceKnown types e := by
  rw [firstMissingSource_eq, List.findSome?_eq_none_iff]
  refine forall₂_congr fun t _ => ?_
  rw [List.findSome?_eq_none_iff]
  exact forall₂_congr fun e _ => sourceCheck_eq_none_iff t e

theorem firstMissingSource_eq_some_iff {err : RegistryError} :
    firstMissingSource types = some err ↔
      ∃ pre t post before e after kind s, types = pre ++ t :: post ∧
        (∀ u ∈ pre, ∀ e ∈ u.edits, SourceKnown types e) ∧ t.edits = before ++ e :: after ∧
        (∀ e ∈ before, SourceKnown types e) ∧ e.sourceRef = some (kind, s) ∧
        s ∉ types.map (·.id) ∧ err = .unresolved t.id s kind := by
  rw [firstMissingSource_eq, List.findSome?_eq_some_iff]
  simp only [List.findSome?_eq_some_iff, List.findSome?_eq_none_iff, sourceCheck_eq_some_iff,
    sourceCheck_eq_none_iff]
  constructor
  · rintro ⟨pre, t, post, h, ⟨before, e, after, he, ⟨kind, s, hr, hmiss, rfl⟩, hbefore⟩, hpre⟩
    exact ⟨pre, t, post, before, e, after, kind, s, h, hpre, he, hbefore, hr, hmiss, rfl⟩
  · rintro ⟨pre, t, post, before, e, after, kind, s, h, hpre, he, hbefore, hr, hmiss, rfl⟩
    exact ⟨pre, t, post, h, ⟨before, e, after, he, ⟨kind, s, hr, hmiss, rfl⟩, hbefore⟩, hpre⟩

section Refused

variable (hnd : (types.map (·.id)).Nodup)
include hnd

/-- After the parent check, the order falls short of the table exactly on a cycle. -/
theorem hasCycle_iff_length_lt (hk : ∀ t ∈ types, ParentKnown types t) :
    HasCycle types ↔ (kahnOrder types).length < types.length := by
  rw [hasCycle_iff hnd hk, ← length_kahnOrder_eq_iff hnd]
  have := length_kahnOrder_le hnd
  omega

/-- **Every refusal of the resolution pass is explained by `Refusal`**, with the offender the
checks name. -/
theorem refusal_of_resolve_eq_error {e : RegistryError} (h : resolve types = .error e) :
    Refusal types e := by
  unfold resolve resolutionOrder at h
  cases hp : firstMissingParent types with
  | some q =>
    obtain ⟨x, p⟩ := q
    simp only [hp, Except.error.injEq] at h
    subst h
    obtain ⟨pre, t, post, ht, hpre, htp, hmiss, rfl⟩ := firstMissingParent_eq_some_iff.1 hp
    exact .missingParent pre post t p ht hpre htp hmiss
  | none =>
    have hk := firstMissingParent_eq_none_iff.1 hp
    by_cases hlen : (kahnOrder types).length < types.length
    · simp only [hp, hlen, if_true, Except.error.injEq] at h
      subst h
      exact .cycle _ hk ((hasCycle_iff_length_lt hnd hk).2 hlen)
    · have hc : ¬ HasCycle types := fun hc => hlen ((hasCycle_iff_length_lt hnd hk).1 hc)
      cases hs : firstMissingSource types with
      | none => simp [hp, hlen, hs] at h
      | some err =>
        simp only [hp, hlen, hs, if_false, Except.error.injEq] at h
        subst h
        obtain ⟨pre, t, post, before, e, after, kind, s, ht, hpre, he, hb, hr, hmiss, rfl⟩ :=
          firstMissingSource_eq_some_iff.1 hs
        exact .missingSource pre post t before after e kind s hk hc ht hpre he hb hr hmiss

/-- No refusal holds of a table the pass resolves. -/
theorem not_refusal_of_resolve_eq_ok {res : List RuleType} (h : resolve types = .ok res)
    (e : RegistryError) : ¬ Refusal types e := by
  obtain ⟨hp, hlen, hs, -⟩ := resolve_eq_ok h
  have hk := firstMissingParent_eq_none_iff.1 hp
  intro hr
  cases hr with
  | missingParent pre post t p ht _ htp hmiss =>
    exact hmiss (hk t (by simp [ht]) p htp)
  | cycle _ _ hc => exact hlen ((hasCycle_iff_length_lt hnd hk).1 hc)
  | missingSource pre post t before after e kind s _ _ ht _ he _ hr hmiss =>
    exact hmiss (firstMissingSource_eq_none_iff.1 hs t (by simp [ht]) e (by simp [he]) kind s hr)

/-- **The pass refuses exactly the tables some refusal describes.** -/
theorem resolve_refused_iff :
    (∃ e, resolve types = .error e) ↔ ∃ e, Refusal types e := by
  constructor
  · rintro ⟨e, h⟩
    exact ⟨e, refusal_of_resolve_eq_error hnd h⟩
  · rintro ⟨e, hr⟩
    cases h : resolve types with
    | error e' => exact ⟨e', rfl⟩
    | ok res => exact absurd hr (not_refusal_of_resolve_eq_ok hnd h e)

end Refused

end Inheritance

end Ruleset
