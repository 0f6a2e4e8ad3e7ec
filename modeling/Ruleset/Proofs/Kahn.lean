import Ruleset.Registry.Inheritance
import Mathlib.Data.Finset.Card

/-!
# The resolution order

`Inheritance.kahnOrder` lists type ids breadth first from the roots. For a table whose ids are
distinct this module shows what the order is, against declarative definitions of the parent
relation:

* `Lineage types t line` — following parents from `t` reaches a root through the table;
  `line` is the chain, root first.
* `ParentsFirst types done order` — every id of `order` is new and its parent, if it has one,
  comes before it (in `done` or earlier in `order`).
* `HasCycle types` — following parents from some type of the table comes back to it.

Principal results:

* `kahnOrder_parentsFirst` — the order lists parents first and has no repeated id; every id
  in it belongs to the table (`mem_ids_of_mem_kahnOrder`).
* `mem_kahnOrder_of_lineage` — every type whose parents lead to a root is ordered, and
  conversely every ordered type has a lineage (`lineage_of_mem_kahnOrder`).
* `length_kahnOrder_eq_iff` — the order is as long as the table exactly when every type has
  a lineage; it is never longer (`length_kahnOrder_le`).
* `hasCycle_iff` — when every parent is in the table, a type without a lineage exists exactly
  when there is a cycle.

The visit loop is read through an invariant on its queue and output (`VisitInv`): the output
lists parents first, output and queue together have no repeated id, and the parent of a
queued id is already output. The loop's fuel, the number of types, is enough because the
output grows by one each step and never exceeds the table.
-/

namespace Ruleset

namespace Inheritance

/-! ## Parents, lineages, cycles -/

/-- The parent of the type with the id, if that type is in the table and has one. -/
def parentOf (types : List RuleType) (x : String) : Option String :=
  (types.find? (·.id == x)).bind (·.parent)

/-- `Lineage types t line`: following parents from `t` through the table reaches a type
without a parent; `line` lists the types met, root first and `t` last. -/
inductive Lineage (types : List RuleType) : RuleType → List RuleType → Prop
  | root {t : RuleType} : t.parent = none → Lineage types t [t]
  | child {t u : RuleType} {line : List RuleType} : t.parent = some u.id → u ∈ types →
      Lineage types u line → Lineage types t (line ++ [t])

/-- Each id of `order` is new (not in `done`, not earlier in `order`) and its parent, if it
has one, is in `done` or earlier in `order`. -/
def ParentsFirst (types : List RuleType) : List String → List String → Prop
  | _, [] => True
  | done, x :: rest =>
    x ∉ done ∧ (∀ p, parentOf types x = some p → p ∈ done) ∧ ParentsFirst types (done ++ [x]) rest

/-- The id reached from `x` after following `k` parents, if the chain gets that far. -/
def ancestorAt (types : List RuleType) (k : Nat) (x : String) : Option String :=
  (fun o => o.bind (parentOf types))^[k] (some x)

/-- Following parents from some type of the table, at least once, comes back to it. -/
def HasCycle (types : List RuleType) : Prop :=
  ∃ t ∈ types, ∃ k, 0 < k ∧ ancestorAt types k t.id = some t.id

/-- The type's parent, if it names one, is a type of the table. -/
def ParentKnown (types : List RuleType) (t : RuleType) : Prop :=
  ∀ p, t.parent = some p → p ∈ types.map (·.id)

variable {types : List RuleType}

/-- A lineage runs through the table. -/
theorem Lineage.mem {t : RuleType} {line : List RuleType}
    (hl : Lineage types t line) (ht : t ∈ types) : ∀ u ∈ line, u ∈ types := by
  induction hl with
  | root _ =>
    intro u hu
    rw [List.mem_singleton.1 hu]
    exact ht
  | child _ hu _ ih =>
    intro v hv
    rcases List.mem_append.1 hv with hv | hv
    · exact ih hu v hv
    · rw [List.mem_singleton.1 hv]
      exact ht

theorem known_iff (x : String) : known types x = true ↔ x ∈ types.map (·.id) := by
  simp [known]

theorem find?_id (hnd : (types.map (·.id)).Nodup) {t : RuleType} (ht : t ∈ types) :
    types.find? (·.id == t.id) = some t := by
  cases hf : types.find? (·.id == t.id) with
  | none =>
    simp [List.find?_eq_none] at hf
    exact absurd rfl (hf t ht)
  | some u =>
    have hu := List.mem_of_find?_eq_some hf
    have hid : u.id = t.id := by simpa using List.find?_some hf
    rw [List.inj_on_of_nodup_map hnd hu ht hid]

theorem parentOf_id (hnd : (types.map (·.id)).Nodup) {t : RuleType} (ht : t ∈ types) :
    parentOf types t.id = t.parent := by
  simp [parentOf, find?_id hnd ht]

theorem mem_childrenOf {x c : String} :
    c ∈ childrenOf types x ↔ ∃ t ∈ types, t.id = c ∧ t.parent = some x := by
  simp only [childrenOf, List.mem_map, List.mem_filter, beq_iff_eq]
  constructor
  · rintro ⟨t, ⟨ht, hp⟩, rfl⟩
    exact ⟨t, ht, rfl, hp⟩
  · rintro ⟨t, ht, rfl, hp⟩
    exact ⟨t, ⟨ht, hp⟩, rfl⟩

theorem nodup_childrenOf (hnd : (types.map (·.id)).Nodup) (x : String) :
    (childrenOf types x).Nodup :=
  hnd.sublist ((List.filter_sublist).map _)

theorem parentOf_of_mem_childrenOf (hnd : (types.map (·.id)).Nodup) {x c : String}
    (h : c ∈ childrenOf types x) : parentOf types c = some x := by
  obtain ⟨t, ht, rfl, hp⟩ := mem_childrenOf.1 h
  rw [parentOf_id hnd ht, hp]

theorem parentsFirst_append_singleton (done order : List String) (x : String) :
    ParentsFirst types done (order ++ [x]) ↔
      ParentsFirst types done order ∧ x ∉ done ++ order ∧
        ∀ p, parentOf types x = some p → p ∈ done ++ order := by
  induction order generalizing done with
  | nil => simp [ParentsFirst]
  | cons y rest ih =>
    simp only [List.cons_append, ParentsFirst, ih, List.append_assoc]
    constructor
    · rintro ⟨h1, h2, h3, h4, h5⟩
      exact ⟨⟨h1, h2, h3⟩, h4, h5⟩
    · rintro ⟨⟨h1, h2, h3⟩, h4, h5⟩
      exact ⟨h1, h2, h3, h4, h5⟩

theorem ParentsFirst.nodup {done order : List String} (h : ParentsFirst types done order) :
    (done ++ order).Nodup ↔ done.Nodup := by
  induction order generalizing done with
  | nil => simp
  | cons x rest ih =>
    obtain ⟨hx, -, hrest⟩ := h
    rw [show done ++ x :: rest = (done ++ [x]) ++ rest by simp, ih hrest]
    constructor
    · exact fun hn => hn.sublist (List.sublist_append_left _ _)
    · intro hn
      exact List.nodup_append.2 ⟨hn, List.nodup_singleton x, fun a ha b hb hab => by
        rw [List.mem_singleton] at hb
        subst hb hab
        exact hx ha⟩

theorem ParentsFirst.parent_mem {done order : List String} (h : ParentsFirst types done order)
    {x p : String} (hx : x ∈ order) (hp : parentOf types x = some p) : p ∈ done ++ order := by
  induction order generalizing done with
  | nil => cases hx
  | cons y rest ih =>
    obtain ⟨-, hy, hrest⟩ := h
    rcases List.mem_cons.1 hx with rfl | hx
    · exact List.mem_append_left _ (hy p hp)
    · simpa using ih hrest hx

/-! ## The visit loop -/

variable (types) in
/-- What holds of the visit loop's queue and output at every step. -/
structure VisitInv (queue order : List String) : Prop where
  parentsFirst : ParentsFirst types [] order
  nodup : (order ++ queue).Nodup
  mem_ids : ∀ x ∈ order ++ queue, x ∈ types.map (·.id)
  queued : ∀ x ∈ queue, ∀ p, parentOf types x = some p → p ∈ order

theorem visitInv_roots (hnd : (types.map (·.id)).Nodup) :
    VisitInv types ((types.filter (·.parent.isNone)).map (·.id)) [] where
  parentsFirst := trivial
  nodup := by simpa using hnd.sublist ((List.filter_sublist).map _)
  mem_ids x hx := by
    simp only [List.nil_append, List.mem_map, List.mem_filter] at hx
    obtain ⟨t, ⟨ht, -⟩, rfl⟩ := hx
    exact List.mem_map_of_mem ht
  queued x hx p hp := by
    obtain ⟨t, ht, rfl⟩ := List.mem_map.1 hx
    have hroot : t.parent = none := by simpa using (List.mem_filter.1 ht).2
    rw [parentOf_id hnd (List.mem_of_mem_filter ht), hroot] at hp
    cases hp

/-- One step of the loop keeps the invariant. A child of the visited id cannot already be
output or queued: its only parent, the visited id, would then be output already. -/
theorem VisitInv.step (hnd : (types.map (·.id)).Nodup) {x : String} {queue order : List String}
    (h : VisitInv types (x :: queue) order) :
    VisitInv types (queue ++ childrenOf types x) (order ++ [x]) := by
  have hx : x ∉ order := by
    have := h.nodup
    rw [List.nodup_append] at this
    exact fun hx => this.2.2 x hx x List.mem_cons_self rfl
  have hxp : ∀ p, parentOf types x = some p → p ∈ order := h.queued x List.mem_cons_self
  have fresh : ∀ c ∈ childrenOf types x, c ∉ order ++ x :: queue := by
    intro c hc hmem
    have hpc := parentOf_of_mem_childrenOf hnd hc
    rcases List.mem_append.1 hmem with hc' | hc'
    · exact hx (by simpa using h.parentsFirst.parent_mem hc' hpc)
    · exact hx (h.queued c hc' x hpc)
  refine ⟨?_, ?_, ?_, ?_⟩
  · exact (parentsFirst_append_singleton [] order x).2 ⟨h.parentsFirst, by simpa using hx,
      by simpa using hxp⟩
  · have hn := h.nodup
    rw [show order ++ [x] ++ (queue ++ childrenOf types x) =
      (order ++ x :: queue) ++ childrenOf types x by simp]
    exact List.nodup_append.2 ⟨hn, nodup_childrenOf hnd x,
      fun a ha b hb hab => fresh b hb (hab ▸ ha)⟩
  · intro y hy
    have : y ∈ order ++ x :: queue ∨ y ∈ childrenOf types x := by
      simp only [List.mem_append, List.mem_cons] at hy ⊢
      tauto
    rcases this with hy | hy
    · exact h.mem_ids y hy
    · obtain ⟨t, ht, rfl, -⟩ := mem_childrenOf.1 hy
      exact List.mem_map_of_mem ht
  · intro y hy p hp
    rcases List.mem_append.1 hy with hy | hy
    · exact List.mem_append_left _ (h.queued y (List.mem_cons_of_mem _ hy) p hp)
    · rw [parentOf_of_mem_childrenOf hnd hy] at hp
      cases hp
      exact List.mem_append_right _ List.mem_cons_self

/-- Output and queue together never hold more ids than the table. -/
theorem VisitInv.length_le {queue order : List String} (h : VisitInv types queue order) :
    order.length + queue.length ≤ types.length := by
  have := (List.subperm_of_subset h.nodup h.mem_ids).length_le
  simpa using this

theorem subset_visit :
    ∀ (fuel : Nat) (queue order : List String), order ⊆ visit types fuel queue order
  | 0, _, _ => List.Subset.refl _
  | _ + 1, [], _ => List.Subset.refl _
  | fuel + 1, x :: queue, order => fun _ hy =>
    subset_visit fuel (queue ++ childrenOf types x) (order ++ [x]) (List.mem_append_left _ hy)

theorem visit_inv (hnd : (types.map (·.id)).Nodup) :
    ∀ (fuel : Nat) {queue order : List String}, VisitInv types queue order →
      ∃ queue', VisitInv types queue' (visit types fuel queue order)
  | 0, queue, _, h => ⟨queue, h⟩
  | _ + 1, [], _, h => ⟨[], h⟩
  | fuel + 1, _ :: _, _, h => visit_inv hnd fuel (h.step hnd)

/-- With enough fuel the loop empties its queue, so what it outputs contains the queue and is
closed under children. -/
theorem visit_closed (hnd : (types.map (·.id)).Nodup) :
    ∀ (fuel : Nat) {queue order : List String}, VisitInv types queue order →
      types.length ≤ order.length + fuel →
      (∀ y ∈ order, childrenOf types y ⊆ order ++ queue) →
      queue ⊆ visit types fuel queue order ∧
        ∀ y ∈ visit types fuel queue order, childrenOf types y ⊆ visit types fuel queue order
  | 0, queue, order, h, hfuel, hclosed => by
    have hq : queue = [] := List.eq_nil_of_length_eq_zero (by have := h.length_le; omega)
    subst hq
    exact ⟨List.nil_subset _, by simpa [visit] using hclosed⟩
  | _ + 1, [], order, _, _, hclosed => ⟨List.nil_subset _, by simpa [visit] using hclosed⟩
  | fuel + 1, x :: queue, order, h, hfuel, hclosed => by
    have ih := visit_closed hnd fuel (h.step hnd)
      (by rw [List.length_append, List.length_singleton]; omega) (by
      intro y hy z hz
      rcases List.mem_append.1 hy with hy | hy
      · have := hclosed y hy hz
        simp only [List.mem_append, List.mem_cons] at this ⊢
        tauto
      · simp only [List.mem_singleton] at hy
        subst hy
        simp [hz])
    simp only [visit]
    refine ⟨?_, ih.2⟩
    intro y hy
    rcases List.mem_cons.1 hy with rfl | hy
    · exact subset_visit fuel _ _ (List.mem_append_right _ List.mem_cons_self)
    · exact ih.1 (List.mem_append_left _ hy)

/-! ## The order Kahn's pass produces -/

section Order

variable (hnd : (types.map (·.id)).Nodup)
include hnd

theorem kahnOrder_inv : ∃ queue, VisitInv types queue (kahnOrder types) :=
  visit_inv hnd _ (visitInv_roots hnd)

/-- **Parents first, each id once.** -/
theorem kahnOrder_parentsFirst : ParentsFirst types [] (kahnOrder types) :=
  (kahnOrder_inv hnd).choose_spec.parentsFirst

theorem kahnOrder_nodup : (kahnOrder types).Nodup := by
  simpa using (kahnOrder_parentsFirst hnd).nodup

theorem mem_ids_of_mem_kahnOrder {x : String} (hx : x ∈ kahnOrder types) :
    x ∈ types.map (·.id) :=
  (kahnOrder_inv hnd).choose_spec.mem_ids x (List.mem_append_left _ hx)

theorem mem_kahnOrder_of_lineage {t : RuleType} {line : List RuleType}
    (h : Lineage types t line) (ht : t ∈ types) : t.id ∈ kahnOrder types := by
  have closed := visit_closed hnd types.length (visitInv_roots hnd) (by simp) (by simp)
  induction h with
  | root hp =>
    apply closed.1
    exact List.mem_map_of_mem (List.mem_filter.2 ⟨ht, by simp [hp]⟩)
  | @child t u line hp hu _ ih =>
    exact closed.2 u.id (ih hu) (mem_childrenOf.2 ⟨t, ht, rfl, hp⟩)

/-- Every type of the table in a parents-first order of ids of the table has a lineage,
given that the ids before the order have one. -/
theorem lineage_of_parentsFirst : ∀ {done order : List String}, ParentsFirst types done order →
    (∀ x ∈ order, x ∈ types.map (·.id)) →
    (∀ x ∈ done, ∃ u ∈ types, u.id = x ∧ ∃ line, Lineage types u line) →
    ∀ t ∈ types, t.id ∈ order → ∃ line, Lineage types t line
  | _, [], _, _, _, _, _, h => nomatch h
  | done, y :: rest, ⟨_, hy, hrest⟩, hids, hdone, t, ht, htm => by
    -- the head of the order has a lineage: its parent, if any, came before it
    obtain ⟨u, hu, rfl⟩ := List.mem_map.1 (hids y List.mem_cons_self)
    have head : ∃ line, Lineage types u line := by
      cases hp : u.parent with
      | none => exact ⟨[u], .root hp⟩
      | some p =>
        obtain ⟨v, hv, rfl, line, hl⟩ := hdone p (hy p (by rw [parentOf_id hnd hu, hp]))
        exact ⟨line ++ [u], .child hp hv hl⟩
    rcases List.mem_cons.1 htm with h | h
    · rw [List.inj_on_of_nodup_map hnd ht hu h]
      exact head
    · refine lineage_of_parentsFirst hrest (fun x hx => hids x (List.mem_cons_of_mem _ hx)) ?_
        t ht h
      intro x hx
      rcases List.mem_append.1 hx with hx | hx
      · exact hdone x hx
      · obtain rfl := List.mem_singleton.1 hx
        exact ⟨u, hu, rfl, head⟩

theorem lineage_of_mem_kahnOrder {t : RuleType} (ht : t ∈ types)
    (h : t.id ∈ kahnOrder types) : ∃ line, Lineage types t line :=
  lineage_of_parentsFirst hnd (kahnOrder_parentsFirst hnd)
    (fun _ hx => mem_ids_of_mem_kahnOrder hnd hx) (fun _ hx => nomatch hx) t ht h

theorem length_kahnOrder_le : (kahnOrder types).length ≤ types.length := by
  simpa using (List.subperm_of_subset (kahnOrder_nodup hnd)
    (fun _ hx => mem_ids_of_mem_kahnOrder hnd hx)).length_le

/-- An order as long as the table holds every id of it. -/
theorem mem_kahnOrder_of_length (hlen : (kahnOrder types).length = types.length) {t : RuleType}
    (ht : t ∈ types) : t.id ∈ kahnOrder types := by
  have hperm := (List.subperm_of_subset (kahnOrder_nodup hnd)
    (fun _ hx => mem_ids_of_mem_kahnOrder hnd hx)).perm_of_length_le (by simp [hlen])
  exact hperm.mem_iff.2 (List.mem_map_of_mem ht)

/-- **The order is complete exactly when every type's parents lead to a root.** -/
theorem length_kahnOrder_eq_iff :
    (kahnOrder types).length = types.length ↔ ∀ t ∈ types, ∃ line, Lineage types t line := by
  constructor
  · intro hlen t ht
    exact lineage_of_mem_kahnOrder hnd ht (mem_kahnOrder_of_length hnd hlen ht)
  · intro hall
    have hsub : types.map (·.id) ⊆ kahnOrder types := by
      intro x hx
      obtain ⟨t, ht, rfl⟩ := List.mem_map.1 hx
      obtain ⟨line, hl⟩ := hall t ht
      exact mem_kahnOrder_of_lineage hnd hl ht
    have := (List.subperm_of_subset hnd hsub).length_le
    have := length_kahnOrder_le hnd
    simp at *
    omega

end Order

/-! ## Cycles -/

theorem iterate_bind_none (f : String → Option String) (k : Nat) :
    (fun o : Option String => o.bind f)^[k] none = none := by
  induction k with
  | zero => rfl
  | succ k ih => rw [Function.iterate_succ_apply', ih]; rfl

theorem ancestorAt_add (j k : Nat) (x : String) :
    ancestorAt types (k + j) x = (ancestorAt types j x).bind (ancestorAt types k) := by
  unfold ancestorAt
  rw [Function.iterate_add_apply]
  cases (fun o : Option String => o.bind (parentOf types))^[j] (some x) with
  | none => exact iterate_bind_none _ k
  | some y => rfl

theorem ancestorAt_one (x : String) : ancestorAt types 1 x = parentOf types x := rfl

theorem ancestorAt_succ (k : Nat) (x : String) :
    ancestorAt types (k + 1) x = (parentOf types x).bind (ancestorAt types k) := by
  rw [ancestorAt_add 1 k, ancestorAt_one]

/-- A type without a lineage has a parent in the table that has none either, when every
parent is in the table. -/
theorem exists_parent_without_lineage (hk : ∀ t ∈ types, ParentKnown types t) {u : RuleType}
    (hu : u ∈ types) (hl : ¬ ∃ line, Lineage types u line) :
    ∃ v ∈ types, u.parent = some v.id ∧ ¬ ∃ line, Lineage types v line := by
  cases hp : u.parent with
  | none => exact absurd ⟨[u], .root hp⟩ hl
  | some p =>
    obtain ⟨v, hv, rfl⟩ := List.mem_map.1 (hk u hu p hp)
    refine ⟨v, hv, rfl, ?_⟩
    rintro ⟨line, hline⟩
    exact hl ⟨line ++ [u], .child hp hv hline⟩

/-- A walk of parents that never leaves the table comes back to one of its types: among its
first `n + 1` steps two reach the same id (pigeonhole on the table's ids). -/
theorem hasCycle_of_walk (t : RuleType)
    (walk : ∀ n, ∃ v ∈ types, ancestorAt types n t.id = some v.id) : HasCycle types := by
  let idAt k := (ancestorAt types k t.id).getD t.id
  have hid : ∀ k, ∃ v ∈ types, ancestorAt types k t.id = some v.id ∧ idAt k = v.id := by
    intro k
    obtain ⟨v, hv, hk⟩ := walk k
    exact ⟨v, hv, hk, by simp [idAt, hk]⟩
  have hcard : (types.map (·.id)).toFinset.card < (Finset.range (types.length + 1)).card := by
    have := List.toFinset_card_le (types.map (·.id))
    simp only [List.length_map, Finset.card_range] at this ⊢
    omega
  have hmaps : ∀ k ∈ Finset.range (types.length + 1), idAt k ∈ (types.map (·.id)).toFinset := by
    intro k _
    obtain ⟨v, hv, -, hk⟩ := hid k
    rw [hk]
    exact List.mem_toFinset.2 (List.mem_map_of_mem hv)
  obtain ⟨i, -, j, -, hij, heq⟩ := Finset.exists_ne_map_eq_of_card_lt_of_maps_to hcard hmaps
  -- the walk from the earlier step returns to its id after the difference of the steps
  have back : ∀ i j, i < j → idAt i = idAt j → HasCycle types := by
    intro i j hlt heq
    obtain ⟨v, hv, hvi, hidv⟩ := hid i
    obtain ⟨w, hw, hwj, hidw⟩ := hid j
    refine ⟨v, hv, j - i, by omega, ?_⟩
    have := @ancestorAt_add types i (j - i) t.id
    rw [show j - i + i = j by omega, hwj, hvi, Option.bind_some] at this
    rw [← this, ← hidw, ← heq, hidv]
  rcases Nat.lt_or_gt_of_ne hij with h | h
  · exact back i j h heq
  · exact back j i h heq.symm

section Cycles

variable (hnd : (types.map (·.id)).Nodup)
include hnd

/-- One step past its lineage, the chain of parents from a type ends. -/
theorem ancestorAt_length_eq_none {t : RuleType} {line : List RuleType}
    (h : Lineage types t line) (ht : t ∈ types) : ancestorAt types line.length t.id = none := by
  induction h with
  | @root t hp => simp [ancestorAt_one, parentOf_id hnd ht, hp]
  | @child t u line hp hu _ ih =>
    rw [List.length_append, List.length_singleton, ancestorAt_succ, parentOf_id hnd ht, hp,
      Option.bind_some, ih hu]

/-- A type on a cycle has no lineage. -/
theorem not_hasCycle_of_lineage (hall : ∀ t ∈ types, ∃ line, Lineage types t line) :
    ¬ HasCycle types := by
  rintro ⟨t, ht, k, hk, hcyc⟩
  obtain ⟨line, hl⟩ := hall t ht
  -- going round the cycle `n` times comes back to `t`
  have round : ∀ n, ancestorAt types (k * n) t.id = some t.id := by
    intro n
    induction n with
    | zero => rfl
    | succ n ih => rw [Nat.mul_succ, ancestorAt_add, hcyc, Option.bind_some, ih]
  have hend := ancestorAt_length_eq_none hnd hl ht
  have hpast : ancestorAt types (k * line.length) t.id = none := by
    have hle : line.length ≤ k * line.length := Nat.le_mul_of_pos_left _ hk
    rw [show k * line.length = (k * line.length - line.length) + line.length by omega,
      ancestorAt_add, hend]
    rfl
  rw [round] at hpast
  cases hpast

/-- Following parents from a type without a lineage never leaves such types. -/
theorem ancestorAt_without_lineage (hk : ∀ t ∈ types, ParentKnown types t) {t : RuleType}
    (ht : t ∈ types) (hl : ¬ ∃ line, Lineage types t line) :
    ∀ n, ∃ v ∈ types, ancestorAt types n t.id = some v.id ∧ ¬ ∃ line, Lineage types v line
  | 0 => ⟨t, ht, rfl, hl⟩
  | n + 1 => by
    obtain ⟨v, hv, hn, hvl⟩ := ancestorAt_without_lineage hk ht hl n
    obtain ⟨w, hw, hp, hwl⟩ := exists_parent_without_lineage hk hv hvl
    refine ⟨w, hw, ?_, hwl⟩
    rw [Nat.add_comm n 1, ancestorAt_add n 1, hn, Option.bind_some, ancestorAt_one,
      parentOf_id hnd hv, hp]

/-- **Cycles are what leaves types out.** When every parent is in the table, some type has
no lineage exactly when following parents from some type comes back to it. -/
theorem hasCycle_iff (hk : ∀ t ∈ types, ParentKnown types t) :
    HasCycle types ↔ ¬ ∀ t ∈ types, ∃ line, Lineage types t line := by
  constructor
  · exact fun hc hall => not_hasCycle_of_lineage hnd hall hc
  · intro hnot
    simp only [not_forall] at hnot
    obtain ⟨t, ht, hl⟩ := hnot
    refine hasCycle_of_walk t fun n => ?_
    obtain ⟨v, hv, hn, -⟩ := ancestorAt_without_lineage hnd hk ht hl n
    exact ⟨v, hv, hn⟩

end Cycles

end Inheritance

end Ruleset
