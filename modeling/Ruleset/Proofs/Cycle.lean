import Ruleset.Proofs.Resolve

/-!
# The cycle that resolution reports

When Kahn's pass leaves types out, resolution reports one cycle: it follows parents from the
first type, in table order, that the pass left out, until an id repeats, and lists the repeated
part in table order (`findCycle`, `walkToCycle`). For a table whose ids are distinct and whose
parents all belong to it, this module says what that list is and what the order is otherwise.

* `CycleSegment types s j n` — following parents from `s`, step `n` comes back to what step
  `j` reached. The ids of the steps `j, …, n - 1` are then the orbit of each of them
  (`CycleSegment.orbit`), and each lies on a cycle (`CycleSegment.on_cycle`).
* `WalkFrom types s path x` — the walk's state: the ids of its first steps, all distinct, and
  the id it stands on. `walkToCycle_spec`: with more steps of fuel than the table has types,
  the walk comes back onto its path and answers the ids of the table on the repeated part.
* `ReportedCycle types c` — what the reported list is: non-empty, in table order and so
  without repeats, closed under parents, the orbit of each of its members, reached from the
  first type left out, and holding no type that only descends from a cycle.
* `resolutionOrder_spec` — resolution orders the table exactly when it has no cycle, and then
  lists every id once, parents first; otherwise it reports a cycle as above.
-/

namespace Ruleset

namespace Inheritance

variable {types : List RuleType}

instance (types : List RuleType) (t : RuleType) : Decidable (ParentKnown types t) :=
  decidable_of_iff (t.parent.all fun p => (types.map (·.id)).contains p) (by
    unfold ParentKnown
    cases t.parent <;> simp)

/-! ## Going round a cycle -/

/-- Following parents from `s`, step `n` reaches what step `j` reached, an id, with `j < n`. -/
structure CycleSegment (types : List RuleType) (s : String) (j n : Nat) : Prop where
  lt : j < n
  back : ancestorAt types n s = ancestorAt types j s
  reach : ∃ x, ancestorAt types j s = some x

namespace CycleSegment

variable {s : String} {j n : Nat} (h : CycleSegment types s j n)
include h

/-- From step `j` on, the walk repeats itself every `n - j` steps. -/
theorem add_period {l : Nat} (hl : j ≤ l) :
    ancestorAt types (l + (n - j)) s = ancestorAt types l s :=
  have hlt := h.lt
  calc ancestorAt types (l + (n - j)) s
      = ancestorAt types (l - j + n) s := by congr 1; omega
    _ = (ancestorAt types n s).bind (ancestorAt types (l - j)) := ancestorAt_add n (l - j) s
    _ = (ancestorAt types j s).bind (ancestorAt types (l - j)) := by rw [h.back]
    _ = ancestorAt types (l - j + j) s := (ancestorAt_add j (l - j) s).symm
    _ = ancestorAt types l s := by congr 1; omega

/-- Every step from `j` on reaches what one of the steps `j, …, n - 1` reaches. -/
theorem exists_step (l : Nat) (hl : j ≤ l) :
    ∃ i, j ≤ i ∧ i < n ∧ ancestorAt types l s = ancestorAt types i s := by
  induction l using Nat.strong_induction_on with
  | _ l ih =>
    by_cases hln : l < n
    · exact ⟨l, hl, hln, rfl⟩
    · -- one period back is an earlier step, still from `j` on
      have hlt := h.lt
      obtain ⟨i, hji, hin, heq⟩ := ih (l - (n - j)) (by omega) (by omega)
      refine ⟨i, hji, hin, ?_⟩
      rw [← heq, ← h.add_period (l := l - (n - j)) (by omega)]
      congr 1
      omega

/-- **The steps `j, …, n - 1` are the orbit of each of them**: following parents from the id
one of these steps reaches meets exactly the ids these steps reach. -/
theorem orbit {i : Nat} (hji : j ≤ i) (hin : i < n) {x : String}
    (hx : ancestorAt types i s = some x) (y : String) :
    (∃ i', j ≤ i' ∧ i' < n ∧ ancestorAt types i' s = some y) ↔
      ∃ k, ancestorAt types k x = some y := by
  have step : ∀ k, ancestorAt types k x = ancestorAt types (k + i) s := by
    intro k
    rw [ancestorAt_add i k s, hx, Option.bind_some]
  constructor
  · rintro ⟨i', hji', hin', hy⟩
    by_cases hii : i ≤ i'
    · exact ⟨i' - i, by rw [step, Nat.sub_add_cancel hii, hy]⟩
    · -- once round the cycle to come back past `i`
      refine ⟨i' + (n - j) - i, ?_⟩
      rw [step, show i' + (n - j) - i + i = i' + (n - j) by omega, h.add_period hji', hy]
  · rintro ⟨k, hk⟩
    obtain ⟨i', hji', hin', heq⟩ := h.exists_step (k + i) (by omega)
    exact ⟨i', hji', hin', by rw [← heq, ← step, hk]⟩

/-- The id each step from `j` on reaches comes back to itself after `n - j` steps. -/
theorem on_cycle {i : Nat} (hji : j ≤ i) {x : String} (hx : ancestorAt types i s = some x) :
    ancestorAt types (n - j) x = some x := by
  have hround := @ancestorAt_add types i (n - j) s
  rw [hx, Option.bind_some] at hround
  rw [← hround, Nat.add_comm, h.add_period hji, hx]

end CycleSegment

/-! ## The walk -/

/-- The state of the walk from `s`: `path` lists the ids its first steps reached, all
distinct, and `x` is the id of the step after them. -/
structure WalkFrom (types : List RuleType) (s : String) (path : List String) (x : String) :
    Prop where
  nodup : path.Nodup
  steps : ∀ i (hi : i < path.length), ancestorAt types i s = some path[i]
  next : ancestorAt types path.length s = some x

theorem walkFrom_start (s : String) : WalkFrom types s [] s :=
  ⟨List.nodup_nil, fun _ hi => by simp at hi, rfl⟩

variable {s : String} {path : List String} {x : String}

/-- Stepping from an id not yet on the path to its parent. -/
theorem WalkFrom.step (hw : WalkFrom types s path x) (hx : x ∉ path) {p : String}
    (hp : parentOf types x = some p) : WalkFrom types s (path ++ [x]) p where
  nodup := List.nodup_append.2 ⟨hw.nodup, List.nodup_singleton x, fun a ha b hb hab => by
    rw [List.mem_singleton] at hb
    subst hb hab
    exact hx ha⟩
  steps i hi := by
    rw [List.length_append, List.length_singleton] at hi
    by_cases hlt : i < path.length
    · rw [List.getElem_append_left hlt]
      exact hw.steps i hlt
    · obtain rfl : i = path.length := by omega
      simpa using hw.next
  next := by
    rw [List.length_append, List.length_singleton, Nat.add_comm, ancestorAt_add, hw.next,
      Option.bind_some, ancestorAt_one, hp]

/-- The path lists ids of the table, once each, so it is never longer than the table. -/
theorem WalkFrom.length_le (hw : WalkFrom types s path x)
    (hall : ∀ k, ∃ v ∈ types, ancestorAt types k s = some v.id) :
    path.length ≤ types.length := by
  have hsub : path ⊆ types.map (·.id) := by
    intro y hy
    obtain ⟨i, hi, rfl⟩ := List.getElem_of_mem hy
    obtain ⟨v, hv, hvi⟩ := hall i
    rw [hw.steps i hi, Option.some.injEq] at hvi
    rw [hvi]
    exact List.mem_map_of_mem hv
  simpa using hw.nodup.length_le_of_subset hsub

/-- Back on its path at the id `x`, the walk has gone round a cycle: the part of the path from
`x` on lists the steps `j, …, n - 1` of the walk. -/
theorem WalkFrom.cycleSegment (hw : WalkFrom types s path x) (hx : x ∈ path) :
    CycleSegment types s (path.idxOf x) path.length ∧
      ∀ y, y ∈ path.drop (path.idxOf x) ↔
        ∃ i, path.idxOf x ≤ i ∧ i < path.length ∧ ancestorAt types i s = some y := by
  have hj : path.idxOf x < path.length := List.idxOf_lt_length_iff.2 hx
  have hxj : ancestorAt types (path.idxOf x) s = some x := by
    rw [hw.steps _ hj, List.getElem_idxOf hj]
  refine ⟨⟨hj, by rw [hw.next, hxj], ⟨x, hxj⟩⟩, fun y => ?_⟩
  rw [List.mem_drop_iff_getElem]
  constructor
  · rintro ⟨m, hm, rfl⟩
    exact ⟨path.idxOf x + m, by omega, by omega, hw.steps _ _⟩
  · rintro ⟨i, hji, hin, hy⟩
    refine ⟨i - path.idxOf x, by omega, ?_⟩
    rw [hw.steps i hin, Option.some.injEq] at hy
    simp only [show path.idxOf x + (i - path.idxOf x) = i by omega]
    exact hy

theorem walkToCycle_succ (fuel : Nat) (path : List String) (x : String) :
    walkToCycle types (fuel + 1) path x =
      if path.contains x then
        (types.filter fun t => (path.drop (path.idxOf x)).contains t.id).map (·.id)
      else
        match parentOf types x with
        | some p => walkToCycle types fuel (path ++ [x]) p
        | none => [] :=
  rfl

/-- **The walk finds a cycle.** When every step of the walk from `s` reaches a type of the
table, a walk with more fuel than the table has types beyond its path comes back onto its
path, and answers, in table order, the ids on the repeated part. -/
theorem walkToCycle_spec (hall : ∀ k, ∃ v ∈ types, ancestorAt types k s = some v.id) :
    ∀ (fuel : Nat) {path : List String} {x : String}, WalkFrom types s path x →
      types.length < path.length + fuel →
      ∃ j n, ∃ cyc : List String, CycleSegment types s j n ∧
        (∀ y, y ∈ cyc ↔ ∃ i, j ≤ i ∧ i < n ∧ ancestorAt types i s = some y) ∧
        walkToCycle types fuel path x = (types.filter fun t => cyc.contains t.id).map (·.id)
  | 0, _, _, hw, hfuel => absurd (hw.length_le hall) (by omega)
  | fuel + 1, path, x, hw, hfuel => by
    rw [walkToCycle_succ]
    by_cases hx : x ∈ path
    · obtain ⟨hseg, hmem⟩ := hw.cycleSegment hx
      exact ⟨_, _, _, hseg, hmem, by rw [if_pos (List.contains_iff_mem.2 hx)]⟩
    · -- a new id: the walk goes on to its parent, which the next step reaches
      obtain ⟨w, -, hwk⟩ := hall (path.length + 1)
      have hp : parentOf types x = some w.id := by
        rw [← hwk, Nat.add_comm, ancestorAt_add, hw.next, Option.bind_some, ancestorAt_one]
      rw [if_neg (by simpa using hx), hp]
      exact walkToCycle_spec hall fuel (hw.step hx hp) (by simp; omega)

/-! ## The reported cycle -/

/-- What resolution reports as the cycle `c` of the table: a non-empty list in table order
(so without repeats), closed under parents and the orbit of each of its members, reached by
following parents from the first type, in table order, that Kahn's pass leaves out; and no type
that only descends from a cycle is in it. -/
structure ReportedCycle (types : List RuleType) (c : List String) : Prop where
  ne_nil : c ≠ []
  sublist : c.Sublist (types.map (·.id))
  nodup : c.Nodup
  closed : ∀ x ∈ c, ∀ p, parentOf types x = some p → p ∈ c
  orbit : ∀ x ∈ c, ∀ y, y ∈ c ↔ ∃ k, ancestorAt types k x = some y
  reached : ∃ pre t post, types = pre ++ t :: post ∧ (∀ u ∈ pre, u.id ∈ kahnOrder types) ∧
    t.id ∉ kahnOrder types ∧ ∃ k y, ancestorAt types k t.id = some y ∧ y ∈ c
  not_descendant : ∀ x, (¬ ∃ k, 0 < k ∧ ancestorAt types k x = some x) → x ∉ c

theorem mem_filter_contains {cyc : List String} {y : String} :
    y ∈ (types.filter fun t => cyc.contains t.id).map (·.id) ↔
      y ∈ types.map (·.id) ∧ y ∈ cyc := by
  simp only [List.mem_map, List.mem_filter, List.contains_iff_mem]
  constructor
  · rintro ⟨t, ⟨ht, hc⟩, rfl⟩
    exact ⟨⟨t, ht, rfl⟩, hc⟩
  · rintro ⟨⟨t, ht, rfl⟩, hc⟩
    exact ⟨t, ⟨ht, hc⟩, rfl⟩

/-- The ids of the table on a cycle segment of a walk that stays in the table form a reported
cycle, once the walk starts at the first type left out. -/
theorem reportedCycle_of_segment {pre post : List RuleType} {t : RuleType}
    (hnd : (types.map (·.id)).Nodup) (ht : types = pre ++ t :: post)
    (hpre : ∀ u ∈ pre, u.id ∈ kahnOrder types) (hout : t.id ∉ kahnOrder types)
    (hall : ∀ k, ∃ v ∈ types, ancestorAt types k t.id = some v.id) {j n : Nat}
    {cyc : List String} (hseg : CycleSegment types t.id j n)
    (hcyc : ∀ y, y ∈ cyc ↔ ∃ i, j ≤ i ∧ i < n ∧ ancestorAt types i t.id = some y) :
    ReportedCycle types ((types.filter fun u => cyc.contains u.id).map (·.id)) := by
  -- a member is an id some step `j, …, n - 1` reaches: those are ids of the table
  have hmem : ∀ y, y ∈ (types.filter fun u => cyc.contains u.id).map (·.id) ↔
      ∃ i, j ≤ i ∧ i < n ∧ ancestorAt types i t.id = some y := by
    intro y
    rw [mem_filter_contains, ← hcyc]
    constructor
    · exact fun h => h.2
    · intro hy
      obtain ⟨i, -, -, hi⟩ := (hcyc y).1 hy
      obtain ⟨v, hv, hvi⟩ := hall i
      rw [hi, Option.some.injEq] at hvi
      exact ⟨hvi ▸ List.mem_map_of_mem hv, hy⟩
  have horbit : ∀ x ∈ (types.filter fun u => cyc.contains u.id).map (·.id), ∀ y,
      y ∈ (types.filter fun u => cyc.contains u.id).map (·.id) ↔
        ∃ k, ancestorAt types k x = some y := by
    intro x hx y
    obtain ⟨i, hji, hin, hxi⟩ := (hmem x).1 hx
    rw [hmem]
    exact hseg.orbit hji hin hxi y
  obtain ⟨x, hx⟩ := hseg.reach
  have hxm := (hmem x).2 ⟨j, le_refl j, hseg.lt, hx⟩
  have hsub := (List.filter_sublist (p := fun u => cyc.contains u.id) (l := types)).map (·.id)
  refine
    { ne_nil := List.ne_nil_of_mem hxm
      sublist := hsub
      nodup := hnd.sublist hsub
      closed := fun y hy p hp => (horbit y hy p).2 ⟨1, hp⟩
      orbit := horbit
      reached := ⟨pre, t, post, ht, hpre, hout, j, x, hx, hxm⟩
      not_descendant := fun y hnot hy => hnot ?_ }
  obtain ⟨i, hji, -, hyi⟩ := (hmem y).1 hy
  exact ⟨n - j, by have := hseg.lt; omega, hseg.on_cycle hji hyi⟩

/-- With every parent in the table, resolution refuses exactly a short order, and then with the
cycle the walk finds. -/
theorem resolutionOrder_eq (hk : ∀ t ∈ types, ParentKnown types t) :
    resolutionOrder types =
      if (kahnOrder types).length < types.length then
        .error (.cycle (findCycle types (kahnOrder types)))
      else .ok (kahnOrder types) := by
  rw [resolutionOrder, firstMissingParent_eq_none_iff.2 hk]

/-- A complete order lists every id of the table exactly once. -/
theorem kahnOrder_perm (hnd : (types.map (·.id)).Nodup)
    (hlen : ¬ (kahnOrder types).length < types.length) :
    (kahnOrder types).Perm (types.map (·.id)) :=
  (List.subperm_of_subset (kahnOrder_nodup hnd) fun _ hx =>
    mem_ids_of_mem_kahnOrder hnd hx).perm_of_length_le (by simp; omega)

section Reported

variable (hnd : (types.map (·.id)).Nodup) (hk : ∀ t ∈ types, ParentKnown types t)
include hnd hk

/-- When the order falls short of the table, the cycle reported is one. -/
theorem findCycle_reported (hlen : (kahnOrder types).length < types.length) :
    ReportedCycle types (findCycle types (kahnOrder types)) := by
  -- some type is left out, else the order would hold every id of the table
  cases hf : types.find? fun t => !(kahnOrder types).contains t.id with
  | none =>
    have hall : types.map (·.id) ⊆ kahnOrder types := by
      intro y hy
      obtain ⟨t, ht, rfl⟩ := List.mem_map.1 hy
      simpa using List.find?_eq_none.1 hf t ht
    have := hnd.length_le_of_subset hall
    simp at this
    omega
  | some t =>
    obtain ⟨hout, pre, post, ht, hpre⟩ := List.find?_eq_some_iff_append.1 hf
    have hout' : t.id ∉ kahnOrder types := by simpa using hout
    have htm : t ∈ types := by simp [ht]
    -- the type left out has no lineage, so the walk from it never leaves such types
    have hnl : ¬ ∃ line, Lineage types t line := fun ⟨_, hl⟩ =>
      hout' (mem_kahnOrder_of_lineage hnd hl htm)
    have hall : ∀ k, ∃ v ∈ types, ancestorAt types k t.id = some v.id := fun k => by
      obtain ⟨v, hv, hvk, -⟩ := ancestorAt_without_lineage hnd hk htm hnl k
      exact ⟨v, hv, hvk⟩
    obtain ⟨j, n, cyc, hseg, hcyc, hwalk⟩ :=
      walkToCycle_spec hall (types.length + 1) (walkFrom_start t.id) (by simp)
    have hcycle : findCycle types (kahnOrder types) =
        (types.filter fun u => cyc.contains u.id).map (·.id) := by
      simp only [findCycle, hf]
      exact hwalk
    rw [hcycle]
    exact reportedCycle_of_segment hnd ht (fun u hu => by simpa using hpre u hu) hout' hall hseg
      hcyc

/-- **Kahn ordering and cycle extraction.** For a table whose ids are distinct and whose
parents are all in it, resolution orders the table exactly when following parents never comes
back to a type; the order then lists every id once, each parent before its children.
Otherwise the refusal reports a cycle: non-empty, in table order, closed under parents, the
orbit of each of its members, the one reached from the first type left out, and holding no
type that only descends from a cycle. -/
theorem resolutionOrder_spec :
    ((∃ order, resolutionOrder types = .ok order) ↔ ¬ HasCycle types) ∧
      (∀ order, resolutionOrder types = .ok order →
        order.Perm (types.map (·.id)) ∧ ParentsFirst types [] order) ∧
      ∀ e, resolutionOrder types = .error e → ∃ c, e = .cycle c ∧ ReportedCycle types c := by
  rw [resolutionOrder_eq hk, hasCycle_iff_length_lt hnd hk]
  by_cases hlen : (kahnOrder types).length < types.length
  · simp only [hlen, if_true, reduceCtorEq, exists_false, not_true_eq_false, iff_self,
      false_imp_iff, implies_true, Except.error.injEq, true_and]
    intro e he
    exact ⟨_, he.symm, findCycle_reported hnd hk hlen⟩
  · simp only [hlen, if_false, Except.ok.injEq, exists_eq', not_false_eq_true, iff_self,
      reduceCtorEq, false_imp_iff, implies_true, and_true, true_and]
    rintro order rfl
    exact ⟨kahnOrder_perm hnd hlen, kahnOrder_parentsFirst hnd⟩

end Reported

/-- The table of a three-type cycle `a → c → b → a` with `d` below `a` and a root `e`. -/
def cycleSample : List RuleType :=
  [{ RuleType.new "a" "unit-type" "unit-types" 0 with parent := some "c" },
   { RuleType.new "b" "unit-type" "unit-types" 1 with parent := some "a" },
   { RuleType.new "c" "unit-type" "unit-types" 2 with parent := some "b" },
   { RuleType.new "d" "unit-type" "unit-types" 3 with parent := some "a" },
   RuleType.new "e" "unit-type" "unit-types" 4]

theorem cycleSample_spec :
    (cycleSample.map (·.id)).Nodup ∧ (∀ t ∈ cycleSample, ParentKnown cycleSample t) ∧
      ((∃ order, resolutionOrder cycleSample = .ok order) ↔ ¬ HasCycle cycleSample) ∧
      (∀ order, resolutionOrder cycleSample = .ok order →
        order.Perm (cycleSample.map (·.id)) ∧ ParentsFirst cycleSample [] order) ∧
      ∀ e, resolutionOrder cycleSample = .error e →
        ∃ c, e = .cycle c ∧ ReportedCycle cycleSample c := by
  have hnd : (cycleSample.map (·.id)).Nodup := by decide
  have hk : ∀ t ∈ cycleSample, ParentKnown cycleSample t := by decide
  exact ⟨hnd, hk, resolutionOrder_spec hnd hk⟩

end Inheritance

end Ruleset
