import Ruleset.Proofs.TableOrder
import Ruleset.Proofs.Redefine
import Ruleset.Proofs.Session

/-!
# Independent documents load in either order

A declaration reads and changes only the type under its own id; which types come before it
decides nothing but the load index of a type it creates. So two documents that declare
disjoint sets of ids load, in either order, into registries with the same types up to index,
and those finalize together into registries that agree in everything but indexes and order.
In particular a child may be loaded before the parent it extends.

* `Registry.typeView` — the type a registry holds under an id, up to its load index.
* `typeView_declare`, `typeView_declareAll` — a declaration changes the view of its own id
  only, so after a list of declarations the view of an id is a fold over the declarations
  naming it (`declaredView`).
* `typeView_declareAll_comm` — declarations of disjoint ids commute in the view;
  `perm_of_typeView` — and the view of a table with distinct ids determines its types up to
  index and order.
* `finalize_loads_commute` — the whole statement, for two valid documents loaded into a
  reachable loading registry.
-/

namespace Ruleset

namespace RuleType

variable {o : LoadOptions} {c : String} {d : Declaration}

@[simp] theorem id_created (n : Nat) : (created c d n).id = d.id := rfl

@[simp] theorem unindexed_created (n : Nat) : (created c d n).unindexed = created c d 0 := rfl

theorem unindexed_apply (t : RuleType) (e : Edit) : (t.apply e).unindexed = t.unindexed.apply e := by
  cases e <;> rfl

theorem unindexed_foldl_apply (es : List Edit) (t : RuleType) :
    (es.foldl apply t).unindexed = es.foldl apply t.unindexed := by
  induction es generalizing t with
  | nil => rfl
  | cons e es ih => simp only [List.foldl_cons, ih, unindexed_apply]

theorem unindexed_reload (t : RuleType) : (t.reload o c d).unindexed = t.unindexed.reload o c d := by
  unfold reload
  split <;> rfl

/-- What a declaration makes of the type under its id, up to the load index: the known type
reloaded, or a new type, and then the children applied. -/
def declaredAs (o : LoadOptions) (c : String) (d : Declaration) : Option RuleType → RuleType
  | none => d.children.foldl apply (created c d 0)
  | some u => d.children.foldl apply (u.reload o c d)

end RuleType

namespace Registry

open RuleType Inheritance

/-- The type a registry holds under an id, up to its load index. -/
def typeView (r : Registry) (x : String) : Option RuleType := (r.find x).map unindexed

/-- The type under an id, up to its load index, after declarations that all name it, from
what was there before. -/
def declaredView (o : LoadOptions) (ds : List (String × Declaration)) (v : Option RuleType) :
    Option RuleType :=
  ds.foldl (fun v p => some (declaredAs o p.1 p.2 v)) v

/-! ## One declaration, one id -/

theorem find?_update {types : List RuleType} {y : String} {f : RuleType → RuleType}
    (hf : ∀ t, (f t).id = t.id) (x : String) :
    (update types y f).find? (·.id == x) =
      if y = x then (types.find? (·.id == x)).map f else types.find? (·.id == x) := by
  unfold update
  rw [List.find?_map]
  have hp : ((·.id == x) ∘ fun t : RuleType => if t.id == y then f t else t) = (·.id == x) := by
    funext t
    by_cases h : t.id = y <;> simp [h, hf]
  rw [hp]
  cases hfind : types.find? (·.id == x) with
  | none => simp
  | some t =>
    have ht : t.id = x := by simpa using List.find?_some hfind
    by_cases hyx : y = x
    · simp [ht, hyx]
    · simp [ht, hyx, Ne.symm hyx]

/-- **A declaration changes the view of its own id only**, to what it makes of the type
there before. -/
theorem typeView_declare (r : Registry) (c : String) (d : Declaration) (x : String) :
    (r.declare c d).1.typeView x =
      if d.id = x then some (declaredAs r.options c d (r.typeView x)) else r.typeView x := by
  unfold typeView find
  cases hf : r.types.find? (·.id == d.id) with
  | none =>
    rw [declare_fst_of_find_none hf]
    simp only [List.find?_append]
    by_cases hx : d.id = x
    · subst hx
      simp [hf, declaredAs, id_foldl_apply, unindexed_foldl_apply]
    · simp [hx, id_foldl_apply]
  | some u =>
    rw [declare_fst_of_find_some hf]
    simp only
    rw [find?_update (fun t => by rw [id_foldl_apply, id_reload])]
    by_cases hx : d.id = x
    · subst hx
      simp [hf, declaredAs, unindexed_foldl_apply, unindexed_reload]
    · simp [hx]

/-- After a list of declarations, the view of an id is the fold of what the declarations
naming it make, in order, from the view before. -/
theorem typeView_declareAll (r : Registry) (ds : List (String × Declaration)) (x : String) :
    (r.declareAll ds).typeView x =
      declaredView r.options (ds.filter (·.2.id == x)) (r.typeView x) := by
  induction ds generalizing r with
  | nil => rfl
  | cons p ds ih =>
    rw [declareAll_cons, ih, options_declare, typeView_declare, List.filter_cons]
    by_cases hx : p.2.id = x
    · simp [hx, declaredView]
    · simp [hx]

/-- **Declarations of disjoint ids commute**, up to load indexes: for each id, at most one
of the two lists names it. -/
theorem typeView_declareAll_comm (r : Registry) {ds es : List (String × Declaration)}
    (hdisj : ∀ p ∈ ds, ∀ q ∈ es, p.2.id ≠ q.2.id) (x : String) :
    (r.declareAll (ds ++ es)).typeView x = (r.declareAll (es ++ ds)).typeView x := by
  rw [typeView_declareAll, typeView_declareAll, List.filter_append, List.filter_append]
  by_cases h : ∃ p ∈ ds, p.2.id = x
  · obtain ⟨p, hp, rfl⟩ := h
    have hes : es.filter (·.2.id == p.2.id) = [] :=
      List.filter_eq_nil_iff.2 fun q hq => by simpa using (hdisj p hp q hq).symm
    rw [hes, List.append_nil, List.nil_append]
  · have hds : ds.filter (·.2.id == x) = [] :=
      List.filter_eq_nil_iff.2 fun p hp => by simpa using fun e => h ⟨p, hp, e⟩
    rw [hds, List.append_nil, List.nil_append]

/-! ## From views to tables -/

theorem mem_map_unindexed_iff {l : List RuleType} (hnd : (l.map (·.id)).Nodup) (y : RuleType) :
    y ∈ l.map unindexed ↔ (l.find? (·.id == y.id)).map unindexed = some y := by
  constructor
  · intro hy
    obtain ⟨t, ht, rfl⟩ := List.mem_map.1 hy
    rw [id_unindexed, find?_id hnd ht]
    rfl
  · intro hy
    obtain ⟨t, ht, rfl⟩ := Option.map_eq_some_iff.1 hy
    exact List.mem_map_of_mem (List.mem_of_find?_eq_some ht)

/-- Two tables with distinct ids and the same views hold the same types up to index. -/
theorem perm_of_typeView {r₁ r₂ : Registry} (hnd₁ : (r₁.types.map (·.id)).Nodup)
    (hnd₂ : (r₂.types.map (·.id)).Nodup) (h : ∀ x, r₁.typeView x = r₂.typeView x) :
    (r₁.types.map unindexed).Perm (r₂.types.map unindexed) := by
  rw [List.perm_ext_iff_of_nodup (nodup_map_unindexed hnd₁) (nodup_map_unindexed hnd₂)]
  intro y
  have hy := h y.id
  unfold typeView find at hy
  rw [mem_map_unindexed_iff hnd₁, mem_map_unindexed_iff hnd₂, hy]

/-- Declarations of disjoint ids, in either order, give registries with the same types up to
index. -/
theorem sameUpToIndex_declareAll_comm {r : Registry} {D : List String} (hi : LoadingInv D r)
    {ds es : List (String × Declaration)} (hdisj : ∀ p ∈ ds, ∀ q ∈ es, p.2.id ≠ q.2.id) :
    SameUpToIndex (r.declareAll (ds ++ es)) (r.declareAll (es ++ ds)) := by
  have hA : LoadingInv _ (r.declareAll (ds ++ es)) := hi.foldl_declare (ds ++ es)
  have hB : LoadingInv _ (r.declareAll (es ++ ds)) := hi.foldl_declare (es ++ ds)
  have htypes := perm_of_typeView hA.nodup_ids hB.nodup_ids (typeView_declareAll_comm r hdisj)
  refine ⟨htypes, by rw [hA.purged, hB.purged], fun a => ?_, fun m => ?_, ?_, ?_, ?_⟩
  · rw [typesWithAbility, typesWithAbility, hA.abilityIndex, hB.abilityIndex]
  · rw [typesWithModifier, typesWithModifier, hA.modifierIndex, hB.modifierIndex]
  · rw [hA.nextIndex, hB.nextIndex]
    simpa using htypes.length_eq
  · rw [hA.phase, hB.phase]
  · rw [options_declareAll, options_declareAll]

/-! ## Loading two documents -/

/-- **Independent documents load in either order.** Into a reachable loading registry, two
valid documents whose declarations name disjoint sets of ids load one after the other in
both orders. The two registries reached hold the same types up to index; finalize succeeds
on one exactly when it succeeds on the other; and the finalized registries hold the same
types and set-aside types up to index, each type with all its fields but the index, and the
same types for each ability and modifier, up to order. -/
theorem finalize_loads_commute {S : Registry} (hS : S.Reachable) (hl : S.phase = .loading)
    {D₁ D₂ : Document} (hv₁ : D₁.validate = .ok ()) (hv₂ : D₂.validate = .ok ())
    (hdisj : ∀ p ∈ D₁.declarations, ∀ q ∈ D₂.declarations, p.2.id ≠ q.2.id) :
    ∃ A B, (∃ S₁ rep₁ rep₂, S.load D₁ = .ok (S₁, rep₁) ∧ S₁.load D₂ = .ok (A, rep₂)) ∧
      (∃ S₂ rep₁ rep₂, S.load D₂ = .ok (S₂, rep₁) ∧ S₂.load D₁ = .ok (B, rep₂)) ∧
      SameUpToIndex A B ∧ ((∃ F, A.finalize = .ok F) ↔ ∃ G, B.finalize = .ok G) ∧
      ∀ F G, A.finalize = .ok F → B.finalize = .ok G → SameUpToIndex F G := by
  obtain ⟨D, hi⟩ := hS.loadingInv hl
  have hl₁ : (S.merge D₁).1.phase = .loading :=
    (hi.load (load_eq_ok_of_validate hl hv₁)).phase
  have hl₂ : (S.merge D₂).1.phase = .loading :=
    (hi.load (load_eq_ok_of_validate hl hv₂)).phase
  refine ⟨((S.merge D₁).1.merge D₂).1, ((S.merge D₂).1.merge D₁).1,
    ⟨(S.merge D₁).1, (S.merge D₁).2, ((S.merge D₁).1.merge D₂).2,
      load_eq_ok_of_validate hl hv₁, load_eq_ok_of_validate hl₁ hv₂⟩,
    ⟨(S.merge D₂).1, (S.merge D₂).2, ((S.merge D₂).1.merge D₁).2,
      load_eq_ok_of_validate hl hv₂, load_eq_ok_of_validate hl₂ hv₁⟩, ?_⟩
  -- both loads declare the two documents' declarations, in the two orders
  rw [merge_fst_eq_declareAll, merge_fst_eq_declareAll, merge_fst_eq_declareAll,
    merge_fst_eq_declareAll, ← declareAll_append, ← declareAll_append]
  have hsame := sameUpToIndex_declareAll_comm hi hdisj
  exact ⟨hsame, hsame.finalize (hi.foldl_declare _) (hi.foldl_declare _)⟩

/-- A root type with an ability. -/
def rootDoc : Document :=
  { sections := [{ types := [{ id := "root", children := [.addAbility { id := "x" }] }] }] }

/-- A child of `a`, with a modifier, declared before its parent. -/
def childDoc : Document :=
  { sections := [{ types := [{
      id := "b"
      parent := some "a"
      children := [.addModifier { id := "m", value := Binary32.hundred }] }] }] }

/-- The parent `a`, itself a child of the root. -/
def parentDoc : Document :=
  { sections := [{ types := [{ id := "a", parent := some "root" }] }] }

/-- The registry after loading `rootDoc`. -/
def rootLoaded : Registry := (withOptions {}).run [.load rootDoc]

theorem childFirst_loads_commute :
    rootLoaded.Reachable ∧ rootLoaded.phase = .loading ∧ childDoc.validate = .ok () ∧
      parentDoc.validate = .ok () ∧
      (∀ p ∈ childDoc.declarations, ∀ q ∈ parentDoc.declarations, p.2.id ≠ q.2.id) ∧
      ∃ A B, (∃ S₁ rep₁ rep₂, rootLoaded.load childDoc = .ok (S₁, rep₁) ∧
          S₁.load parentDoc = .ok (A, rep₂)) ∧
        (∃ S₂ rep₁ rep₂, rootLoaded.load parentDoc = .ok (S₂, rep₁) ∧
          S₂.load childDoc = .ok (B, rep₂)) ∧
        SameUpToIndex A B ∧ ((∃ F, A.finalize = .ok F) ↔ ∃ G, B.finalize = .ok G) ∧
        ∀ F G, A.finalize = .ok F → B.finalize = .ok G → SameUpToIndex F G := by
  have hS : rootLoaded.Reachable := ⟨{}, _, rfl⟩
  have hl : rootLoaded.phase = .loading := by decide
  have hv₁ : childDoc.validate = .ok () := by decide
  have hv₂ : parentDoc.validate = .ok () := by decide
  have hdisj : ∀ p ∈ childDoc.declarations, ∀ q ∈ parentDoc.declarations, p.2.id ≠ q.2.id := by
    decide
  exact ⟨hS, hl, hv₁, hv₂, hdisj, finalize_loads_commute hS hl hv₁ hv₂ hdisj⟩

end Registry

end Ruleset
