import Ruleset.Registry.Session
import Ruleset.Proofs.Resolve

/-!
# Loading

What a registry looks like while it loads, after the declarations `D` were merged into an
empty one (`LoadingInv D r`): the table lists the declared ids once each, in order of first
declaration (`D.eraseDups`); the `k`-th type of the table has load index `k`, and the next
index is the table's length; nothing is set aside or indexed; and every add the table has
logged carries a source.

* `RuleType.Keeps f` — a change of one type that keeps its id and load index and logs only
  sourced adds. Applying a child, patching and redefining are such changes.
* `declareHeader_new`, `declareHeader_known` — the two things a declaration's header does:
  append a fresh type at the next index, or change the known one in place.
* `LoadingInv.declare`, `LoadingInv.load` — merging a declaration, and loading a document,
  keep the invariant, with the declared ids appended to `D`.
-/

namespace Ruleset

/-! ## Ids in order of first declaration -/

section Created

variable {α : Type} [DecidableEq α]

theorem eraseDups_append_singleton (D : List α) (x : α) :
    (D ++ [x]).eraseDups = D.eraseDups ++ if x ∈ D then [] else [x] := by
  rw [List.eraseDups_append]
  by_cases hx : x ∈ D <;> simp [hx, List.removeAll, List.eraseDups_cons]

theorem nodup_eraseDups (D : List α) : D.eraseDups.Nodup := by
  induction D using List.reverseRecOn with
  | nil => simp
  | append_singleton D x ih =>
    rw [eraseDups_append_singleton]
    by_cases hx : x ∈ D
    · simpa [hx] using ih
    · simp only [hx, if_false]
      refine List.nodup_append.2 ⟨ih, List.nodup_singleton x, ?_⟩
      intro y hy z hz
      rw [List.mem_singleton] at hz
      subst hz
      rintro rfl
      exact hx (List.mem_eraseDups.1 hy)

/-- Declaring ids that were all declared before creates nothing. -/
theorem eraseDups_append_of_subset (D E : List α) (h : ∀ x ∈ E, x ∈ D) :
    (D ++ E).eraseDups = D.eraseDups := by
  have hnone : E.removeAll D = [] := by
    simp only [List.removeAll, List.filter_eq_nil_iff, Bool.not_eq_true', List.elem_eq_mem,
      decide_eq_false_iff_not, not_not]
    exact h
  rw [List.eraseDups_append, hnone]
  simp

theorem eraseDups_isPrefix_append (D E : List α) : D.eraseDups <+: (D ++ E).eraseDups := by
  rw [List.eraseDups_append]
  exact List.prefix_append _ _

end Created

/-! ## Sourced logs -/

/-- Every add the type has logged names where it comes from. -/
def RuleType.Sourced (t : RuleType) : Prop :=
  ∀ e ∈ t.edits, e.isAdd = true → ∃ kind s, e.sourceRef = some (kind, s)

theorem Edit.sourceRef_withSource {e : Edit} (he : e.isAdd = true) (id : String) :
    ∃ kind s, (e.withSource id).sourceRef = some (kind, s) := by
  cases e with
  | addAbility a => exact ⟨_, _, rfl⟩
  | addModifier m => exact ⟨_, _, rfl⟩
  | deleteAbility _ | deleteModifier _ | scope _ | unknown _ => cases he

theorem Edit.isAdd_withSource (e : Edit) (id : String) : (e.withSource id).isAdd = e.isAdd := by
  cases e <;> rfl

namespace RuleType

@[simp] theorem id_apply (t : RuleType) (e : Edit) : (t.apply e).id = t.id := by
  cases e <;> rfl

@[simp] theorem index_apply (t : RuleType) (e : Edit) : (t.apply e).index = t.index := by
  cases e <;> rfl

/-- A child is logged as it is stored, with its source filled in. -/
theorem edits_apply (t : RuleType) (e : Edit) :
    (t.apply e).edits = t.edits ++ if e.isUnknown then [] else [e.withSource t.id] := by
  cases e with
  | unknown _ => simp [RuleType.apply, Edit.isUnknown]
  | _ => rfl

theorem Sourced.apply {t : RuleType} (ht : t.Sourced) (e : Edit) : (t.apply e).Sourced := by
  intro e' he' hadd
  rw [edits_apply, List.mem_append] at he'
  rcases he' with he' | he'
  · exact ht e' he' hadd
  · split at he'
    · cases he'
    · rw [List.mem_singleton] at he'
      subst he'
      rw [Edit.isAdd_withSource] at hadd
      exact Edit.sourceRef_withSource hadd t.id

theorem Sourced.of_subset {t u : RuleType} (ht : t.Sourced) (h : u.edits ⊆ t.edits) :
    u.Sourced :=
  fun e he hadd => ht e (h he) hadd

/-- A change of one type that keeps its id and load index and logs only sourced adds. -/
structure Keeps (f : RuleType → RuleType) : Prop where
  id : ∀ t, (f t).id = t.id
  index : ∀ t, (f t).index = t.index
  sourced : ∀ t, t.Sourced → (f t).Sourced

theorem keeps_foldl_apply (es : List Edit) : Keeps fun t => es.foldl RuleType.apply t := by
  induction es with
  | nil => exact ⟨fun _ => rfl, fun _ => rfl, fun _ h => h⟩
  | cons e rest ih =>
    refine ⟨fun t => ?_, fun t => ?_, fun t ht => ?_⟩
    · rw [List.foldl_cons, ih.id, id_apply]
    · rw [List.foldl_cons, ih.index, index_apply]
    · exact ih.sourced _ (ht.apply e)

end RuleType

open RuleType

namespace Registry

variable {r : Registry} {D : List String}

theorem find_eq_none_iff (r : Registry) (x : String) :
    r.find x = none ↔ x ∉ r.types.map (·.id) := by
  simp [find, List.find?_eq_none]

theorem map_update {β : Type} (types : List RuleType) (x : String) {f : RuleType → RuleType}
    (g : RuleType → β) (hg : ∀ t, g (f t) = g t) : (update types x f).map g = types.map g := by
  unfold update
  rw [List.map_map]
  apply List.map_congr_left
  intro t _
  by_cases h : t.id = x <;> simp [h, hg]

theorem sourced_update {types : List RuleType} (hs : ∀ t ∈ types, t.Sourced) (x : String)
    {f : RuleType → RuleType} (hf : Keeps f) : ∀ t ∈ update types x f, t.Sourced := by
  intro t ht
  obtain ⟨u, hu, rfl⟩ := Inheritance.mem_update ht
  split
  · exact hf.sourced u (hs u hu)
  · exact hs u hu

/-! ## A declaration's header -/

theorem declareHeader_new {c : String} {d : Declaration} (h : r.find d.id = none) :
    ∃ t : RuleType, t.id = d.id ∧ t.index = r.nextIndex ∧ t.edits = [] ∧
      (r.declareHeader c d).1 = { r with types := r.types ++ [t], nextIndex := r.nextIndex + 1 } :=
  ⟨{ RuleType.new d.id d.tag c r.nextIndex with
      isAbstract := d.isAbstract.getD false, parent := d.parent }, rfl, rfl, rfl,
    by simp [declareHeader, h]⟩

theorem declareHeader_known {c : String} {d : Declaration} {u : RuleType}
    (h : r.find d.id = some u) :
    ∃ f, Keeps f ∧ (r.declareHeader c d).1 = { r with types := update r.types d.id f } := by
  unfold declareHeader
  simp only [h]
  split
  · -- a patch touches the abstract flag and the parent only
    refine ⟨fun t =>
      { t with isAbstract := d.isAbstract.getD t.isAbstract, parent := d.parent <|> t.parent },
      ⟨fun _ => rfl, fun _ => rfl, fun _ ht => ht⟩, rfl⟩
  · -- a redefinition forgets the cleared kinds of the log
    refine ⟨fun t =>
      { t.clearFor r.options.redefineClears with
        tag := d.tag, category := c, isAbstract := d.isAbstract.getD false, parent := d.parent },
      ⟨fun _ => rfl, fun _ => rfl, fun t ht => ?_⟩, rfl⟩
    exact ht.of_subset fun e he => List.mem_of_mem_filter he

theorem declare_fst (r : Registry) (c : String) (d : Declaration) :
    (r.declare c d).1 = { (r.declareHeader c d).1 with
      types := update (r.declareHeader c d).1.types d.id fun t =>
        d.children.foldl RuleType.apply t } :=
  rfl

theorem merge_fst (r : Registry) (doc : Document) :
    (r.merge doc).1 = doc.declarations.foldl (fun r p => (r.declare p.1 p.2).1) r := by
  unfold merge
  generalize ({} : LoadReport) = report
  induction doc.declarations generalizing r report with
  | nil => rfl
  | cons p rest ih => exact ih _ _

/-! ## The loading invariant -/

/-- A registry while it loads, after the ids `D` were declared into an empty one. -/
structure LoadingInv (D : List String) (r : Registry) : Prop where
  phase : r.phase = .loading
  purged : r.purged = []
  abilityIndex : r.abilityIndex = {}
  modifierIndex : r.modifierIndex = {}
  ids : r.types.map (·.id) = D.eraseDups
  indices : r.types.map (·.index) = List.range r.types.length
  nextIndex : r.nextIndex = r.types.length
  sourced : ∀ t ∈ r.types, t.Sourced

theorem loadingInv_withOptions (o : LoadOptions) : LoadingInv [] (withOptions o) :=
  ⟨rfl, rfl, rfl, rfl, rfl, rfl, rfl, fun _ h => nomatch h⟩

theorem LoadingInv.congr {D' : List String} (hi : LoadingInv D r)
    (h : D'.eraseDups = D.eraseDups) : LoadingInv D' r :=
  { hi with ids := hi.ids.trans h.symm }

theorem LoadingInv.mem_ids_iff (hi : LoadingInv D r) (x : String) :
    x ∈ r.types.map (·.id) ↔ x ∈ D := by
  rw [hi.ids, List.mem_eraseDups]

theorem LoadingInv.update (hi : LoadingInv D r) (x : String) {f : RuleType → RuleType}
    (hf : Keeps f) : LoadingInv D { r with types := Registry.update r.types x f } := by
  have hlen : (Registry.update r.types x f).length = r.types.length := List.length_map _
  refine { hi with ids := ?_, indices := ?_, nextIndex := ?_, sourced := ?_ }
  · rw [map_update _ _ _ hf.id]
    exact hi.ids
  · rw [map_update _ _ _ hf.index, hlen]
    exact hi.indices
  · rw [hlen]
    exact hi.nextIndex
  · exact sourced_update hi.sourced x hf

/-- A fresh type goes last, with the next index. -/
theorem LoadingInv.append (hi : LoadingInv D r) {t : RuleType} (hx : t.id ∉ D)
    (hidx : t.index = r.nextIndex) (hs : t.Sourced) :
    LoadingInv (D ++ [t.id]) { r with types := r.types ++ [t], nextIndex := r.nextIndex + 1 } := by
  refine { hi with ids := ?_, indices := ?_, nextIndex := ?_, sourced := ?_ }
  · rw [List.map_append, hi.ids, eraseDups_append_singleton]
    simp [hx]
  · rw [List.map_append, hi.indices, List.length_append, List.length_singleton,
      List.range_succ, List.map_singleton, hidx, hi.nextIndex]
  · simp [hi.nextIndex]
  · intro u hu
    rcases List.mem_append.1 hu with hu | hu
    · exact hi.sourced u hu
    · rw [List.mem_singleton.1 hu]
      exact hs

theorem LoadingInv.declareHeader (hi : LoadingInv D r) (c : String) (d : Declaration) :
    LoadingInv (D ++ [d.id]) (r.declareHeader c d).1 := by
  cases hf : r.find d.id with
  | none =>
    obtain ⟨t, hid, hidx, hed, hr⟩ := declareHeader_new hf
    have hx : t.id ∉ D := by
      rw [hid, ← hi.mem_ids_iff, ← find_eq_none_iff]
      exact hf
    rw [hr, ← hid]
    exact hi.append hx hidx fun e he => by simp [hed] at he
  | some u =>
    obtain ⟨f, hkeep, hr⟩ := declareHeader_known hf
    -- a known id was declared before
    have hx : d.id ∈ D := by
      rw [← hi.mem_ids_iff]
      by_contra hn
      rw [← find_eq_none_iff, hf] at hn
      cases hn
    rw [hr]
    refine (hi.update d.id hkeep).congr ?_
    rw [eraseDups_append_singleton]
    simp [hx]

theorem LoadingInv.declare (hi : LoadingInv D r) (c : String) (d : Declaration) :
    LoadingInv (D ++ [d.id]) (r.declare c d).1 := by
  rw [declare_fst]
  exact (hi.declareHeader c d).update d.id (keeps_foldl_apply d.children)

theorem LoadingInv.foldl_declare (ds : List (String × Declaration)) (hi : LoadingInv D r) :
    LoadingInv (D ++ ds.map (·.2.id)) (ds.foldl (fun r p => (r.declare p.1 p.2).1) r) := by
  induction ds generalizing D r with
  | nil => simpa using hi
  | cons p rest ih =>
    rw [List.foldl_cons, List.map_cons, ← List.singleton_append, ← List.append_assoc]
    exact ih (hi.declare p.1 p.2)

/-- **An accepted load keeps the loading invariant**, with the document's ids declared. -/
theorem LoadingInv.load (hi : LoadingInv D r) {doc : Document} {r' : Registry}
    {report : LoadReport} (h : r.load doc = .ok (r', report)) :
    LoadingInv (D ++ doc.declarations.map (·.2.id)) r' := by
  have hnf : r.isFinalized = false := by simp [isFinalized, hi.phase]
  unfold Registry.load at h
  rw [hnf] at h
  cases hv : doc.validate with
  | error e => simp [hv] at h
  | ok u =>
    simp only [hv, Bool.false_eq_true, if_false, Except.ok.injEq] at h
    rw [← show (r.merge doc).1 = r' from congrArg Prod.fst h, merge_fst]
    exact hi.foldl_declare doc.declarations

end Registry

end Ruleset
