import Ruleset.Proofs.Redefine
import Mathlib

/-!
# What loading a document does to the table

A load merges the declarations of a valid document one after another, and the table it leaves
can be written down at once. A type already there keeps its place and load index, and the
declarations naming it change it one after another, each by its header (`RuleType.reload`: a
patch or a redefinition) and then its children. An id the table lacks is created by its first
declaration, appended at the next load index, and its later declarations change it in turn.
The children a declaration gives a type are appended to its log, with the type as the source
of every added feature that names none, and replayed on its live content
(`RuleType.takeChildren`); unknown children change nothing and are counted.

* `RuleType.foldl_apply` — applying children one by one is `takeChildren`.
* `RuleType.redeclare`, `Registry.createdTypes`, `Registry.reloading` — the types a list of
  declarations leaves, and the declarations that find their type already there.
* `Registry.types_declareAll` — the table after declaring a list, in closed form.
* `Registry.load_merge_closed_form` — a valid document loads into a loading registry, changes
  only the table and the next index, leaves that closed form, and reports how many types it
  created, patched and redefined and how many children it ignored.
-/

namespace Ruleset

namespace RuleType

/-- The children that are logged, as a type with id `id` stores them: the unknown ones left
out, and `id` as the source of every added feature that names none. -/
def logged (id : String) (es : List Edit) : List Edit :=
  (es.filter (!·.isUnknown)).map (·.withSource id)

/-- A type after taking children: the logged children appended to its log and replayed on its
live content. -/
def takeChildren (t : RuleType) (es : List Edit) : RuleType :=
  { (logged t.id es).foldl replay t with edits := t.edits ++ logged t.id es }

@[simp] theorem id_replay (t : RuleType) (e : Edit) : (t.replay e).id = t.id := by
  cases e <;> rfl

theorem logged_cons (id : String) (e : Edit) (es : List Edit) :
    logged id (e :: es) = (if e.isUnknown then [] else [e.withSource id]) ++ logged id es := by
  unfold logged
  by_cases h : e.isUnknown = true <;> simp [h]

theorem replay_with_edits (u : RuleType) (E : List Edit) (e : Edit) :
    ({ u with edits := E } : RuleType).replay e = { u.replay e with edits := E } := by
  cases e <;> rfl

/-- Replay never reads the log. -/
theorem foldl_replay_with_edits (L : List Edit) (u : RuleType) (E : List Edit) :
    L.foldl replay { u with edits := E } = { L.foldl replay u with edits := E } :=
  List.foldl_hom (fun u : RuleType => { u with edits := E }) fun u e => replay_with_edits u E e

/-- **Applying children one by one** logs the known ones, sources defaulted to the type, and
replays them on the live content. -/
theorem foldl_apply (es : List Edit) (t : RuleType) : es.foldl apply t = t.takeChildren es := by
  induction es generalizing t with
  | nil => simp [takeChildren, logged]
  | cons e es ih =>
    rw [List.foldl_cons, ih]
    by_cases hu : e.isUnknown = true
    · -- an unknown child changes nothing and is not logged
      have happ : t.apply e = t := by cases e <;> simp_all [Edit.isUnknown, apply]
      rw [happ, takeChildren, takeChildren, logged_cons, if_pos hu, List.nil_append]
    · have happ : t.apply e = { t.replay (e.withSource t.id) with
          edits := t.edits ++ [e.withSource t.id] } := by
        cases e <;> simp_all [Edit.isUnknown, apply]
      rw [happ, takeChildren, takeChildren, logged_cons, if_neg hu, id_replay,
        foldl_replay_with_edits, List.singleton_append, List.foldl_cons, List.append_assoc,
        List.singleton_append]

/-- What declarations of one type make of it, one after another: each reloads the type as the
options decide and then gives it its children. -/
def redeclare (o : LoadOptions) (t : RuleType) (ds : List (String × Declaration)) : RuleType :=
  ds.foldl (fun t p => (t.reload o p.1 p.2).takeChildren p.2.children) t

@[simp] theorem redeclare_nil (o : LoadOptions) (t : RuleType) : t.redeclare o [] = t := rfl

@[simp] theorem redeclare_cons (o : LoadOptions) (t : RuleType) (p : String × Declaration)
    (ds : List (String × Declaration)) :
    t.redeclare o (p :: ds) = ((t.reload o p.1 p.2).takeChildren p.2.children).redeclare o ds :=
  rfl

end RuleType

open RuleType

namespace Registry

/-- The types a list of declarations creates in a table whose ids are `known`, with `n` the
next load index: an unknown id is created by its first declaration at the next index, which
then moves on, and the later declarations of the id redeclare it. -/
def createdTypes (o : LoadOptions) : Nat → List String → List (String × Declaration) →
    List RuleType
  | _, _, [] => []
  | n, known, (c, d) :: ds =>
    if d.id ∈ known then createdTypes o n known ds
    else ((created c d n).takeChildren d.children).redeclare o (ds.filter (·.2.id == d.id)) ::
      createdTypes o (n + 1) (known ++ [d.id]) ds

/-- The declarations of a list that find their type already there: known before the list, or
declared earlier in it. -/
def reloading (known : List String) : List (String × Declaration) → List (String × Declaration)
  | [] => []
  | p :: ds => if p.2.id ∈ known then p :: reloading known ds else reloading (known ++ [p.2.id]) ds

/-- The ignored children of a list of declarations. -/
def unknownChildren (ds : List (String × Declaration)) : Nat :=
  (ds.map fun p => (p.2.children.filter Edit.isUnknown).length).sum

variable {r : Registry} {c : String} {d : Declaration}

/-- An id the table finds is one of its ids. -/
theorem mem_ids_of_find_eq_some {x : String} {u : RuleType} (h : r.find x = some u) :
    x ∈ r.types.map (·.id) := by
  by_contra hn
  rw [← find_eq_none_iff, h] at hn
  cases hn

theorem map_id_update (types : List RuleType) (x : String) {f : RuleType → RuleType}
    (hf : ∀ t, (f t).id = t.id) : (update types x f).map (·.id) = types.map (·.id) :=
  map_update types x _ hf

theorem id_takeChildren (t : RuleType) (es : List Edit) : (t.takeChildren es).id = t.id := by
  rw [← foldl_apply, id_foldl_apply]

theorem id_redeclare (o : LoadOptions) (t : RuleType) (ds : List (String × Declaration)) :
    (t.redeclare o ds).id = t.id := by
  induction ds generalizing t with
  | nil => rfl
  | cons p ds ih => rw [redeclare_cons, ih, id_takeChildren, id_reload]

theorem index_takeChildren (t : RuleType) (es : List Edit) :
    (t.takeChildren es).index = t.index := by
  rw [← foldl_apply, index_foldl_apply]

theorem index_redeclare (o : LoadOptions) (t : RuleType) (ds : List (String × Declaration)) :
    (t.redeclare o ds).index = t.index := by
  induction ds generalizing t with
  | nil => rfl
  | cons p ds ih => rw [redeclare_cons, ih, index_takeChildren, index_reload]

/-- The created types are the ids not known before, once each, in order of first
declaration. -/
theorem map_id_createdTypes (o : LoadOptions) (n : Nat) (known : List String)
    (ds : List (String × Declaration)) :
    (createdTypes o n known ds).map (·.id) =
      ((ds.map (·.2.id)).filter (· ∉ known)).eraseDups := by
  induction ds generalizing n known with
  | nil => rfl
  | cons p ds ih =>
    obtain ⟨c, d⟩ := p
    by_cases hmem : d.id ∈ known
    · simp [createdTypes, hmem, ih]
    · have hfilter : (d.id :: ds.map (·.2.id)).filter (· ∉ known) =
          d.id :: (ds.map (·.2.id)).filter (· ∉ known) := by simp [hmem]
      rw [createdTypes, if_neg hmem, List.map_cons, ih, List.map_cons, hfilter,
        List.eraseDups_cons, List.filter_filter, id_redeclare, id_takeChildren]
      congr 2
      apply List.filter_congr
      intro x _
      by_cases hx : x = d.id <;> simp [hx, hmem]

/-- The created types take consecutive load indexes from `n`. -/
theorem map_index_createdTypes (o : LoadOptions) (n : Nat) (known : List String)
    (ds : List (String × Declaration)) :
    (createdTypes o n known ds).map (·.index) =
      List.range' n (createdTypes o n known ds).length := by
  induction ds generalizing n known with
  | nil => rfl
  | cons p ds ih =>
    obtain ⟨c, d⟩ := p
    by_cases hmem : d.id ∈ known
    · simp [createdTypes, hmem, ih]
    · simp only [createdTypes, hmem, if_false, List.map_cons, ih, List.length_cons,
        List.range'_succ, index_redeclare, index_takeChildren]
      rfl

/-- **The table after a list of declarations**: the types there before, each redeclared by
the declarations naming it, followed by the types the list creates. -/
theorem types_declareAll (r : Registry) (ds : List (String × Declaration)) :
    (r.declareAll ds).types =
        r.types.map (fun t => t.redeclare r.options (ds.filter (·.2.id == t.id))) ++
          createdTypes r.options r.nextIndex (r.types.map (·.id)) ds ∧
      (r.declareAll ds).nextIndex =
        r.nextIndex + (createdTypes r.options r.nextIndex (r.types.map (·.id)) ds).length := by
  induction ds generalizing r with
  | nil => simp [createdTypes]
  | cons p ds ih =>
    obtain ⟨c, d⟩ := p
    rw [declareAll_cons]
    dsimp only
    obtain ⟨ih₁, ih₂⟩ := ih (r.declare c d).1
    rw [options_declare] at ih₁ ih₂
    cases hf : r.find d.id with
    | some u =>
      -- a known id: its type is changed in place, and nothing is created
      have hmem : d.id ∈ r.types.map (·.id) := mem_ids_of_find_eq_some hf
      rw [declare_fst_of_find_some hf] at ih₁ ih₂ ⊢
      simp only at ih₁ ih₂
      rw [map_id_update _ _ fun t => by rw [id_foldl_apply, id_reload]] at ih₁ ih₂
      refine ⟨?_, ?_⟩
      · rw [ih₁, createdTypes, if_pos hmem, update, List.map_map]
        congr 1
        apply List.map_congr_left
        intro t _
        by_cases ht : t.id = d.id
        · simp [ht, foldl_apply, id_takeChildren, id_reload]
        · simp [ht, Ne.symm ht]
      · rw [ih₂, createdTypes, if_pos hmem]
    | none =>
      -- a new id: its type is appended at the next index, and the rest is created after it
      have hmem : d.id ∉ r.types.map (·.id) := (find_eq_none_iff r d.id).1 hf
      rw [declare_fst_of_find_none hf] at ih₁ ih₂ ⊢
      simp only at ih₁ ih₂
      refine ⟨?_, ?_⟩
      · rw [ih₁, createdTypes, if_neg hmem, List.map_append, List.map_append, List.map_singleton,
          List.map_singleton, id_foldl_apply, List.append_assoc, List.singleton_append]
        have hother : ∀ t ∈ r.types, t.id ≠ d.id :=
          fun t ht e => hmem (e ▸ List.mem_map_of_mem ht)
        congr 1
        · apply List.map_congr_left
          intro t ht
          simp [Ne.symm (hother t ht)]
        · congr 1
          rw [foldl_apply]
          rfl
      · rw [ih₂, createdTypes, if_neg hmem, List.map_append, List.map_singleton, id_foldl_apply]
        have hid : (created c d r.nextIndex).id = d.id := rfl
        simp only [List.length_cons, hid]
        omega

/-! ## What a load reports -/

/-- What declaring reports: a type created, or one patched or redefined as the options decide
from the declaration's `preserve` flag, and the unknown children. -/
theorem declare_snd (r : Registry) (c : String) (d : Declaration) :
    (r.declare c d).2 =
      if d.id ∈ r.types.map (·.id) then
        { patched := if r.options.reloadMode d.preserve = .patch then 1 else 0
          redefined := if r.options.reloadMode d.preserve = .redefine then 1 else 0
          ignored := (d.children.filter Edit.isUnknown).length }
      else { created := 1, ignored := (d.children.filter Edit.isUnknown).length } := by
  cases hf : r.find d.id with
  | none =>
    rw [if_neg ((find_eq_none_iff r d.id).1 hf)]
    simp [declare, declareHeader, hf]
  | some u =>
    have hmem : d.id ∈ r.types.map (·.id) := mem_ids_of_find_eq_some hf
    rw [if_pos hmem]
    cases hm : r.options.reloadMode d.preserve <;> simp [declare, declareHeader, hf, hm]

/-- Declaring appends the id when it is new, and then moves the next index on. -/
theorem ids_declare (r : Registry) (c : String) (d : Declaration) :
    (r.declare c d).1.types.map (·.id) =
        r.types.map (·.id) ++ (if d.id ∈ r.types.map (·.id) then [] else [d.id]) ∧
      (r.declare c d).1.nextIndex =
        r.nextIndex + (if d.id ∈ r.types.map (·.id) then 0 else 1) := by
  cases hf : r.find d.id with
  | none =>
    have hmem : d.id ∉ r.types.map (·.id) := (find_eq_none_iff r d.id).1 hf
    have hid : (d.children.foldl RuleType.apply (created c d r.nextIndex)).id = d.id :=
      id_foldl_apply _ _
    rw [declare_fst_of_find_none hf, if_neg hmem, if_neg hmem]
    exact ⟨by simp [hid], rfl⟩
  | some u =>
    have hmem : d.id ∈ r.types.map (·.id) := mem_ids_of_find_eq_some hf
    rw [declare_fst_of_find_some hf, if_pos hmem, if_pos hmem]
    refine ⟨?_, rfl⟩
    rw [List.append_nil]
    exact map_id_update _ _ fun t => by rw [id_foldl_apply, id_reload]

/-- The counts a merge adds to a report, declaration after declaration. -/
theorem foldl_declare_report (ds : List (String × Declaration)) (r : Registry)
    (rep : LoadReport) :
    let res := ds.foldl
      (fun (acc : Registry × LoadReport) p =>
        let (r', report) := acc.1.declare p.1 p.2
        (r', acc.2 + report))
      (r, rep)
    res.2.created =
        rep.created + (createdTypes r.options r.nextIndex (r.types.map (·.id)) ds).length ∧
      res.2.patched = rep.patched + ((reloading (r.types.map (·.id)) ds).filter fun p =>
        r.options.reloadMode p.2.preserve == .patch).length ∧
      res.2.redefined = rep.redefined + ((reloading (r.types.map (·.id)) ds).filter fun p =>
        r.options.reloadMode p.2.preserve == .redefine).length ∧
      res.2.ignored = rep.ignored + unknownChildren ds := by
  induction ds generalizing r rep with
  | nil => simp [createdTypes, reloading, unknownChildren]
  | cons p ds ih =>
    obtain ⟨c, d⟩ := p
    have hrep := declare_snd r c d
    obtain ⟨hids, hnext⟩ := ids_declare r c d
    have ho := options_declare r c d
    rw [List.foldl_cons]
    generalize r.declare c d = x at hrep hids hnext ho
    obtain ⟨r₁, rep₁⟩ := x
    dsimp only at hrep hids hnext ho ⊢
    obtain ⟨ih₁, ih₂, ih₃, ih₄⟩ := ih r₁ (rep + rep₁)
    rw [ho, hids, hnext] at ih₁
    rw [ho, hids] at ih₂ ih₃
    rw [ih₁, ih₂, ih₃, ih₄]
    by_cases hmem : d.id ∈ r.types.map (·.id)
    · -- a known id: one more reload, counted as the options decide
      rw [if_pos hmem] at hrep
      subst hrep
      simp only [hmem, if_true, List.append_nil, Nat.add_zero, createdTypes, reloading,
        List.filter_cons, unknownChildren, List.map_cons, List.sum_cons]
      cases r.options.reloadMode d.preserve <;> simp <;> omega
    · -- a new id: one more type created
      rw [if_neg hmem] at hrep
      subst hrep
      simp [hmem, createdTypes, reloading, unknownChildren]
      omega

/-! ## Loading a document -/

/-- A type no declaration names keeps its place, unchanged. -/
theorem getElem?_declareAll_of_not_named (r : Registry) (ds : List (String × Declaration))
    {i : Nat} {t : RuleType} (ht : r.types[i]? = some t) (hnamed : ∀ p ∈ ds, p.2.id ≠ t.id) :
    (r.declareAll ds).types[i]? = some t := by
  have hi :
      i < (r.types.map fun t => t.redeclare r.options (ds.filter (·.2.id == t.id))).length := by
    simpa using (List.getElem?_eq_some_iff.1 ht).1
  have hnone : ds.filter (·.2.id == t.id) = [] :=
    List.filter_eq_nil_iff.2 fun p hp => by simpa using hnamed p hp
  rw [(types_declareAll r ds).1, List.getElem?_append_left hi, List.getElem?_map, ht]
  simp [hnone]

/-- **Merge semantics of a load.** A valid document loads into a loading registry and changes
only its table and next index. Each type already there keeps its place and load index and is
redeclared by the declarations naming it, in document order, so a type no declaration names
is unchanged. The ids the table lacked follow, in order of first declaration, each created by
its first declaration at the next load index and redeclared by the later ones. The report
counts those created types, the declarations that found their type there by what the options
made of them (patch or redefinition), and the unknown children. -/
theorem load_merge_closed_form {S : Registry} (hl : S.phase = .loading) {D : Document}
    (hv : D.validate = .ok ()) :
    ∃ S' report, S.load D = .ok (S', report) ∧
      S' = { S with types := S'.types, nextIndex := S'.nextIndex } ∧
      S'.types = S.types.map (fun t => t.redeclare S.options
          (D.declarations.filter (·.2.id == t.id))) ++
        createdTypes S.options S.nextIndex (S.types.map (·.id)) D.declarations ∧
      (∀ (i : Nat) (t : RuleType), S.types[i]? = some t →
        (∀ p ∈ D.declarations, p.2.id ≠ t.id) → S'.types[i]? = some t) ∧
      S'.types.map (·.id) = S.types.map (·.id) ++
        ((D.declarations.map (·.2.id)).filter (· ∉ S.types.map (·.id))).eraseDups ∧
      S'.types.map (·.index) = S.types.map (·.index) ++ List.range' S.nextIndex report.created ∧
      S'.nextIndex = S.nextIndex + report.created ∧
      report.created =
        (createdTypes S.options S.nextIndex (S.types.map (·.id)) D.declarations).length ∧
      report.patched = ((reloading (S.types.map (·.id)) D.declarations).filter fun p =>
        S.options.reloadMode p.2.preserve == .patch).length ∧
      report.redefined = ((reloading (S.types.map (·.id)) D.declarations).filter fun p =>
        S.options.reloadMode p.2.preserve == .redefine).length ∧
      report.ignored = unknownChildren D.declarations := by
  refine ⟨(S.merge D).1, (S.merge D).2, load_eq_ok_of_validate hl hv, ?_⟩
  obtain ⟨htypes, hnext⟩ := types_declareAll S D.declarations
  obtain ⟨h₁, h₂, h₃, h₄⟩ := foldl_declare_report D.declarations S {}
  simp only [Nat.zero_add] at h₁ h₂ h₃ h₄
  have hcreated : (S.merge D).2.created =
      (createdTypes S.options S.nextIndex (S.types.map (·.id)) D.declarations).length := h₁
  rw [merge_fst_eq_declareAll]
  refine ⟨declareAll_eq_with S _, htypes,
    fun i t ht hnamed => getElem?_declareAll_of_not_named S _ ht hnamed, ?_, ?_, ?_,
    h₁, h₂, h₃, h₄⟩
  · -- the ids there before keep their places, and the new ones follow once each
    rw [htypes, List.map_append, List.map_map, map_id_createdTypes]
    congr 1
    exact List.map_congr_left fun t _ => id_redeclare _ _ _
  · -- the indexes there before are kept, and the new types count on from the next one
    rw [htypes, List.map_append, List.map_map, map_index_createdTypes, hcreated]
    congr 1
    exact List.map_congr_left fun t _ => index_redeclare _ _ _
  · rw [hnext, hcreated]

/-- A table holding one colonist type. -/
def colonistTable : Registry := { types := [RuleType.new "colonist" "unit-type" "unit-types" 0], nextIndex := 1 }

/-- A document that creates a soldier with an unknown child, patches the colonist and then
redefines the soldier. -/
def soldierDoc : Document :=
  { sections := [{ types := [{ id := "soldier", children := [.unknown "upgrade"] },
      { id := "colonist", isAbstract := some true }, { id := "soldier", preserve := some false }] }] }

theorem soldierDoc_report : colonistTable.phase = .loading ∧ soldierDoc.validate = .ok () ∧
    ∃ S' report, colonistTable.load soldierDoc = .ok (S', report) ∧
      S'.types.map (·.id) = ["colonist", "soldier"] ∧
      report.created = 1 ∧ report.patched = 1 ∧ report.redefined = 1 ∧ report.ignored = 1 ∧
      S'.nextIndex = 2 := by
  obtain ⟨S', report, hload, -, -, -, hids, -, hnext, h₁, h₂, h₃, h₄⟩ :=
    load_merge_closed_form (S := colonistTable) rfl (D := soldierDoc) rfl
  refine ⟨rfl, rfl, S', report, hload, ?_, ?_, ?_, ?_, ?_, ?_⟩
  · rw [hids]; decide
  · rw [h₁]; decide
  · rw [h₂]; decide
  · rw [h₃]; decide
  · rw [h₄]; decide
  · rw [hnext, h₁]; decide

end Registry

end Ruleset
