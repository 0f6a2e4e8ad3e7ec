import Ruleset.Proofs.Session
import Ruleset.Proofs.Validation

/-!
# Redefinitions

A declaration of a known id patches or redefines the type, as the options decide from its
`preserve` flag. A redefinition drops from the log the kinds of edits it clears and resets the
tag, category, abstract flag and parent; what is left of the type is then fixed by its id,
its load index, the declaration and the kept part of its log. Since finalize reads only the
bare table (`finalize_congr`), nothing a redefinition drops can show after the next finalize.

* `RuleType.reload`, `RuleType.created` — what a declaration's header makes of the type it
  names, known or new; `declare_fst_of_find_some` and `declare_fst_of_find_none` say what
  declaring does to the registry in each case, and `mem_declare` type by type.
* `RuleType.bare_reload_redefine` — the bare type after a redefinition.
* `Agree R r₁ r₂` — two registries whose tables are related type by type under `R` and that are
  equal in all else; `Agree.declare` and `Agree.declareAll` carry it through declarations.
* `finalize_load_eq_of_redefined` — two loading registries that differ in one type only, and
  there only in what redefining it forgets, finalize alike after loading any valid document
  that redefines that type.
* `bare_of_mem_declareAll` — when redefinitions clear everything and every declaration
  redefines, each type a run of declarations names is, bare, what its last declaration makes
  of a new type at its load index.
* `map_bare_declareAll_again` — so declaring such a run again keeps the bare table, and
  `finalize_load_twice_eq` — loading such a document twice finalizes as loading it once.
-/

namespace Ruleset

/-- A redefinition that clears every kind of content keeps no logged edit. -/
theorem Clears.keeps_all (e : Edit) :
    Clears.keeps { abilities := true, modifiers := true, scopes := true } e = false := by
  cases e <;> rfl

namespace RuleType

/-- What the header of a declaration makes of the known type it names: a patch sets the
abstract flag and the parent where the declaration gives them; a redefinition clears the
selected kinds of content and takes the declaration's tag, the section's category, and the
declaration's abstract flag (default false) and parent. -/
def reload (o : LoadOptions) (c : String) (d : Declaration) (t : RuleType) : RuleType :=
  match o.reloadMode d.preserve with
  | .patch =>
    { t with isAbstract := d.isAbstract.getD t.isAbstract, parent := d.parent <|> t.parent }
  | .redefine =>
    { t.clearFor o.redefineClears with
      tag := d.tag, category := c, isAbstract := d.isAbstract.getD false, parent := d.parent }

/-- The type a declaration of an unknown id creates, at the given load index. -/
def created (c : String) (d : Declaration) (index : Nat) : RuleType :=
  { RuleType.new d.id d.tag c index with
    isAbstract := d.isAbstract.getD false, parent := d.parent }

/-- What a redefinition with the clears `c` keeps of a type besides the declaration: its id,
its load index and the kept part of its log. -/
def kept (c : Clears) (t : RuleType) : String × Nat × List Edit :=
  (t.id, t.index, t.edits.filter c.keeps)

/-- `SameBut x c a b`: the types `a` and `b` are the same up to what redefining the id `x`
with the clears `c` forgets. They keep the same id, index and kept log, and, unless they are
the type `x`, the same bare type. -/
def SameBut (x : String) (c : Clears) (a b : RuleType) : Prop :=
  a.kept c = b.kept c ∧ (a.id ≠ x → a.bare = b.bare)

variable {t u : RuleType} {o : LoadOptions} {c : String} {d : Declaration}

@[simp] theorem id_reload : (t.reload o c d).id = t.id := by
  unfold reload
  split <;> rfl

@[simp] theorem index_reload : (t.reload o c d).index = t.index := by
  unfold reload
  split <;> rfl

theorem id_foldl_apply (es : List Edit) (t : RuleType) : (es.foldl apply t).id = t.id :=
  (keeps_foldl_apply es).id t

theorem index_foldl_apply (es : List Edit) (t : RuleType) : (es.foldl apply t).index = t.index :=
  (keeps_foldl_apply es).index t

theorem id_eq_of_kept (cl : Clears) (h : t.kept cl = u.kept cl) : t.id = u.id :=
  congrArg Prod.fst h

/-! ## What the steps of a declaration read -/

/-- Applying an edit reads the type's id and log, and changes only the log besides features
and scopes. -/
theorem bare_apply (t : RuleType) (e : Edit) : (t.apply e).bare = (t.bare.apply e).bare := by
  cases e <;> rfl

theorem bare_apply_congr (h : t.bare = u.bare) (e : Edit) :
    (t.apply e).bare = (u.apply e).bare := by
  rw [bare_apply, h, ← bare_apply]

theorem bare_foldl_apply_congr (h : t.bare = u.bare) (es : List Edit) :
    (es.foldl apply t).bare = (es.foldl apply u).bare := by
  induction es generalizing t u with
  | nil => exact h
  | cons e es ih => exact ih (bare_apply_congr h e)

theorem kept_apply_congr (cl : Clears) (h : t.kept cl = u.kept cl) (e : Edit) :
    (t.apply e).kept cl = (u.apply e).kept cl := by
  simp only [kept, Prod.mk.injEq] at h ⊢
  obtain ⟨hid, hidx, hed⟩ := h
  refine ⟨by rw [id_apply, id_apply, hid], by rw [index_apply, index_apply, hidx], ?_⟩
  rw [edits_apply, edits_apply, List.filter_append, List.filter_append, hed, hid]

theorem kept_foldl_apply_congr (cl : Clears) (h : t.kept cl = u.kept cl) (es : List Edit) :
    (es.foldl apply t).kept cl = (es.foldl apply u).kept cl := by
  induction es generalizing t u with
  | nil => exact h
  | cons e es ih => exact ih (kept_apply_congr cl h e)

/-- A header reads the bare type only. -/
theorem bare_reload (t : RuleType) : (t.reload o c d).bare = (t.bare.reload o c d).bare := by
  unfold reload
  split <;> rfl

theorem bare_reload_congr (h : t.bare = u.bare) : (t.reload o c d).bare = (u.reload o c d).bare := by
  rw [bare_reload, h, ← bare_reload]

/-- A header keeps what a redefinition keeps: a patch keeps the log, a redefinition keeps
the kept part of it, which filtering again does not change. -/
theorem kept_reload (t : RuleType) :
    (t.reload o c d).kept o.redefineClears = t.kept o.redefineClears := by
  unfold reload
  split
  · rfl
  · simp [kept, clearFor, List.filter_filter]

/-- **After a redefinition the bare type is fixed** by the id, the load index, the
declaration and the kept part of the log. -/
theorem bare_reload_redefine (hm : o.reloadMode d.preserve = .redefine) :
    (t.reload o c d).bare =
      { id := t.id, tag := d.tag, category := c, isAbstract := d.isAbstract.getD false,
        parent := d.parent, index := t.index, edits := t.edits.filter o.redefineClears.keeps } := by
  simp only [reload, hm]
  rfl

theorem bare_reload_eq_of_kept (hm : o.reloadMode d.preserve = .redefine)
    (h : t.kept o.redefineClears = u.kept o.redefineClears) :
    (t.reload o c d).bare = (u.reload o c d).bare := by
  simp only [kept, Prod.mk.injEq] at h
  obtain ⟨hid, hidx, hed⟩ := h
  rw [bare_reload_redefine hm, bare_reload_redefine hm, hid, hidx, hed]

/-- A redefinition that clears everything makes of a known type what a declaration makes of
a new one at the same index. -/
theorem bare_reload_wiped (hm : o.reloadMode d.preserve = .redefine)
    (hall : o.redefineClears = { abilities := true, modifiers := true, scopes := true })
    (hid : t.id = d.id) : (t.reload o c d).bare = (created c d t.index).bare := by
  have hnone : t.edits.filter o.redefineClears.keeps = [] :=
    List.filter_eq_nil_iff.2 fun e _ => by simp [hall, Clears.keeps_all e]
  rw [bare_reload_redefine hm, hnone, hid]
  rfl

end RuleType

open RuleType Inheritance

namespace Registry

variable {r r₁ r₂ : Registry} {c : String} {d : Declaration}

/-! ## What declaring does -/

theorem update_update (types : List RuleType) (x : String) {f g : RuleType → RuleType}
    (hf : ∀ t, (f t).id = t.id) :
    update (update types x f) x g = update types x fun t => g (f t) := by
  unfold update
  rw [List.map_map]
  apply List.map_congr_left
  intro t _
  by_cases h : t.id = x <;> simp [h, hf]

theorem update_of_not_mem {types : List RuleType} {x : String} (h : x ∉ types.map (·.id))
    (f : RuleType → RuleType) : update types x f = types := by
  unfold update
  conv_rhs => rw [← List.map_id types]
  apply List.map_congr_left
  intro t ht
  have hne : t.id ≠ x := fun e => h (e ▸ List.mem_map_of_mem ht)
  simp [hne]

theorem declareHeader_fst_of_find_some {u : RuleType} (h : r.find d.id = some u) :
    (r.declareHeader c d).1 = { r with types := update r.types d.id (·.reload r.options c d) } := by
  cases hm : r.options.reloadMode d.preserve <;> simp [declareHeader, reload, h, hm]

/-- Declaring a known id changes, in place, the type with that id: its header, then its
children. -/
theorem declare_fst_of_find_some {u : RuleType} (h : r.find d.id = some u) :
    (r.declare c d).1 = { r with types := update r.types d.id (fun t =>
      d.children.foldl RuleType.apply (t.reload r.options c d)) } := by
  rw [declare_fst, declareHeader_fst_of_find_some h]
  simp only
  rw [update_update _ _ fun _ => id_reload]

/-- Declaring an unknown id appends the new type, with its children applied, at the next
load index. -/
theorem declare_fst_of_find_none (h : r.find d.id = none) :
    (r.declare c d).1 = { r with
      types := r.types ++ [d.children.foldl RuleType.apply (created c d r.nextIndex)]
      nextIndex := r.nextIndex + 1 } := by
  have hnot : d.id ∉ r.types.map (·.id) := (find_eq_none_iff r d.id).1 h
  rw [declare_fst]
  simp only [declareHeader, h]
  unfold update
  rw [List.map_append, ← update, update_of_not_mem hnot]
  simp [created, RuleType.new]

theorem declare_fst_eq_with (r : Registry) (c : String) (d : Declaration) :
    (r.declare c d).1 = { r with
      types := (r.declare c d).1.types, nextIndex := (r.declare c d).1.nextIndex } := by
  cases h : r.find d.id with
  | none => rw [declare_fst_of_find_none h]
  | some u => rw [declare_fst_of_find_some h]

@[simp] theorem options_declare (r : Registry) (c : String) (d : Declaration) :
    (r.declare c d).1.options = r.options := by
  rw [declare_fst_eq_with]

/-- Type by type: a type of the registry after a declaration is the one the declaration made,
new or from the known one, or one of another id that was there before. -/
theorem mem_declare {t : RuleType} (ht : t ∈ (r.declare c d).1.types) :
    (t.id = d.id ∧
      ((r.find d.id = none ∧ t = d.children.foldl RuleType.apply (created c d r.nextIndex)) ∨
        ∃ u ∈ r.types, u.id = d.id ∧
          t = d.children.foldl RuleType.apply (u.reload r.options c d))) ∨
      (t.id ≠ d.id ∧ t ∈ r.types) := by
  cases hf : r.find d.id with
  | none =>
    rw [declare_fst_of_find_none hf] at ht
    rcases List.mem_append.1 ht with ht | ht
    · have hnot : d.id ∉ r.types.map (·.id) := (find_eq_none_iff r d.id).1 hf
      exact .inr ⟨fun e => hnot (e ▸ List.mem_map_of_mem ht), ht⟩
    · rw [List.mem_singleton] at ht
      subst ht
      exact .inl ⟨by rw [id_foldl_apply]; rfl, .inl ⟨rfl, rfl⟩⟩
  | some u₀ =>
    rw [declare_fst_of_find_some hf] at ht
    obtain ⟨u, hu, rfl⟩ := mem_update ht
    by_cases hud : u.id = d.id
    · rw [if_pos hud]
      exact .inl ⟨by rw [id_foldl_apply, id_reload, hud], .inr ⟨u, hu, hud, rfl⟩⟩
    · rw [if_neg hud]
      exact .inr ⟨hud, hu⟩

/-! ## Declaring into two registries that agree -/

/-- Two registries whose tables are related type by type under `R`, and which are equal in
everything else. -/
def Agree (R : RuleType → RuleType → Prop) (r₁ r₂ : Registry) : Prop :=
  List.Forall₂ R r₁.types r₂.types ∧ r₂ = { r₁ with types := r₂.types }

theorem map_eq_of_forall₂ {β : Type} {f : RuleType → β} {R : RuleType → RuleType → Prop}
    (hf : ∀ a b, R a b → f a = f b) {l₁ l₂ : List RuleType} (h : List.Forall₂ R l₁ l₂) :
    l₁.map f = l₂.map f := by
  rw [← List.forall₂_eq_eq_eq]
  exact List.rel_map hf h

/-- **Declaring keeps two registries in agreement.** The relation may change, from `R` to
`R'`: a type of another id must pass from one to the other as it is, the declaration's step
must take `R`-related types of its id to `R'`-related ones, and a new type must be
`R'`-related to itself. -/
theorem Agree.declare {R R' : RuleType → RuleType → Prop} (hid : ∀ a b, R a b → a.id = b.id)
    (hother : ∀ a b, R a b → a.id ≠ d.id → R' a b)
    (hstep : ∀ a b, R a b → a.id = d.id →
      R' (d.children.foldl RuleType.apply (a.reload r₁.options c d))
        (d.children.foldl RuleType.apply (b.reload r₁.options c d)))
    (hnew : ∀ n, R' n n) (h : Agree R r₁ r₂) : Agree R' (r₁.declare c d).1 (r₂.declare c d).1 := by
  obtain ⟨hts, hr₂⟩ := h
  generalize hT : r₂.types = T₂ at hts hr₂
  subst hr₂
  have hids : r₁.types.map (·.id) = T₂.map (·.id) := map_eq_of_forall₂ hid hts
  have hfind : r₁.find d.id = none ↔ ({ r₁ with types := T₂ } : Registry).find d.id = none := by
    rw [find_eq_none_iff, find_eq_none_iff, hids]
  cases hf₁ : r₁.find d.id with
  | none =>
    have hf₂ := hfind.1 hf₁
    have hnot : d.id ∉ r₁.types.map (·.id) := (find_eq_none_iff r₁ d.id).1 hf₁
    rw [declare_fst_of_find_none hf₁, declare_fst_of_find_none hf₂]
    refine ⟨List.rel_append ?_ (.cons (hnew _) .nil), rfl⟩
    -- no type of the table has the id
    have hne : ∀ a ∈ r₁.types, a.id ≠ d.id := fun a ha e => hnot (e ▸ List.mem_map_of_mem ha)
    exact ((List.forall₂_and_left _ _).2 ⟨hne, hts⟩).imp fun a b ⟨hne, hab⟩ => hother a b hab hne
  | some u₁ =>
    cases hf₂ : ({ r₁ with types := T₂ } : Registry).find d.id with
    | none =>
      have hnone := hfind.2 hf₂
      rw [hf₁] at hnone
      cases hnone
    | some u₂ =>
      rw [declare_fst_of_find_some hf₁, declare_fst_of_find_some hf₂]
      refine ⟨?_, rfl⟩
      unfold update
      rw [List.forall₂_map_left_iff, List.forall₂_map_right_iff]
      refine hts.imp fun a b hab => ?_
      by_cases ha : a.id = d.id
      · have hb : b.id = d.id := hid a b hab ▸ ha
        simpa [ha, hb] using hstep a b hab ha
      · have hb : b.id ≠ d.id := hid a b hab ▸ ha
        simpa [ha, hb] using hother a b hab ha

/-- Declares each declaration in turn, keeping the registries only. -/
def declareAll (r : Registry) (ds : List (String × Declaration)) : Registry :=
  ds.foldl (fun r p => (r.declare p.1 p.2).1) r

theorem merge_fst_eq_declareAll (r : Registry) (doc : Document) :
    (r.merge doc).1 = r.declareAll doc.declarations :=
  merge_fst r doc

@[simp] theorem declareAll_nil (r : Registry) : r.declareAll [] = r := rfl

@[simp] theorem declareAll_cons (r : Registry) (p : String × Declaration)
    (ds : List (String × Declaration)) :
    r.declareAll (p :: ds) = (r.declare p.1 p.2).1.declareAll ds := rfl

theorem declareAll_append (r : Registry) (ds es : List (String × Declaration)) :
    r.declareAll (ds ++ es) = (r.declareAll ds).declareAll es :=
  List.foldl_append

@[simp] theorem options_declareAll (r : Registry) (ds : List (String × Declaration)) :
    (r.declareAll ds).options = r.options := by
  induction ds generalizing r with
  | nil => rfl
  | cons p ds ih => rw [declareAll_cons, ih, options_declare]

/-- Declaring changes only the table and the next index. -/
theorem declareAll_eq_with (r : Registry) (ds : List (String × Declaration)) :
    r.declareAll ds = { r with
      types := (r.declareAll ds).types, nextIndex := (r.declareAll ds).nextIndex } := by
  induction ds generalizing r with
  | nil => rfl
  | cons p ds ih =>
    rw [declareAll_cons, ih, declare_fst_eq_with r p.1 p.2]

/-- Declarations whose steps keep `R` keep two registries in agreement under `R`. -/
theorem Agree.declareAll {R : RuleType → RuleType → Prop} (hid : ∀ a b, R a b → a.id = b.id)
    (hrefl : ∀ a, R a a) {o : LoadOptions} (ho : r₁.options = o) {ds : List (String × Declaration)}
    (hstep : ∀ p ∈ ds, ∀ a b, R a b → a.id = p.2.id →
      R (p.2.children.foldl RuleType.apply (a.reload o p.1 p.2))
        (p.2.children.foldl RuleType.apply (b.reload o p.1 p.2)))
    (h : Agree R r₁ r₂) : Agree R (r₁.declareAll ds) (r₂.declareAll ds) := by
  induction ds generalizing r₁ r₂ with
  | nil => exact h
  | cons p ds ih =>
    rw [declareAll_cons, declareAll_cons]
    have hp := hstep p List.mem_cons_self
    rw [← ho] at hp
    refine ih (by rw [options_declare, ho]) (fun q hq => hstep q (List.mem_cons_of_mem p hq)) ?_
    exact h.declare hid (fun a b hab _ => hab) hp hrefl

/-! ## Redefinition erases history -/

theorem SameBut.declareAll {x : String} {o : LoadOptions} (ho : r₁.options = o)
    (ds : List (String × Declaration)) (h : Agree (SameBut x o.redefineClears) r₁ r₂) :
    Agree (SameBut x o.redefineClears) (r₁.declareAll ds) (r₂.declareAll ds) := by
  refine h.declareAll (fun a b hab => id_eq_of_kept _ hab.1) (fun a => ⟨rfl, fun _ => rfl⟩) ho ?_
  intro p _ a b hab _
  refine ⟨?_, fun hx => ?_⟩
  · -- the kept part of the log is all that both steps read of it
    apply kept_foldl_apply_congr
    rw [kept_reload, kept_reload]
    exact hab.1
  · rw [id_foldl_apply, id_reload] at hx
    exact bare_foldl_apply_congr (bare_reload_congr (hab.2 hx)) _

theorem sameBare_declareAll {o : LoadOptions} (ho : r₁.options = o)
    (ds : List (String × Declaration)) (h : Agree (fun a b => a.bare = b.bare) r₁ r₂) :
    Agree (fun a b => a.bare = b.bare) (r₁.declareAll ds) (r₂.declareAll ds) :=
  h.declareAll (R := fun a b => a.bare = b.bare) (fun a b hab => by rw [← bare_id a, hab, bare_id])
    (fun _ => rfl) ho
    fun _ _ a b hab _ => bare_foldl_apply_congr (bare_reload_congr hab) _

/-- A redefinition of `x` turns agreement up to what it forgets into agreement of the bare
tables. -/
theorem SameBut.declare_redefine {x : String} {o : LoadOptions} (ho : r₁.options = o)
    (hx : d.id = x) (hm : o.reloadMode d.preserve = .redefine)
    (h : Agree (SameBut x o.redefineClears) r₁ r₂) :
    Agree (fun a b => a.bare = b.bare) (r₁.declare c d).1 (r₂.declare c d).1 := by
  refine h.declare (fun a b hab => id_eq_of_kept _ hab.1) (fun a b hab ha => hab.2 (hx ▸ ha))
    (fun a b hab _ => ?_) (fun _ => rfl)
  rw [ho]
  exact bare_foldl_apply_congr (bare_reload_eq_of_kept hm hab.1) _

/-- **Redefinition erases history, kind by kind.** Take two loading registries, the first
reachable, equal but for one type: the same id, position and load index, and the same logged
edits of the kinds a redefinition keeps, but possibly another tag, category, abstract flag,
parent, live features and scopes, and other logged edits of the cleared kinds. Any valid
document in which some declaration of that type resolves to a redefinition loads into both,
and finalize then gives the same result for both: the same error, or equal registries. -/
theorem finalize_load_eq_of_redefined {S₁ S₂ : Registry} (hr₁ : S₁.Reachable)
    (hl : S₁.phase = .loading) {pre post : List RuleType} {t₁ t₂ : RuleType}
    (h₁ : S₁.types = pre ++ t₁ :: post) (h₂ : S₂ = { S₁ with types := pre ++ t₂ :: post })
    (hid : t₂.id = t₁.id) (hidx : t₂.index = t₁.index)
    (hkept : t₂.edits.filter S₁.options.redefineClears.keeps =
      t₁.edits.filter S₁.options.redefineClears.keeps)
    {doc : Document} (hv : doc.validate = .ok ())
    (hre : ∃ p ∈ doc.declarations, p.2.id = t₁.id ∧
      S₁.options.reloadMode p.2.preserve = .redefine) :
    ∃ r₁ r₂ rep₁ rep₂, S₁.load doc = .ok (r₁, rep₁) ∧ S₂.load doc = .ok (r₂, rep₂) ∧
      r₁.finalize = r₂.finalize := by
  obtain ⟨D, hi⟩ := hr₁.loadingInv hl
  have hl₂ : S₂.phase = .loading := by subst h₂; exact hl
  refine ⟨(S₁.merge doc).1, (S₂.merge doc).1, (S₁.merge doc).2, (S₂.merge doc).2,
    load_eq_ok_of_validate hl hv, load_eq_ok_of_validate hl₂ hv, ?_⟩
  rw [merge_fst_eq_declareAll, merge_fst_eq_declareAll]
  -- before the document, the registries agree up to what redefining `t₁` forgets
  have hagree : Agree (SameBut t₁.id S₁.options.redefineClears) S₁ S₂ := by
    refine ⟨?_, by subst h₂; rfl⟩
    rw [h₁, h₂]
    have hsame : ∀ a, SameBut t₁.id S₁.options.redefineClears a a := fun a => ⟨rfl, fun _ => rfl⟩
    refine List.rel_append (List.forall₂_same.2 fun a _ => hsame a)
      (.cons ⟨?_, fun hne => absurd rfl hne⟩ (List.forall₂_same.2 fun a _ => hsame a))
    simp only [kept, hid, hidx, hkept]
  -- the chosen redefinition splits the document; after it the bare tables agree
  obtain ⟨p, hp, hpid, hpm⟩ := hre
  obtain ⟨ds₁, ds₂, hsplit⟩ := List.append_of_mem hp
  have hbare : Agree (fun a b => a.bare = b.bare) (S₁.declareAll doc.declarations)
      (S₂.declareAll doc.declarations) := by
    rw [hsplit, declareAll_append, declareAll_append, declareAll_cons, declareAll_cons]
    have hbefore := SameBut.declareAll rfl ds₁ hagree
    have hat := SameBut.declare_redefine (c := p.1) (options_declareAll S₁ ds₁) hpid hpm hbefore
    exact sameBare_declareAll ((options_declare _ _ _).trans (options_declareAll _ _)) ds₂ hat
  have hi' : LoadingInv _ (S₁.declareAll doc.declarations) := hi.foldl_declare doc.declarations
  rw [hbare.2]
  exact finalize_congr hi'.phase hi'.nodup_ids (map_eq_of_forall₂ (fun _ _ h => h) hbare.1)

/-- A type of unit-types declared with an ability and a scope-free log. -/
def redefineBase : Document :=
  { sections := [{ types := [
      { id := "a", children := [.addAbility { id := "x" }] },
      { id := "b", parent := some "a" }] }] }

/-- The same two ids, the first declared otherwise: another tag and section, abstract, with
a modifier instead of the ability. -/
def redefineOther : Document :=
  { sections := [
      { tag := "naval-unit-types", types := [
        { tag := "naval-unit-type", id := "a", isAbstract := some true,
          children := [.addModifier { id := "m", value := Binary32.hundred }] }] },
      { types := [{ id := "b", parent := some "a" }] }] }

/-- A document that redefines the first type and patches the second. -/
def redefineDoc : Document :=
  { sections := [{ types := [
      { id := "b", children := [.deleteAbility "x"] },
      { id := "a", preserve := some false, children := [.addAbility { id := "y" }] }] }] }

/-- The registry after loading `redefineBase`. -/
def redefineBaseLoaded : Registry := (withOptions {}).run [.load redefineBase]

/-- The registry after loading `redefineOther`. -/
def redefineOtherLoaded : Registry := (withOptions {}).run [.load redefineOther]

theorem redefineSample_finalize_eq :
    redefineBaseLoaded.Reachable ∧ redefineBaseLoaded.phase = .loading ∧
      redefineBaseLoaded.types =
        [] ++ redefineBaseLoaded.types.head! :: redefineBaseLoaded.types.tail ∧
      redefineOtherLoaded = { redefineBaseLoaded with
        types := [] ++ redefineOtherLoaded.types.head! :: redefineBaseLoaded.types.tail } ∧
      redefineOtherLoaded.types.head!.id = redefineBaseLoaded.types.head!.id ∧
      redefineOtherLoaded.types.head!.index = redefineBaseLoaded.types.head!.index ∧
      redefineOtherLoaded.types.head!.edits.filter
          redefineBaseLoaded.options.redefineClears.keeps =
        redefineBaseLoaded.types.head!.edits.filter
          redefineBaseLoaded.options.redefineClears.keeps ∧
      redefineDoc.validate = .ok () ∧
      (∃ p ∈ redefineDoc.declarations, p.2.id = redefineBaseLoaded.types.head!.id ∧
        redefineBaseLoaded.options.reloadMode p.2.preserve = .redefine) ∧
      ∃ r₁ r₂ rep₁ rep₂, redefineBaseLoaded.load redefineDoc = .ok (r₁, rep₁) ∧
        redefineOtherLoaded.load redefineDoc = .ok (r₂, rep₂) ∧ r₁.finalize = r₂.finalize := by
  have hr : redefineBaseLoaded.Reachable := ⟨{}, _, rfl⟩
  have hl : redefineBaseLoaded.phase = .loading := by decide
  have h₁ : redefineBaseLoaded.types =
      [] ++ redefineBaseLoaded.types.head! :: redefineBaseLoaded.types.tail := by decide
  have h₂ : redefineOtherLoaded = { redefineBaseLoaded with
      types := [] ++ redefineOtherLoaded.types.head! :: redefineBaseLoaded.types.tail } := by
    decide
  have hid : redefineOtherLoaded.types.head!.id = redefineBaseLoaded.types.head!.id := by decide
  have hidx : redefineOtherLoaded.types.head!.index = redefineBaseLoaded.types.head!.index := by
    decide
  have hkept : redefineOtherLoaded.types.head!.edits.filter
        redefineBaseLoaded.options.redefineClears.keeps =
      redefineBaseLoaded.types.head!.edits.filter
        redefineBaseLoaded.options.redefineClears.keeps := by decide
  have hv : redefineDoc.validate = .ok () := by decide
  have hre : ∃ p ∈ redefineDoc.declarations, p.2.id = redefineBaseLoaded.types.head!.id ∧
      redefineBaseLoaded.options.reloadMode p.2.preserve = .redefine := by decide
  exact ⟨hr, hl, h₁, h₂, hid, hidx, hkept, hv, hre,
    finalize_load_eq_of_redefined hr hl h₁ h₂ hid hidx hkept hv hre⟩

/-! ## Loading twice under full redefinition -/

/-- The last declaration of an id in a list of declarations, if any. -/
def lastDeclaration (ds : List (String × Declaration)) (x : String) :
    Option (String × Declaration) :=
  ds.reverse.find? (·.2.id == x)

theorem lastDeclaration_append_singleton (ds : List (String × Declaration))
    (p : String × Declaration) (x : String) :
    lastDeclaration (ds ++ [p]) x = if p.2.id = x then some p else lastDeclaration ds x := by
  by_cases h : p.2.id = x <;> simp [lastDeclaration, h]

/-- **When every declaration redefines and redefinitions clear everything, the last
declaration of an id decides its type**, up to live containers and scopes: it is what that
declaration makes of a new type at the same load index. A type no declaration names is left
as it was. -/
theorem bare_of_mem_declareAll {o : LoadOptions}
    (hall : o.redefineClears = { abilities := true, modifiers := true, scopes := true })
    (ds : List (String × Declaration)) (hre : ∀ p ∈ ds, o.reloadMode p.2.preserve = .redefine)
    (r : Registry) (ho : r.options = o) :
    ∀ t ∈ (r.declareAll ds).types,
      (∀ p, lastDeclaration ds t.id = some p →
        t.bare = (p.2.children.foldl RuleType.apply (created p.1 p.2 t.index)).bare) ∧
      (lastDeclaration ds t.id = none → t ∈ r.types) := by
  induction ds using List.reverseRecOn with
  | nil => exact fun t ht => ⟨fun p h => by simp [lastDeclaration] at h, fun _ => ht⟩
  | append_singleton ds q ih =>
    intro t ht
    have hq := hre q (by simp)
    have ih := ih fun p hp => hre p (by simp [hp])
    rw [declareAll_append, declareAll, List.foldl_cons, List.foldl_nil] at ht
    have hopt : (r.declareAll ds).options = o := by rw [options_declareAll, ho]
    rcases mem_declare ht with ⟨htq, hnew | ⟨u, hu, huq, rfl⟩⟩ | ⟨htq, ht'⟩
    · -- the last declaration of the id created it, at the next index
      obtain ⟨-, rfl⟩ := hnew
      refine ⟨fun p hp => ?_, fun hp => ?_⟩
      · rw [lastDeclaration_append_singleton, if_pos htq.symm, Option.some.injEq] at hp
        subst hp
        rw [index_foldl_apply]
        rfl
      · rw [lastDeclaration_append_singleton, if_pos htq.symm] at hp
        cases hp
    · -- or redefined a type of its id, which keeps its index and forgets the rest
      refine ⟨fun p hp => ?_, fun hp => ?_⟩
      · rw [lastDeclaration_append_singleton, if_pos htq.symm, Option.some.injEq] at hp
        subst hp
        rw [index_foldl_apply, index_reload, hopt]
        exact bare_foldl_apply_congr (bare_reload_wiped hq hall huq) _
      · rw [lastDeclaration_append_singleton, if_pos htq.symm] at hp
        cases hp
    · rw [lastDeclaration_append_singleton, if_neg (Ne.symm htq)]
      exact ih t ht'

/-- Declaring only known ids keeps the ids and the load indices of the table, and the next
index. -/
theorem LoadingInv.declareAll_of_mem {D : List String} {M : Registry} (hi : LoadingInv D M)
    {ds : List (String × Declaration)} (hds : ∀ p ∈ ds, p.2.id ∈ D) :
    (M.declareAll ds).types.map (·.id) = M.types.map (·.id) ∧
      (M.declareAll ds).types.map (·.index) = M.types.map (·.index) ∧
      M.declareAll ds = { M with types := (M.declareAll ds).types } := by
  have hi' : LoadingInv _ (M.declareAll ds) := hi.foldl_declare ds
  have hids : (M.declareAll ds).types.map (·.id) = M.types.map (·.id) := by
    rw [hi'.ids, hi.ids]
    refine eraseDups_append_of_subset _ _ fun x hx => ?_
    obtain ⟨p, hp, rfl⟩ := List.mem_map.1 hx
    exact hds p hp
  have hlen : (M.declareAll ds).types.length = M.types.length := by
    simpa using congrArg List.length hids
  refine ⟨hids, by rw [hi'.indices, hi.indices, hlen], ?_⟩
  conv_lhs => rw [declareAll_eq_with M ds]
  rw [hi'.nextIndex, hi.nextIndex, hlen]

/-- Under full redefinition, declaring a run of redefinitions again into the registry it made
keeps every bare type in place: a type the run names is made again by its last declaration at
the same index, and one it does not name is left as it was. -/
theorem map_bare_declareAll_again {o : LoadOptions}
    (hall : o.redefineClears = { abilities := true, modifiers := true, scopes := true })
    {ds : List (String × Declaration)} (hre : ∀ p ∈ ds, o.reloadMode p.2.preserve = .redefine)
    {S : Registry} (ho : S.options = o) {D : List String} (hi : LoadingInv D (S.declareAll ds))
    (hds : ∀ p ∈ ds, p.2.id ∈ D) :
    (S.declareAll ds).types.map bare = ((S.declareAll ds).declareAll ds).types.map bare := by
  obtain ⟨hids, hidx, -⟩ := hi.declareAll_of_mem hds
  generalize hM : S.declareAll ds = M at hi hids hidx ⊢
  have hoM : M.options = o := by rw [← hM, options_declareAll, ho]
  have hlen : (M.declareAll ds).types.length = M.types.length := by
    simpa using congrArg List.length hids
  apply List.ext_getElem (by simp [hlen])
  intro i h₁ h₂
  simp only [List.length_map] at h₁ h₂
  simp only [List.getElem_map]
  have hid_i : (M.declareAll ds).types[i].id = M.types[i].id := by
    simpa [h₁, h₂] using congrArg (·[i]?) hids
  have hidx_i : (M.declareAll ds).types[i].index = M.types[i].index := by
    simpa [h₁, h₂] using congrArg (·[i]?) hidx
  have ht₁ := bare_of_mem_declareAll hall ds hre S ho M.types[i]
    (by rw [hM]; exact List.getElem_mem h₁)
  have ht₂ := bare_of_mem_declareAll hall ds hre M hoM _ (List.getElem_mem h₂)
  rw [hid_i, hidx_i] at ht₂
  cases hlast : lastDeclaration ds M.types[i].id with
  | some p => rw [ht₁.1 p hlast, ht₂.1 p hlast]
  | none =>
    -- the type at `i` after the second run was in the table, with the id of the one at `i`
    exact congrArg bare (List.inj_on_of_nodup_map hi.nodup_ids (List.getElem_mem h₁)
      (ht₂.2 hlast) hid_i.symm)

/-- **Under full redefinition, loading a document twice finalizes as loading it once.** For
a reachable loading registry whose redefinitions clear every kind of content, and a valid
document every declaration of which resolves to a redefinition (however often it names an
id), the document loads, loads again, and finalize then gives the same result as after the
first load: the same error, or equal registries. -/
theorem finalize_load_twice_eq {S : Registry} (hr : S.Reachable) (hl : S.phase = .loading)
    (hall : S.options.redefineClears = { abilities := true, modifiers := true, scopes := true })
    {doc : Document} (hv : doc.validate = .ok ())
    (hre : ∀ p ∈ doc.declarations, S.options.reloadMode p.2.preserve = .redefine) :
    ∃ r₁ r₂ rep₁ rep₂, S.load doc = .ok (r₁, rep₁) ∧ r₁.load doc = .ok (r₂, rep₂) ∧
      r₂.finalize = r₁.finalize := by
  obtain ⟨D, hi⟩ := hr.loadingInv hl
  have hi₁ : LoadingInv _ (S.declareAll doc.declarations) := hi.foldl_declare doc.declarations
  have hl₁ : (S.merge doc).1.phase = .loading := by
    rw [merge_fst_eq_declareAll]
    exact hi₁.phase
  refine ⟨(S.merge doc).1, ((S.merge doc).1.merge doc).1, (S.merge doc).2,
    ((S.merge doc).1.merge doc).2, load_eq_ok_of_validate hl hv, load_eq_ok_of_validate hl₁ hv, ?_⟩
  rw [merge_fst_eq_declareAll, merge_fst_eq_declareAll]
  -- the first load declares every id of the document, so the second creates nothing
  have hds : ∀ p ∈ doc.declarations, p.2.id ∈ D ++ doc.declarations.map (·.2.id) :=
    fun p hp => List.mem_append_right _ (List.mem_map_of_mem hp)
  rw [(hi₁.declareAll_of_mem hds).2.2,
    ← finalize_congr hi₁.phase hi₁.nodup_ids (map_bare_declareAll_again hall hre rfl hi₁ hds)]

/-- A document that names `a` twice, with a child `b` between. -/
def reloadSample : Document :=
  { sections := [{ types := [
      { id := "a", children := [.addAbility { id := "x" }] },
      { id := "b", parent := some "a", children := [.deleteAbility "x"] },
      { id := "a", isAbstract := some true,
        children := [.addModifier { id := "m", value := Binary32.hundred }] }] }] }

theorem reloadSample_finalize_eq :
    (withOptions { reload := .redefine }).Reachable ∧
      (withOptions { reload := .redefine }).phase = .loading ∧
      (withOptions { reload := .redefine }).options.redefineClears =
        { abilities := true, modifiers := true, scopes := true } ∧
      reloadSample.validate = .ok () ∧
      (∀ p ∈ reloadSample.declarations,
        (withOptions { reload := .redefine }).options.reloadMode p.2.preserve = .redefine) ∧
      ∃ r₁ r₂ rep₁ rep₂, (withOptions { reload := .redefine }).load reloadSample = .ok (r₁, rep₁) ∧
        r₁.load reloadSample = .ok (r₂, rep₂) ∧ r₂.finalize = r₁.finalize := by
  have hr : (withOptions { reload := .redefine }).Reachable := ⟨{ reload := .redefine }, [], rfl⟩
  have hl : (withOptions { reload := .redefine }).phase = .loading := rfl
  have hall : (withOptions { reload := .redefine }).options.redefineClears =
      { abilities := true, modifiers := true, scopes := true } := rfl
  have hv : reloadSample.validate = .ok () := by decide
  have hre : ∀ p ∈ reloadSample.declarations,
      (withOptions { reload := .redefine }).options.reloadMode p.2.preserve = .redefine := by
    decide
  exact ⟨hr, hl, hall, hv, hre, finalize_load_twice_eq hr hl hall hv hre⟩

end Registry

end Ruleset
