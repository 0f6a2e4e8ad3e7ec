import Ruleset.Container
import Mathlib.Data.List.Perm.Basic
import Mathlib.Data.List.Nodup

/-!
# The order in which modifiers act

A container applies the modifiers of an id that are active on the turn and apply to the
target one after another, by ascending `index`; modifiers with equal indexes act in the order
the container holds them. The steps do not commute (an addition and a percentage give
different results in either order), so the order is the whole of the specification.

* `IsStableSortBy key l r` — `r` lists the entries of `l` by ascending `key`, entries with
  equal keys in their order in `l`. At most one list does (`IsStableSortBy.unique`), and
  merge sort gives it (`isStableSortBy_mergeSort`).
* `Container.applyModifiers_index_order` — applying the modifiers is folding them in that
  order; so two containers whose acting modifiers are the same up to order and have distinct
  indexes give the same result, whatever the order the modifiers were added in.
-/

namespace Ruleset

variable {α : Type}

/-- `r` lists the entries of `l` by ascending key, entries with equal keys in their order
in `l`. -/
structure IsStableSortBy (key : α → Int) (l r : List α) : Prop where
  sorted : r.Pairwise fun x y => key x ≤ key y
  ties : ∀ k, r.filter (key · = k) = l.filter (key · = k)

namespace IsStableSortBy

variable {key : α → Int}

theorem mem_iff {l r : List α} (h : IsStableSortBy key l r) (x : α) : x ∈ r ↔ x ∈ l := by
  have := congrArg (x ∈ ·) (h.ties (key x))
  simpa using this

/-- Two lists sorted by key that agree on every class of equal keys are equal: the first
entries have the least key of both, so they open the same class and are the same. -/
theorem eq_of_ties {r₁ r₂ : List α} (h₁ : r₁.Pairwise fun x y => key x ≤ key y)
    (h₂ : r₂.Pairwise fun x y => key x ≤ key y)
    (hties : ∀ k, r₁.filter (key · = k) = r₂.filter (key · = k)) : r₁ = r₂ := by
  induction r₁ generalizing r₂ with
  | nil =>
    cases r₂ with
    | nil => rfl
    | cons y ys => simpa using (hties (key y)).symm
  | cons x xs ih =>
    cases r₂ with
    | nil => simpa using hties (key x)
    | cons y ys =>
      rw [List.pairwise_cons] at h₁ h₂
      -- each head lies in the other list, so neither key is below the other
      have hy : y ∈ x :: xs := by
        have := congrArg (y ∈ ·) (hties (key y))
        simpa using this
      have hx : x ∈ y :: ys := by
        have := congrArg (x ∈ ·) (hties (key x))
        simpa using this
      have hxy : key x ≤ key y := by
        rcases List.mem_cons.1 hy with rfl | hy
        · exact Int.le_refl _
        · exact h₁.1 y hy
      have hyx : key y ≤ key x := by
        rcases List.mem_cons.1 hx with rfl | hx
        · exact Int.le_refl _
        · exact h₂.1 x hx
      have hk : key y = key x := Int.le_antisymm hyx hxy
      have hhead := hties (key x)
      simp only [List.filter_cons, hk, decide_true, if_true, List.cons.injEq] at hhead
      obtain ⟨rfl, -⟩ := hhead
      congr 1
      refine ih h₁.2 h₂.2 fun k => ?_
      have := hties k
      by_cases hxk : key x = k <;> simpa [List.filter_cons, hxk] using this

/-- At most one list is a stable sort of a list by a key. -/
theorem unique {l r₁ r₂ : List α} (h₁ : IsStableSortBy key l r₁)
    (h₂ : IsStableSortBy key l r₂) : r₁ = r₂ :=
  eq_of_ties h₁.sorted h₂.sorted fun k => (h₁.ties k).trans (h₂.ties k).symm

/-- When the keys are distinct, a list sorted by key is a stable sort of any of its
permutations. -/
theorem of_perm {l r : List α} (h : IsStableSortBy key l r) {l' : List α} (hp : l.Perm l')
    (hnd : (l.map key).Nodup) : IsStableSortBy key l' r where
  sorted := h.sorted
  ties k := by
    rw [h.ties k]
    -- a class of a list with distinct keys has at most one entry
    have hsub : ∀ m : List α, (m.map key).Nodup → ∀ x ∈ m.filter (key · = k),
        ∀ y ∈ m.filter (key · = k), x = y := by
      intro m hm x hx y hy
      simp only [List.mem_filter, decide_eq_true_eq] at hx hy
      exact List.inj_on_of_nodup_map hm hx.1 hy.1 (hx.2.trans hy.2.symm)
    have htrue : ∀ m : List α, m.Pairwise fun _ _ => True := fun _ =>
      List.pairwise_of_forall fun _ _ => trivial
    refine @List.Perm.eq_of_pairwise _ (fun _ _ => True) _ _ (fun x y hx hy _ _ => ?_) (htrue _)
      (htrue _) (hp.filter _)
    exact hsub l' ((hp.map key).nodup_iff.1 hnd) x ((hp.filter _).subset hx) y hy

end IsStableSortBy

/-- Merge sort by key is the stable sort. -/
theorem isStableSortBy_mergeSort (key : α → Int) (l : List α) :
    IsStableSortBy key l (l.mergeSort fun x y => key x ≤ key y) where
  sorted := by
    have := @List.pairwise_mergeSort _ (fun x y => decide (key x ≤ key y))
      (fun a b c hab hbc => by simp only [decide_eq_true_eq] at *; exact Int.le_trans hab hbc)
      (fun a b => by simpa using Int.le_total (key a) (key b)) l
    simpa using this
  ties k := by
    -- the class of `k` is sorted already, so merge sort keeps it as a sublist
    have hsorted : (l.filter (key · = k)).Pairwise fun x y => decide (key x ≤ key y) = true :=
      List.pairwise_of_forall_mem_list fun x hx y hy => by
        simp only [List.mem_filter, decide_eq_true_eq] at hx hy
        simp [hx.2, hy.2]
    have hsub := List.sublist_mergeSort
      (fun a b c hab hbc => by simp only [decide_eq_true_eq] at *; exact Int.le_trans hab hbc)
      (fun a b => by simpa using Int.le_total (key a) (key b)) hsorted List.filter_sublist
    have hsub' := hsub.filter (key · = k)
    simp only [List.filter_filter, Bool.and_self] at hsub'
    exact (hsub'.eq_of_length ((List.mergeSort_perm l _).filter _).length_eq.symm).symm

namespace Container

/-- The modifiers with the id that are active on the turn and apply to the target, in the
order the container holds them. -/
def liveModifiers (c : Container) (id : String) (target : Option Target) (turn : Option Nat) :
    List Modifier :=
  (c.modifiersWithId id).filter fun m => m.activeOn turn && m.appliesTo target

theorem actingModifiers_eq (c : Container) (id : String) (target : Option Target)
    (turn : Option Nat) :
    c.actingModifiers id target turn =
      (c.liveModifiers id target turn).mergeSort fun m n => m.index ≤ n.index :=
  rfl

/-- **Modifiers act by index, ties in container order.** Applying the modifiers of an id is
folding every stable sort by index of the live ones over the base quantity, and the acting
list is that sort. So when two containers hold the same live modifiers up to order, with
distinct indexes, they give the same result, however the modifiers were added. -/
theorem applyModifiers_index_order (c c' : Container) (base : Binary32) (id : String)
    (target : Option Target) (turn : Option Nat) :
    (∀ r, IsStableSortBy Modifier.index (c.liveModifiers id target turn) r →
      c.applyModifiers base id target turn = r.foldl (fun b m => m.apply b) base) ∧
    IsStableSortBy Modifier.index (c.liveModifiers id target turn)
      (c.actingModifiers id target turn) ∧
    ((c.liveModifiers id target turn).Perm (c'.liveModifiers id target turn) →
      ((c.liveModifiers id target turn).map Modifier.index).Nodup →
      c.applyModifiers base id target turn = c'.applyModifiers base id target turn) := by
  have hsort : ∀ d : Container, IsStableSortBy Modifier.index (d.liveModifiers id target turn)
      (d.actingModifiers id target turn) := fun d => by
    rw [actingModifiers_eq]
    exact isStableSortBy_mergeSort Modifier.index _
  refine ⟨fun r hr => ?_, hsort c, fun hp hnd => ?_⟩
  · rw [← (hsort c).unique hr]
    rfl
  · -- the acting list of `c` is also the stable sort of the live modifiers of `c'`
    have hc' := (hsort c).of_perm hp hnd
    show (c.actingModifiers id target turn).foldl _ base =
      (c'.actingModifiers id target turn).foldl _ base
    rw [hc'.unique (hsort c')]

/-- An additive offence modifier of 2 that acts first. -/
def offenceFlat : Modifier := { id := "offence", value := ⟨0x40000000⟩, index := 1 }

/-- A percentage offence modifier of 50 that acts second. -/
def offenceBonus : Modifier :=
  { id := "offence", value := ⟨0x42480000⟩, kind := .percentage, index := 2 }

/-- The bonus added before the flat modifier. -/
def bonusFirst : Container := (({} : Container).addModifier offenceBonus).addModifier offenceFlat

/-- The flat modifier added before the bonus. -/
def flatFirst : Container := (({} : Container).addModifier offenceFlat).addModifier offenceBonus

/-- On 2, the flat modifier acts before the bonus although it was added after it, giving
(2 + 2) · 1.5; added in the other order, the two modifiers give the same. -/
theorem bonusFirst_index_order :
    IsStableSortBy Modifier.index (bonusFirst.liveModifiers "offence" none none)
        [offenceFlat, offenceBonus] ∧
      bonusFirst.applyModifiers ⟨0x40000000⟩ "offence" none none =
        [offenceFlat, offenceBonus].foldl (fun b m => m.apply b) ⟨0x40000000⟩ ∧
      (bonusFirst.liveModifiers "offence" none none).Perm
        (flatFirst.liveModifiers "offence" none none) ∧
      ((bonusFirst.liveModifiers "offence" none none).map Modifier.index).Nodup ∧
      bonusFirst.applyModifiers ⟨0x40000000⟩ "offence" none none =
        flatFirst.applyModifiers ⟨0x40000000⟩ "offence" none none := by
  have hsorted : IsStableSortBy Modifier.index (bonusFirst.liveModifiers "offence" none none)
      [offenceFlat, offenceBonus] := by
    have hl : bonusFirst.liveModifiers "offence" none none = [offenceBonus, offenceFlat] := by
      decide
    refine ⟨by decide, fun k => ?_⟩
    rw [hl]
    by_cases h₁ : (1 : Int) = k
    · have h₂ : (2 : Int) ≠ k := by omega
      simp [offenceFlat, offenceBonus, h₁, h₂]
    · by_cases h₂ : (2 : Int) = k <;> simp [offenceFlat, offenceBonus, h₁, h₂]
  have hperm : (bonusFirst.liveModifiers "offence" none none).Perm
      (flatFirst.liveModifiers "offence" none none) := by decide
  have hnd : ((bonusFirst.liveModifiers "offence" none none).map Modifier.index).Nodup := by
    decide
  have h := applyModifiers_index_order bonusFirst flatFirst ⟨0x40000000⟩ "offence" none none
  exact ⟨hsorted, h.1 _ hsorted, hperm, hnd, h.2.2 hperm hnd⟩

end Container

end Ruleset
