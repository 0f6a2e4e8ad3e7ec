import Ruleset.Container
import Mathlib.Data.List.Induction
import Mathlib.Data.List.Nodup

/-!
# Well-formed groups, and what a group holds after a run of edits

A `Grouped` store behaves like an insertion-ordered map from keys to non-empty lists. This
module states that shape as a predicate and shows that every operation keeps it, and it reads
a group as a function of the entries added since the key was last erased.

* `Grouped.WellFormed` — keys pairwise distinct and no group empty; `Grouped.Keyed` — every
  entry sits under its own key. Both hold of the empty store and survive `add` and `erase`.
* `Grouped.mem_keys_iff` — in a well-formed store a key is listed exactly when its group is
  not empty, which is what lets an index built from `keys` be read through `get`.
* `firstOccurrences same seen l` — the entries of `l` that no earlier entry is `same` to.
  `get_add_eq_firstOccurrences` shows that adding entries one by one keeps exactly these,
  provided `same` is transitive (it need not be reflexive: a modifier with a NaN value is
  `same` to nothing).
-/

namespace Ruleset

variable {α : Type}

/-- The entries of `l` that no entry before them is `same` to, in order; `seen` are the
entries that come before `l`. -/
def firstOccurrences (same : α → α → Bool) (seen : List α) : List α → List α
  | [] => []
  | x :: xs =>
    if seen.any (same · x) then firstOccurrences same (seen ++ [x]) xs
    else x :: firstOccurrences same (seen ++ [x]) xs

theorem firstOccurrences_append_singleton (same : α → α → Bool) (seen l : List α) (x : α) :
    firstOccurrences same seen (l ++ [x]) =
      firstOccurrences same seen l ++ if (seen ++ l).any (same · x) then [] else [x] := by
  induction l generalizing seen with
  | nil => by_cases h : seen.any (same · x) <;> simp [firstOccurrences, h]
  | cons y ys ih =>
    by_cases h : seen.any (same · y) <;> simp [firstOccurrences, h, ih]

/-- For a transitive `same`, what the kept entries are `same` to is what all entries are
`same` to: a dropped entry has an earlier kept one `same` to it. -/
theorem any_firstOccurrences {same : α → α → Bool}
    (trans : ∀ x y z, same x y = true → same y z = true → same x z = true) (l : List α) (y : α) :
    (firstOccurrences same [] l).any (same · y) = l.any (same · y) := by
  induction l using List.reverseRecOn with
  | nil => rfl
  | append_singleton l x ih =>
    rw [firstOccurrences_append_singleton, List.nil_append]
    by_cases hx : l.any (same · x) = true
    · simp only [hx, if_true, List.append_nil, ih, List.any_append, List.any_cons,
        List.any_nil, Bool.or_false]
      by_cases hxy : same x y = true
      · obtain ⟨z, hz, hzx⟩ := List.any_eq_true.1 hx
        have : l.any (same · y) = true := List.any_eq_true.2 ⟨z, hz, trans z x y hzx hxy⟩
        simp [this, hxy]
      · simp [hxy]
    · simp [hx, ih]

namespace Grouped

/-- Keys pairwise distinct and no group empty: the shape of an insertion-ordered map to
non-empty lists. -/
structure WellFormed (g : Grouped α) : Prop where
  keys_nodup : g.keys.Nodup
  groups_ne_nil : ∀ p ∈ g.groups, p.2 ≠ []

/-- Every entry sits under its own key. -/
def Keyed (key : α → String) (g : Grouped α) : Prop :=
  ∀ p ∈ g.groups, ∀ x ∈ p.2, key x = p.1

@[simp] theorem get_empty (key : String) : ({} : Grouped α).get key = [] := rfl

@[simp] theorem entries_empty : ({} : Grouped α).entries = [] := rfl

theorem wellFormed_empty : (({} : Grouped α)).WellFormed :=
  ⟨List.nodup_nil, fun _ h => nomatch h⟩

theorem keyed_empty (key : α → String) : ({} : Grouped α).Keyed key := fun _ h => nomatch h

theorem keys_addTo (same : α → α → Bool) (key : String) (a : α)
    (gs : List (String × List α)) :
    (addTo same key a gs).map Prod.fst =
      if key ∈ gs.map Prod.fst then gs.map Prod.fst else gs.map Prod.fst ++ [key] := by
  induction gs with
  | nil => simp [addTo]
  | cons p rest ih =>
    obtain ⟨k, xs⟩ := p
    by_cases hk : k = key
    · subst hk
      by_cases hx : xs.any (fun x => same x a) = true <;> simp [addTo, hx]
    · simp only [addTo, hk, if_false, List.map_cons, ih, List.mem_cons, Ne.symm hk, false_or]
      split <;> simp

theorem mem_addTo {same : α → α → Bool} {key : String} {a : α}
    {gs : List (String × List α)} {p : String × List α} (h : p ∈ addTo same key a gs) :
    p ∈ gs ∨ (p.1 = key ∧ ∃ xs, p.2 = xs ++ [a] ∧ (key, xs) ∈ gs) ∨ p = (key, [a]) := by
  induction gs with
  | nil => simp_all [addTo]
  | cons q rest ih =>
    obtain ⟨k, xs⟩ := q
    simp only [addTo] at h
    split at h
    · rename_i hk
      subst hk
      split at h
      · exact .inl h
      · rcases List.mem_cons.1 h with rfl | h
        · exact .inr (.inl ⟨rfl, xs, rfl, List.mem_cons_self⟩)
        · exact .inl (List.mem_cons_of_mem _ h)
    · rcases List.mem_cons.1 h with rfl | h
      · exact .inl List.mem_cons_self
      · rcases ih h with h | ⟨hp, ys, hys, hin⟩ | h
        · exact .inl (List.mem_cons_of_mem _ h)
        · exact .inr (.inl ⟨hp, ys, hys, List.mem_cons_of_mem _ hin⟩)
        · exact .inr (.inr h)

theorem WellFormed.add {g : Grouped α} (hg : g.WellFormed) (same : α → α → Bool)
    (key : String) (a : α) : (g.add same key a).WellFormed := by
  constructor
  · show ((addTo same key a g.groups).map Prod.fst).Nodup
    rw [keys_addTo]
    split
    · exact hg.keys_nodup
    · rename_i hk
      exact List.nodup_append.2 ⟨hg.keys_nodup, List.nodup_singleton key, by
        intro x hx y hy; simp only [List.mem_singleton] at hy; subst hy
        exact fun e => hk (e ▸ hx)⟩
  · intro p hp
    rcases mem_addTo hp with h | ⟨_, xs, hxs, _⟩ | rfl
    · exact hg.groups_ne_nil p h
    · simp [hxs]
    · simp

theorem Keyed.add {key : α → String} {g : Grouped α} (hg : g.Keyed key) (same : α → α → Bool)
    (a : α) : (g.add same (key a) a).Keyed key := by
  intro p hp x hx
  rcases mem_addTo hp with h | ⟨hp1, xs, hxs, hin⟩ | rfl
  · exact hg p h x hx
  · rw [hxs] at hx
    rcases List.mem_append.1 hx with hx | hx
    · rw [hp1]; exact hg _ hin x hx
    · rw [List.mem_singleton.1 hx, hp1]
  · rw [List.mem_singleton.1 hx]

theorem WellFormed.erase {g : Grouped α} (hg : g.WellFormed) (key : String) :
    (g.erase key).WellFormed := by
  constructor
  · exact hg.keys_nodup.sublist ((List.filter_sublist).map Prod.fst)
  · intro p hp
    exact hg.groups_ne_nil p (List.mem_of_mem_filter hp)

theorem Keyed.erase {key' : α → String} {g : Grouped α} (hg : g.Keyed key') (key : String) :
    (g.erase key).Keyed key' := fun p hp => hg p (List.mem_of_mem_filter hp)

theorem mem_entries_add {same : α → α → Bool} {key : String} {a x : α} {g : Grouped α}
    (h : x ∈ (g.add same key a).entries) : x ∈ g.entries ∨ x = a := by
  obtain ⟨p, hp, hx⟩ := List.mem_flatMap.1 h
  rcases mem_addTo hp with hp | ⟨_, xs, hxs, hin⟩ | rfl
  · exact .inl (List.mem_flatMap.2 ⟨p, hp, hx⟩)
  · rw [hxs] at hx
    rcases List.mem_append.1 hx with hx | hx
    · exact .inl (List.mem_flatMap.2 ⟨_, hin, hx⟩)
    · exact .inr (List.mem_singleton.1 hx)
  · exact .inr (List.mem_singleton.1 hx)

theorem mem_entries_erase {key : String} {x : α} {g : Grouped α}
    (h : x ∈ (g.erase key).entries) : x ∈ g.entries := by
  obtain ⟨p, hp, hx⟩ := List.mem_flatMap.1 h
  exact List.mem_flatMap.2 ⟨p, List.mem_of_mem_filter hp, hx⟩

/-- In a well-formed store a key is listed exactly when its group is not empty. -/
theorem mem_keys_iff {g : Grouped α} (hg : g.WellFormed) (key : String) :
    key ∈ g.keys ↔ g.get key ≠ [] := by
  unfold get keys
  constructor
  · intro hk
    obtain ⟨p, hp, rfl⟩ := List.mem_map.1 hk
    cases hf : g.groups.find? (fun q => q.1 == p.1) with
    | none => simp [List.find?_eq_none] at hf; exact absurd rfl (hf p.1 p.2 hp)
    | some q => exact hg.groups_ne_nil q (List.mem_of_find?_eq_some hf)
  · intro hne
    cases hf : g.groups.find? (fun q => q.1 == key) with
    | none => simp [hf] at hne
    | some q =>
      have := List.find?_some hf
      simp only [beq_iff_eq] at this
      exact List.mem_map.2 ⟨q, List.mem_of_find?_eq_some hf, this⟩

/-- A key's entries, in a keyed store, are entries of the store with that key. -/
theorem mem_entries_of_mem_get {key : α → String} {g : Grouped α} (hg : g.Keyed key)
    {k : String} {x : α} (h : x ∈ g.get k) : x ∈ g.entries ∧ key x = k := by
  unfold get at h
  cases hf : g.groups.find? (fun q => q.1 == k) with
  | none => simp [hf] at h
  | some q =>
    simp only [hf, Option.map_some, Option.getD_some] at h
    have hq := List.mem_of_find?_eq_some hf
    have hk := List.find?_some hf
    simp only [beq_iff_eq] at hk
    exact ⟨List.mem_flatMap.2 ⟨q, hq, h⟩, hk ▸ hg q hq x h⟩

/-- In a keyed store, an entry with key `k` is in the group of `k`. -/
theorem mem_get_of_mem_entries {key : α → String} {g : Grouped α} (hg : g.WellFormed)
    (hk : g.Keyed key) {x : α} (h : x ∈ g.entries) : x ∈ g.get (key x) := by
  obtain ⟨p, hp, hx⟩ := List.mem_flatMap.1 h
  have hpk : key x = p.1 := hk p hp x hx
  unfold get
  cases hf : g.groups.find? (fun q => q.1 == key x) with
  | none =>
    simp [List.find?_eq_none] at hf
    exact absurd hpk.symm (hf p.1 p.2 hp)
  | some q =>
    have hq := List.mem_of_find?_eq_some hf
    have hqk := List.find?_some hf
    simp only [beq_iff_eq] at hqk
    -- two groups with the same key are one, keys being distinct
    have : q = p := (List.inj_on_of_nodup_map hg.keys_nodup) hq hp (hqk.trans hpk)
    simpa [this] using hx

/-- Adding to a group keeps the first of the `same` entries since the key's group began. -/
theorem get_add_eq_firstOccurrences {same : α → α → Bool}
    (trans : ∀ x y z, same x y = true → same y z = true → same x z = true)
    {g : Grouped α} {key : String} {l : List α} (h : g.get key = firstOccurrences same [] l)
    (a : α) : (g.add same key a).get key = firstOccurrences same [] (l ++ [a]) := by
  rw [get_add, firstOccurrences_append_singleton, List.nil_append, ← h]
  have hany := any_firstOccurrences trans l a
  rw [← h] at hany
  by_cases ha : (g.get key).any (same · a) = true
  · have : ¬ (g.get key).all (fun x => !same x a) = true := by
      simpa [List.any_eq_true, List.all_eq_true] using ha
    simp [this, ← hany, ha]
  · have : (g.get key).all (fun x => !same x a) = true := by
      simpa [List.any_eq_true, List.all_eq_true] using ha
    simp [this, ← hany, ha]

end Grouped

end Ruleset
