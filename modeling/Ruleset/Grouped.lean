/-!
# Entries grouped by key, in order of arrival

`Grouped α` keeps entries under string keys. Groups are listed in the order in which their
keys first arrived; a key that is erased and added again goes to the end. Within a group,
entries keep the order in which they were added, and an entry equal to one already there
(by the relation given to `add`) is not added twice.

* `Grouped.get` — the entries under a key; the view through which the operations are stated.
* `Grouped.add`, `Grouped.erase`, `Grouped.entries`, `Grouped.keys`.
-/

namespace Ruleset

/-- Entries grouped under string keys. -/
structure Grouped (α : Type) where
  groups : List (String × List α) := []
  deriving DecidableEq, Repr, Inhabited

namespace Grouped

variable {α : Type}

/-- The entries under a key, in the order they were added. -/
def get (g : Grouped α) (key : String) : List α :=
  ((g.groups.find? fun p => p.1 == key).map Prod.snd).getD []

/-- The keys, in order of arrival. -/
def keys (g : Grouped α) : List String := g.groups.map Prod.fst

/-- All entries, group after group. -/
def entries (g : Grouped α) : List α := g.groups.flatMap Prod.snd

def isEmpty (g : Grouped α) : Bool := g.groups.isEmpty

/-- Appends `a` under `key` unless an entry `same` to it is there; a new key starts a group
at the end. -/
def addTo (same : α → α → Bool) (key : String) (a : α) :
    List (String × List α) → List (String × List α)
  | [] => [(key, [a])]
  | (k, xs) :: rest =>
    if k = key then
      if xs.any (fun x => same x a) then (k, xs) :: rest else (k, xs ++ [a]) :: rest
    else (k, xs) :: addTo same key a rest

/-- Adds an entry under a key. -/
def add (same : α → α → Bool) (key : String) (a : α) (g : Grouped α) : Grouped α :=
  ⟨addTo same key a g.groups⟩

/-- Removes the group of a key. -/
def erase (key : String) (g : Grouped α) : Grouped α :=
  ⟨g.groups.filter fun p => p.1 != key⟩

theorem get_addTo_same (same : α → α → Bool) (key : String) (a : α)
    (gs : List (String × List α)) :
    get ⟨addTo same key a gs⟩ key =
      if (get ⟨gs⟩ key).any (fun x => same x a) then get ⟨gs⟩ key else get ⟨gs⟩ key ++ [a] := by
  induction gs with
  | nil => simp [addTo, get]
  | cons p rest ih =>
    obtain ⟨k, xs⟩ := p
    by_cases h : k = key
    · subst h
      by_cases hx : xs.any (fun x => same x a) = true <;> simp [addTo, get, hx]
    · simp only [addTo, h, if_false]
      simpa [get, h] using ih

theorem get_add (same : α → α → Bool) (key other : String) (a : α) (g : Grouped α) :
    (g.add same key a).get other =
      if other = key ∧ (g.get key).all (fun x => !same x a) then g.get key ++ [a]
      else g.get other := by
  obtain ⟨gs⟩ := g
  by_cases ho : other = key
  · subst ho
    rw [add, get_addTo_same]
    by_cases h : (get ⟨gs⟩ other).any (fun x => same x a) = true
    · have : ¬ (get ⟨gs⟩ other).all (fun x => !same x a) = true := by
        simpa [List.any_eq_true, List.all_eq_true] using h
      simp [h, this]
    · have : (get ⟨gs⟩ other).all (fun x => !same x a) = true := by
        simpa [List.any_eq_true, List.all_eq_true] using h
      simp [h, this]
  · simp only [ho, false_and, if_false, add]
    induction gs with
    | nil => simp [addTo, get, Ne.symm ho]
    | cons p rest ih =>
      obtain ⟨k, xs⟩ := p
      by_cases h : k = key
      · subst h
        by_cases hx : xs.any (fun x => same x a) = true <;> simp [addTo, get, hx, Ne.symm ho]
      · by_cases hk : k = other
        · subst hk; simp [addTo, get, h]
        · simp only [addTo, h, if_false]
          simpa [get, hk] using ih

theorem get_erase (key other : String) (g : Grouped α) :
    (g.erase key).get other = if other = key then [] else g.get other := by
  obtain ⟨gs⟩ := g
  induction gs with
  | nil => simp [erase, get]
  | cons p rest ih =>
    obtain ⟨k, xs⟩ := p
    by_cases h : k = key
    · subst h
      by_cases ho : other = k
      · subst ho; simpa [erase, get] using ih
      · simp [erase, get, ho] at ih ⊢
        have : ¬ k = other := fun e => ho e.symm
        simp [this, ih]
    · by_cases ho : other = key
      · subst ho; simpa [erase, get, h] using ih
      · simp [erase, get, h, ho] at ih ⊢
        by_cases hk : k = other <;> simp [hk, ih]

end Grouped

end Ruleset
