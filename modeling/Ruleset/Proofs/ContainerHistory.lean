import Ruleset.Proofs.Replay

/-!
# What a container holds after any run of its operations

A container keeps its abilities and its modifiers in two stores of one kind (`Grouped`), and
each operation of a container is, on each store, a list of three elementary changes: add an
entry, erase a key, empty the store. A store is read here as a function of the changes made
to it since it was empty, once for any kind of entry, and then for both stores of a container.

* `Grouped.since` — the entries added under a key since the key was last erased or the store
  emptied; `Grouped.createdKeys` — the keys of the changes that started the groups still
  there, in the order of those changes.
* `Grouped.Reached` — the shape of a store after the changes `cs`: keys distinct, every listed
  key with a non-empty group, every entry under its own key and none `same` to an earlier one,
  the group of a key the first occurrences of what was added since it was last dropped, and
  the keys in the order their groups were started. `Grouped.reached_replay` is the run lemma.
* `Container.Op`, `Container.run` — the operations of a container and runs of them; an
  operation changes each store by its own list of changes (`exec_abilities`,
  `exec_modifiers`), so operations on abilities never touch the modifiers, nor the converse.
* `Container.run_reached` — both stores of every container a run reaches from the empty one
  have that shape, and removing an id reports the length of its group and keeps the other
  groups and their order.
-/

namespace Ruleset

variable {α : Type}

/-- Every entry kept is one that no earlier entry, kept or not, is `same` to. -/
theorem not_any_of_mem_firstOccurrences {same : α → α → Bool} {seen l : List α} {x : α}
    (hx : x ∈ firstOccurrences same seen l) : seen.any (same · x) = false := by
  induction l generalizing seen with
  | nil => simp [firstOccurrences] at hx
  | cons y ys ih =>
    -- a later entry is kept against a longer list, which starts with `seen`
    have hlater : x ∈ firstOccurrences same (seen ++ [y]) ys → seen.any (same · x) = false :=
      fun h => by
        have := ih h
        simp only [List.any_append, Bool.or_eq_false_iff] at this
        exact this.1
    unfold firstOccurrences at hx
    split at hx
    · exact hlater hx
    · rename_i hy
      rcases List.mem_cons.1 hx with rfl | hx
      · exact Bool.eq_false_iff.2 hy
      · exact hlater hx

/-- No kept entry is `same` to a kept entry after it. -/
theorem pairwise_firstOccurrences (same : α → α → Bool) (seen l : List α) :
    (firstOccurrences same seen l).Pairwise fun x y => same x y = false := by
  induction l generalizing seen with
  | nil => exact List.Pairwise.nil
  | cons y ys ih =>
    unfold firstOccurrences
    split
    · exact ih _
    · refine List.Pairwise.cons (fun z hz => ?_) (ih _)
      have := not_any_of_mem_firstOccurrences hz
      simp only [List.any_append, List.any_cons, List.any_nil, Bool.or_false,
        Bool.or_eq_false_iff] at this
      exact this.2

theorem firstOccurrences_sublist (same : α → α → Bool) (seen l : List α) :
    (firstOccurrences same seen l).Sublist l := by
  induction l generalizing seen with
  | nil => exact List.Sublist.slnil
  | cons y ys ih =>
    unfold firstOccurrences
    split
    · exact (ih _).cons y
    · exact (ih _).cons_cons y

/-- From nothing seen, the first entry is always kept. -/
theorem firstOccurrences_eq_nil_iff (same : α → α → Bool) (l : List α) :
    firstOccurrences same [] l = [] ↔ l = [] := by
  cases l with
  | nil => simp [firstOccurrences]
  | cons y ys => simp [firstOccurrences]

namespace Grouped

/-- One elementary change of a store. -/
inductive Change (α : Type) where
  | add (a : α)
  | erase (key : String)
  | clear

namespace Change

/-- What the change does to a store whose entries are compared by `same` and filed under
`key`. -/
def apply (same : α → α → Bool) (key : α → String) (g : Grouped α) : Change α → Grouped α
  | add a => g.add same (key a) a
  | erase k => g.erase k
  | clear => {}

/-- Whether the change drops the group of `k`. -/
def resets (k : String) : Change α → Bool
  | add _ => false
  | erase k' => k' == k
  | clear => true

/-- The entry the change adds under `k`, if any. -/
def addedUnder (key : α → String) (k : String) : Change α → Option α
  | add a => if key a = k then some a else none
  | erase _ | clear => none

end Change

/-- The store after the changes, in order. -/
def replay (same : α → α → Bool) (key : α → String) (g : Grouped α) (cs : List (Change α)) :
    Grouped α :=
  cs.foldl (Change.apply same key) g

/-- The entries added under `k` since the last change that dropped its group. -/
def since (key : α → String) (k : String) (cs : List (Change α)) : List α :=
  (cs.reverse.takeWhile fun c => !c.resets k).reverse.filterMap (Change.addedUnder key k)

/-- The keys of the groups the changes leave, in the order the groups were started: the
`i`-th change starts the group of its key when it adds under a key with nothing added since
its last reset, and the group is still there when no later change resets the key. -/
def createdKeys (key : α → String) (cs : List (Change α)) : List String :=
  cs.zipIdx.filterMap fun (c, i) =>
    match c with
    | .add a =>
      if (since key (key a) (cs.take i)).isEmpty && (cs.drop (i + 1)).all (!·.resets (key a))
      then some (key a) else none
    | .erase _ | .clear => none

@[simp] theorem replay_nil (same : α → α → Bool) (key : α → String) (g : Grouped α) :
    replay same key g [] = g := rfl

theorem replay_append (same : α → α → Bool) (key : α → String) (g : Grouped α)
    (cs ds : List (Change α)) :
    replay same key g (cs ++ ds) = replay same key (replay same key g cs) ds :=
  List.foldl_append

theorem since_append_singleton (key : α → String) (k : String) (cs : List (Change α))
    (c : Change α) :
    since key k (cs ++ [c]) =
      if c.resets k then [] else since key k cs ++ (c.addedUnder key k).toList := by
  unfold since
  by_cases h : c.resets k = true
  · simp [h]
  · cases hx : c.addedUnder key k <;> simp [h, hx]

theorem key_of_mem_since {key : α → String} {k : String} {cs : List (Change α)} {x : α}
    (hx : x ∈ since key k cs) : key x = k := by
  obtain ⟨c, -, hc⟩ := List.mem_filterMap.1 hx
  cases c with
  | add a =>
    simp only [Change.addedUnder] at hc
    split at hc
    · cases hc; assumption
    · cases hc
  | erase _ | clear => cases hc

/-- A change keeps the groups that it does not reset, in order, and may start one more. -/
theorem createdKeys_append_singleton (key : α → String) (cs : List (Change α)) (c : Change α) :
    createdKeys key (cs ++ [c]) =
      (createdKeys key cs).filter (!c.resets ·) ++
        match c with
        | .add a => if (since key (key a) cs).isEmpty then [key a] else []
        | .erase _ | .clear => [] := by
  unfold createdKeys
  rw [List.zipIdx_append, List.filterMap_append, List.filter_filterMap, List.zipIdx_singleton]
  congr 1
  · -- an earlier change sees the same past, and one more change after it
    apply List.filterMap_congr
    rintro ⟨c', i⟩ hmem
    have hi : i < cs.length := by simpa using (List.mem_zipIdx hmem).2.1
    cases c' with
    | add a =>
      dsimp only
      rw [List.take_append_of_le_length (by omega), List.drop_append_of_le_length (by omega)]
      simp only [List.all_append, List.all_cons, List.all_nil, Bool.and_true]
      by_cases h₁ : (since key (key a) (cs.take i)).isEmpty = true <;>
        by_cases h₂ : (cs.drop (i + 1)).all (!·.resets (key a)) = true <;>
        by_cases h₃ : c.resets (key a) = true <;> simp [h₁, h₂, h₃, Option.filter]
    | erase _ | clear => rfl
  · cases c with
    | add a =>
      have ht : (cs ++ [Change.add a]).take cs.length = cs := by simp
      have hd : (cs ++ [Change.add a]).drop (cs.length + 1) = [] := by simp
      simp only [Nat.zero_add, List.filterMap_cons, List.filterMap_nil, ht, hd, List.all_nil,
        Bool.and_true]
      by_cases h : (since key (key a) cs).isEmpty = true <;> simp [h]
    | erase _ | clear => rfl

/-- A key erased and added to again goes last. -/
example : createdKeys id [.add "a", .add "b", .erase "a", .add "a"] = ["b", "a"] := by decide

/-! ## The shape of a store after a run of changes -/

/-- The shape of a store after the changes `cs` from empty. -/
structure Reached (same : α → α → Bool) (key : α → String) (cs : List (Change α))
    (g : Grouped α) : Prop where
  keys_nodup : g.keys.Nodup
  get_ne_nil : ∀ k ∈ g.keys, g.get k ≠ []
  key_eq : ∀ k, ∀ x ∈ g.get k, key x = k
  pairwise : ∀ k, (g.get k).Pairwise fun x y => same x y = false
  get_eq : ∀ k, g.get k = firstOccurrences same [] (since key k cs)
  keys_eq : g.keys = createdKeys key cs

variable {same : α → α → Bool} {key : α → String}

/-- What a well-formed store whose groups and keys read off the changes has of the shape. -/
theorem reached_of {cs : List (Change α)} {g : Grouped α} (hw : g.WellFormed)
    (hget : ∀ k, g.get k = firstOccurrences same [] (since key k cs))
    (hkeys : g.keys = createdKeys key cs) : Reached same key cs g where
  keys_nodup := hw.keys_nodup
  get_ne_nil k hk := (mem_keys_iff hw k).1 hk
  key_eq k x hx := by
    rw [hget] at hx
    exact key_of_mem_since ((firstOccurrences_sublist same [] _).subset hx)
  pairwise k := by
    rw [hget]
    exact pairwise_firstOccurrences same [] _
  get_eq := hget
  keys_eq := hkeys

theorem reached_empty : Reached same key [] ({} : Grouped α) :=
  reached_of wellFormed_empty (fun _ => rfl) rfl

theorem keys_erase (k : String) (g : Grouped α) : (g.erase k).keys = g.keys.filter (· != k) := by
  simp only [keys, erase, List.filter_map]
  rfl

/-- **Step lemma.** One more change keeps the shape, for a transitive `same`. -/
theorem Reached.apply (trans : ∀ x y z, same x y = true → same y z = true → same x z = true)
    {cs : List (Change α)} {g : Grouped α} (hr : Reached same key cs g) (hw : g.WellFormed)
    (c : Change α) : Reached same key (cs ++ [c]) (c.apply same key g) ∧
      (c.apply same key g).WellFormed := by
  cases c with
  | add a =>
    have hw' := hw.add same (key a) a
    refine ⟨reached_of hw' (fun k => ?_) ?_, hw'⟩
    · have := RuleType.get_add_step trans (hr.get_eq k) (key a) a
      rw [since_append_singleton]
      by_cases hk : key a = k
      · subst hk
        simpa [Change.apply, Change.addedUnder, Change.resets] using this
      · simpa [Change.apply, Change.addedUnder, Change.resets, hk] using this
    · -- the key is listed already exactly when something was added since its last reset
      have hmem : key a ∈ g.keys ↔ ¬ (since key (key a) cs).isEmpty = true := by
        rw [mem_keys_iff hw, hr.get_eq, Ne, firstOccurrences_eq_nil_iff, List.isEmpty_iff]
      show (addTo same (key a) a g.groups).map Prod.fst = _
      rw [keys_addTo, createdKeys_append_singleton, ← hr.keys_eq]
      change (if key a ∈ g.keys then g.keys else g.keys ++ [key a]) = _
      by_cases h : (since key (key a) cs).isEmpty = true
      · rw [if_neg (hmem.not.2 (not_not.2 h))]
        simp [Change.resets, h]
      · rw [if_pos (hmem.2 h)]
        simp [Change.resets, h]
  | erase k =>
    have hw' := hw.erase k
    refine ⟨reached_of hw' (fun k' => ?_) ?_, hw'⟩
    · rw [since_append_singleton, Change.apply, get_erase, hr.get_eq]
      by_cases h : k' = k
      · subst h
        simp [Change.resets, firstOccurrences]
      · simp [Change.resets, Change.addedUnder, h, Ne.symm h]
    · rw [Change.apply, keys_erase, createdKeys_append_singleton, ← hr.keys_eq]
      simp only [Change.resets, bne, List.append_nil]
      exact List.filter_congr fun x _ => by rw [BEq.comm (a := x)]
  | clear =>
    refine ⟨reached_of wellFormed_empty (fun k' => ?_) ?_, wellFormed_empty⟩
    · simp [since_append_singleton, Change.apply, Change.resets, firstOccurrences]
    · rw [createdKeys_append_singleton]
      simp [Change.apply, Change.resets, keys]

/-- **Run lemma.** Every store replayed from empty has the shape of its changes. -/
theorem reached_replay (trans : ∀ x y z, same x y = true → same y z = true → same x z = true)
    (cs : List (Change α)) : Reached same key cs (replay same key {} cs) := by
  -- the store stays well formed along the run, which the step lemma needs
  suffices h : Reached same key cs (replay same key {} cs) ∧
      (replay same key {} cs).WellFormed from h.1
  induction cs using List.reverseRecOn with
  | nil => exact ⟨reached_empty, wellFormed_empty⟩
  | append_singleton cs c ih =>
    rw [replay_append]
    exact ih.1.apply trans ih.2 c

end Grouped

/-! ## Containers -/

namespace Container

open Grouped

/-- An operation of a container. -/
inductive Op where
  | addAbility (a : Ability)
  | addModifier (m : Modifier)
  | removeAbilities (id : String)
  | removeModifiers (id : String)
  | clearAbilities
  | clearModifiers
  | clear
  | addAll (other : Container)

/-- The container after one operation; the counts that removals answer are left aside. -/
def exec (c : Container) : Op → Container
  | .addAbility a => c.addAbility a
  | .addModifier m => c.addModifier m
  | .removeAbilities id => (c.removeAbilities id).1
  | .removeModifiers id => (c.removeModifiers id).1
  | .clearAbilities => c.clearAbilities
  | .clearModifiers => c.clearModifiers
  | .clear => c.clear
  | .addAll other => c.addAll other

/-- The container after a sequence of operations. -/
def run (c : Container) (ops : List Op) : Container := ops.foldl exec c

/-- What an operation does to the abilities. -/
def Op.abilityChanges : Op → List (Change Ability)
  | .addAbility a => [.add a]
  | .removeAbilities id => [.erase id]
  | .clearAbilities | .clear => [.clear]
  | .addAll other => other.abilityList.map .add
  | .addModifier _ | .removeModifiers _ | .clearModifiers => []

/-- What an operation does to the modifiers. -/
def Op.modifierChanges : Op → List (Change Modifier)
  | .addModifier m => [.add m]
  | .removeModifiers id => [.erase id]
  | .clearModifiers | .clear => [.clear]
  | .addAll other => other.modifierList.map .add
  | .addAbility _ | .removeAbilities _ | .clearAbilities => []

theorem abilities_foldl_addAbility (l : List Ability) (c : Container) :
    (l.foldl addAbility c).abilities = replay (· == ·) Ability.id c.abilities (l.map .add) := by
  rw [replay, List.foldl_map]
  exact (List.foldl_hom abilities fun _ _ => rfl).symm

theorem modifiers_foldl_addAbility (l : List Ability) (c : Container) :
    (l.foldl addAbility c).modifiers = c.modifiers := by
  rw [← @List.foldl_hom _ _ _ modifiers addAbility (fun m _ => m) l c fun _ _ => rfl,
    List.foldl_fixed]

theorem modifiers_foldl_addModifier (l : List Modifier) (c : Container) :
    (l.foldl addModifier c).modifiers =
      replay Modifier.same Modifier.id c.modifiers (l.map .add) := by
  rw [replay, List.foldl_map]
  exact (List.foldl_hom modifiers fun _ _ => rfl).symm

theorem abilities_foldl_addModifier (l : List Modifier) (c : Container) :
    (l.foldl addModifier c).abilities = c.abilities := by
  rw [← @List.foldl_hom _ _ _ abilities addModifier (fun a _ => a) l c fun _ _ => rfl,
    List.foldl_fixed]

/-- An operation changes the abilities by its ability changes. -/
theorem exec_abilities (c : Container) (op : Op) :
    (c.exec op).abilities = replay (· == ·) Ability.id c.abilities op.abilityChanges := by
  cases op with
  | addAll other =>
    simp only [exec, addAll, Op.abilityChanges, abilities_foldl_addModifier,
      abilities_foldl_addAbility]
  | _ => rfl

/-- An operation changes the modifiers by its modifier changes. -/
theorem exec_modifiers (c : Container) (op : Op) :
    (c.exec op).modifiers = replay Modifier.same Modifier.id c.modifiers op.modifierChanges := by
  cases op with
  | addAll other =>
    simp only [exec, addAll, Op.modifierChanges, modifiers_foldl_addModifier,
      modifiers_foldl_addAbility]
  | _ => rfl

theorem run_abilities (c : Container) (ops : List Op) :
    (c.run ops).abilities =
      replay (· == ·) Ability.id c.abilities (ops.flatMap Op.abilityChanges) := by
  rw [replay, List.foldl_flatMap]
  exact (List.foldl_hom abilities fun d op => (exec_abilities d op).symm).symm

theorem run_modifiers (c : Container) (ops : List Op) :
    (c.run ops).modifiers =
      replay Modifier.same Modifier.id c.modifiers (ops.flatMap Op.modifierChanges) := by
  rw [replay, List.foldl_flatMap]
  exact (List.foldl_hom modifiers fun d op => (exec_modifiers d op).symm).symm

/-- Removing an id answers the length of its group, drops that group only and keeps the
order of the other ids; the modifiers stay as they are. -/
theorem removeAbilities_spec (c : Container) (x : String) :
    (c.removeAbilities x).2 = (c.abilitiesWithId x).length ∧
      (c.removeAbilities x).1.abilityIds = c.abilityIds.filter (· != x) ∧
      (∀ y, y ≠ x → (c.removeAbilities x).1.abilitiesWithId y = c.abilitiesWithId y) ∧
      (c.removeAbilities x).1.modifiers = c.modifiers :=
  ⟨rfl, keys_erase x c.abilities,
    fun y hy => by simp [abilitiesWithId_removeAbilities, hy], rfl⟩

theorem removeModifiers_spec (c : Container) (x : String) :
    (c.removeModifiers x).2 = (c.modifiersWithId x).length ∧
      (c.removeModifiers x).1.modifierIds = c.modifierIds.filter (· != x) ∧
      (∀ y, y ≠ x → (c.removeModifiers x).1.modifiersWithId y = c.modifiersWithId y) ∧
      (c.removeModifiers x).1.abilities = c.abilities :=
  ⟨rfl, keys_erase x c.modifiers,
    fun y hy => by simp [removeModifiers, modifiersWithId, get_erase, hy], rfl⟩

/-- **Feature container laws.** Every container reached from the empty one by any run of
operations keeps its abilities as a store of the shape of the run's ability changes, and its
modifiers as one of the shape of its modifier changes: ids distinct, each listed id with a
non-empty group of entries of that id, no two of them equal (by `==` for abilities, by
`Modifier.same` for modifiers), the group of an id the first of the equal entries added since
the id was last removed or cleared, and the ids in the order their groups were started.
Removing an id answers the length of its group and keeps the other groups and their order.
An operation with no changes on one side leaves that side as it is. -/
theorem run_reached (ops : List Op) :
    (({} : Container).run ops).abilities.Reached (· == ·) Ability.id
        (ops.flatMap Op.abilityChanges) ∧
      (({} : Container).run ops).modifiers.Reached Modifier.same Modifier.id
        (ops.flatMap Op.modifierChanges) ∧
      (∀ x, let c := ({} : Container).run ops
        ((c.removeAbilities x).2 = (c.abilitiesWithId x).length ∧
          (c.removeAbilities x).1.abilityIds = c.abilityIds.filter (· != x) ∧
          ∀ y, y ≠ x → (c.removeAbilities x).1.abilitiesWithId y = c.abilitiesWithId y) ∧
        ((c.removeModifiers x).2 = (c.modifiersWithId x).length ∧
          (c.removeModifiers x).1.modifierIds = c.modifierIds.filter (· != x) ∧
          ∀ y, y ≠ x → (c.removeModifiers x).1.modifiersWithId y = c.modifiersWithId y)) ∧
      (∀ (c : Container) (op : Op), op.modifierChanges = [] → (c.exec op).modifiers = c.modifiers) ∧
      (∀ (c : Container) (op : Op), op.abilityChanges = [] → (c.exec op).abilities = c.abilities) := by
  refine ⟨?_, ?_, fun x => ?_, fun c op h => ?_, fun c op h => ?_⟩
  · rw [run_abilities]
    exact reached_replay ability_beq_trans _
  · rw [run_modifiers]
    exact reached_replay Modifier.same_trans _
  · obtain ⟨ha₁, ha₂, ha₃, -⟩ := removeAbilities_spec (({} : Container).run ops) x
    obtain ⟨hm₁, hm₂, hm₃, -⟩ := removeModifiers_spec (({} : Container).run ops) x
    exact ⟨⟨ha₁, ha₂, ha₃⟩, hm₁, hm₂, hm₃⟩
  · rw [exec_modifiers, h, replay_nil]
  · rw [exec_abilities, h, replay_nil]

end Container

end Ruleset
