import Ruleset.Proofs.Session
import Ruleset.Loader

/-!
# Reopening and finalizing again

A finalized registry keeps, merged back in index order, a table that resolution leaves as it
is (`FinalInv.resolved`). Reopening lists exactly that table, so finalizing again resolves it
to itself and splits it as the first finalize did.

* `FinalInv.indexOrder_filter_concrete`, `FinalInv.indexOrder_filter_abstract` — the concrete
  and the abstract types of the merged table are the table and the set-aside types, in their
  order.
* `FinalInv.finalize_reopen` — reopening then finalizing a finalized registry gives it back.
* `finalize_reopen_eq_self` — for every finalized registry a session reaches, finalize after
  reopen succeeds with the registry itself, in every field; so does finishing a loader that
  continues from it.
-/

namespace Ruleset

open RuleType Inheritance

namespace Registry

variable {r : Registry} {D : List String}

/-- The merged table, in index order, with one kind of types kept: the kept types of the table
and the set-aside ones, in index order. -/
theorem indexOrder_filter_perm (r : Registry) (p : RuleType → Bool) :
    (r.indexOrder.filter p).Perm (r.types.filter p ++ r.purged.filter p) := by
  rw [← List.filter_append]
  exact (List.mergeSort_perm _ _).filter p

theorem FinalInv.indexOrder_filter_concrete (hf : FinalInv D r) :
    r.indexOrder.filter (!·.isAbstract) = r.types := by
  have hkeep : r.types.filter (!·.isAbstract) = r.types :=
    List.filter_eq_self.2 fun t ht => by simp [hf.concrete t ht]
  have hdrop : r.purged.filter (!·.isAbstract) = [] :=
    List.filter_eq_nil_iff.2 fun t ht => by simp [hf.abstract t ht]
  have hperm := r.indexOrder_filter_perm (!·.isAbstract)
  rw [hkeep, hdrop, List.append_nil] at hperm
  exact eq_of_perm_of_index_sorted ((pairwise_mergeSort_index _).filter _) hf.types_sorted hperm

theorem FinalInv.indexOrder_filter_abstract (hf : FinalInv D r) :
    r.indexOrder.filter (·.isAbstract) = r.purged := by
  have hdrop : r.types.filter (·.isAbstract) = [] :=
    List.filter_eq_nil_iff.2 fun t ht => by simp [hf.concrete t ht]
  have hkeep : r.purged.filter (·.isAbstract) = r.purged :=
    List.filter_eq_self.2 fun t ht => hf.abstract t ht
  have hperm := r.indexOrder_filter_perm (·.isAbstract)
  rw [hdrop, hkeep, List.nil_append] at hperm
  exact eq_of_perm_of_index_sorted ((pairwise_mergeSort_index _).filter _) hf.purged_sorted hperm

/-- **Reopening then finalizing a finalized registry gives it back.** The reopened table is
resolved already, and splitting it again gives the table and the set-aside types; the indexes
are those of the table. -/
theorem FinalInv.finalize_reopen (hf : FinalInv D r) : r.reopen.finalize = .ok r := by
  rw [reopen_of_finalized hf.phase, finalize_eq_ok_of_resolve rfl hf.resolved,
    hf.indexOrder_filter_concrete, hf.indexOrder_filter_abstract, hf.indexes, List.nil_append,
    ← hf.phase]

/-- **Reopen then finalize is the identity on finalized registries.** For every finalized
registry that a session reaches, finalize after reopen succeeds and gives back the registry in
every field: the table and the set-aside types in the same order, each type with the same
features (a container or none), scopes, log and attributes, the same indexes, next index and
options. So does finishing a loader that continues from the registry. -/
theorem finalize_reopen_eq_self (hr : r.Reachable) (hf : r.phase = .finalized) :
    r.reopen.finalize = .ok r ∧ Loader.finish r.reopen = .ok r := by
  obtain ⟨D, hinv⟩ := hr.finalInv hf
  have h := hinv.finalize_reopen
  exact ⟨h, by simp [Loader.finish, h, Except.mapError]⟩

/-- An abstract parent declared between two children: one adds a modifier, the other deletes
what it inherits. -/
def reopenSample : Document :=
  { sections := [{ types := [
      { id := "b", parent := some "a",
        children := [.addModifier { id := "m", value := Binary32.hundred }] },
      { id := "a", isAbstract := some true, children := [.addAbility { id := "x" }] },
      { id := "c", parent := some "a", children := [.deleteAbility "x"] }] }] }

theorem reopenSample_finalize_reopen :
    ((withOptions {}).run [.load reopenSample, .finalize]).Reachable ∧
      ((withOptions {}).run [.load reopenSample, .finalize]).phase = .finalized ∧
      ((withOptions {}).run [.load reopenSample, .finalize]).reopen.finalize =
        .ok ((withOptions {}).run [.load reopenSample, .finalize]) ∧
      Loader.finish ((withOptions {}).run [.load reopenSample, .finalize]).reopen =
        .ok ((withOptions {}).run [.load reopenSample, .finalize]) := by
  have hr : ((withOptions {}).run [.load reopenSample, .finalize]).Reachable := ⟨{}, _, rfl⟩
  have hf : ((withOptions {}).run [.load reopenSample, .finalize]).phase = .finalized := by
    decide
  exact ⟨hr, hf, finalize_reopen_eq_self hr hf⟩

end Registry

end Ruleset
