import Ruleset.Proofs.Session

/-!
# What finalize resolves, and what it refuses

For a registry that some session reaches while loading:

* `finalize_replays_lineage` — after a successful finalize, every type, kept or set aside, is
  its lineage's concatenated log replayed from nothing (`ReplayOf`): its container read id by
  id keeps, among the adds after the last delete of that id, the first of each group of equal
  records, and its scopes are the logged scopes in order. Every add of the log names a source.
* `finalize_error_iff_refusal` — finalize fails exactly when a `Refusal` describes the table:
  a missing parent, else a cycle, else a missing feature source, each reported at its first
  offender in table and log order; and a failed finalize leaves the session's registry as it
  was.
-/

namespace Ruleset

open RuleType Inheritance

namespace Registry

/-- The type is the log `L` replayed from nothing: every add of `L` names a source; there is a
container exactly when `L` adds something; read id by id, the container holds the records
added after the last delete of that id, the first of each group of equal ones; and the scopes
are those of `L`, in order. -/
structure ReplayOf (L : List Edit) (t : RuleType) : Prop where
  sourced : ∀ e ∈ L, e.isAdd = true → ∃ kind s, e.sourceRef = some (kind, s)
  eq_foldl : t = L.foldl RuleType.replay t.bare
  features_eq_none : t.features = none ↔ ∀ e ∈ L, e.isAdd = false
  abilities : ∀ a, t.abilitiesWithId a =
    firstOccurrences (· == ·) [] (addedSince (· == .deleteAbility a) (Edit.abilityWithId a) L)
  modifiers : ∀ m, t.modifiersWithId m = firstOccurrences Modifier.same []
    (addedSince (· == .deleteModifier m) (Edit.modifierWithId m) L)
  scopes : t.scopes = L.filterMap Edit.addedScope

/-- A type equal to its log replayed from nothing reads as that log. -/
theorem replayOf_of_eq_foldl {L : List Edit} {t : RuleType}
    (hs : ∀ e ∈ L, e.isAdd = true → ∃ kind s, e.sourceRef = some (kind, s))
    (heq : t = L.foldl RuleType.replay t.bare) : ReplayOf L t := by
  refine ⟨hs, heq, ?_, fun a => ?_, fun m => ?_, ?_⟩
  · conv_lhs => rw [heq]
    rw [foldl_replay_features_eq_none]
    simp
  · conv_lhs => rw [heq]
    exact abilitiesWithId_foldl_replay_bare L t a
  · conv_lhs => rw [heq]
    exact modifiersWithId_foldl_replay_bare L t m
  · conv_lhs => rw [heq]
    rw [foldl_replay_scopes]
    simp

variable {r r' : Registry}

/-- **Inheritance has a closed form.** After a successful finalize of a reachable loading
registry, every type of the table or set aside has a lineage, and along any lineage it is the
concatenated log of the lineage replayed from nothing. -/
theorem finalize_replays_lineage (hr : r.Reachable) (hl : r.phase = .loading)
    (h : r.finalize = .ok r') :
    ∀ t ∈ r'.types ++ r'.purged, (∃ line, Lineage (r'.types ++ r'.purged) t line) ∧
      ∀ line, Lineage (r'.types ++ r'.purged) t line → ReplayOf (line.flatMap (·.edits)) t := by
  obtain ⟨D, hi⟩ := hr.loadingInv hl
  obtain ⟨res, hres, hmem⟩ := hi.mem_finalize_iff h
  intro t ht
  have ht' := (hmem t).1 ht
  -- the finalized registry holds the resolved types, so their lineages are the same
  have hlin : ∀ line, Lineage (r'.types ++ r'.purged) t line ↔ Lineage res t line :=
    fun line => ⟨Lineage.mono fun u hu => (hmem u).1 hu, Lineage.mono fun u hu => (hmem u).2 hu⟩
  constructor
  · obtain ⟨line, hline⟩ := lineage_of_resolve hi.nodup_ids hres t ht'
    exact ⟨line, (hlin line).2 hline⟩
  · intro line hline
    have hline' := (hlin line).1 hline
    refine replayOf_of_eq_foldl (fun e he hadd => ?_) (hi.eq_foldl_replay hres ht' hline')
    obtain ⟨kind, s, hs, -⟩ := hi.sourceKnown_log hres ht' hline' he hadd
    exact ⟨kind, s, hs⟩

/-- A child declared before its abstract parent, deleting an inherited ability. -/
def lineageSample : Document :=
  { sections := [{ types := [
      { id := "b", parent := some "a",
        children := [.deleteAbility "x", .addAbility { id := "z" }] },
      { id := "a", isAbstract := some true,
        children := [.addAbility { id := "x" }, .addAbility { id := "y" }] }] }] }

theorem lineageSample_replays :
    ((withOptions {}).run [.load lineageSample]).Reachable ∧
      ((withOptions {}).run [.load lineageSample]).phase = .loading ∧
      ((withOptions {}).run [.load lineageSample]).finalize =
        .ok ((withOptions {}).run [.load lineageSample, .finalize]) ∧
      ∀ t ∈ ((withOptions {}).run [.load lineageSample, .finalize]).types ++
          ((withOptions {}).run [.load lineageSample, .finalize]).purged,
        (∃ line, Lineage (((withOptions {}).run [.load lineageSample, .finalize]).types ++
          ((withOptions {}).run [.load lineageSample, .finalize]).purged) t line) ∧
        ∀ line, Lineage (((withOptions {}).run [.load lineageSample, .finalize]).types ++
          ((withOptions {}).run [.load lineageSample, .finalize]).purged) t line →
          ReplayOf (line.flatMap (·.edits)) t := by
  have hr : ((withOptions {}).run [.load lineageSample]).Reachable := ⟨{}, _, rfl⟩
  have hl : ((withOptions {}).run [.load lineageSample]).phase = .loading := by decide
  have h : ((withOptions {}).run [.load lineageSample]).finalize =
      .ok ((withOptions {}).run [.load lineageSample, .finalize]) := by decide
  exact ⟨hr, hl, h, finalize_replays_lineage hr hl h⟩

/-- **Finalize is all or nothing.** On a reachable loading registry, finalize fails exactly
when a `Refusal` describes the table, its error is one that a refusal explains, and the
session's registry is then left as it was. -/
theorem finalize_error_iff_refusal (hr : r.Reachable) (hl : r.phase = .loading) :
    (∀ e, r.finalize = .error e → Refusal r.types e) ∧
      ((∃ e, r.finalize = .error e) ↔ ∃ e, Refusal r.types e) ∧
      ∀ e, r.finalize = .error e → r.exec .finalize = r := by
  obtain ⟨D, hi⟩ := hr.loadingInv hl
  have herr : ∀ e, r.finalize = .error e ↔ resolve r.types = .error e :=
    finalize_eq_error_iff hl
  refine ⟨fun e h => ?_, ?_, fun e h => ?_⟩
  · exact refusal_of_resolve_eq_error hi.nodup_ids ((herr e).1 h)
  · simp only [herr]
    exact resolve_refused_iff hi.nodup_ids
  · simp [exec, h]

/-- A child whose parent was never declared. -/
def orphanSample : Document :=
  { sections := [{ types := [{ id := "a" }, { id := "b", parent := some "c" }] }] }

theorem orphanSample_refused :
    ((withOptions {}).run [.load orphanSample]).Reachable ∧
      ((withOptions {}).run [.load orphanSample]).phase = .loading ∧
      (∀ e, ((withOptions {}).run [.load orphanSample]).finalize = .error e →
        Refusal ((withOptions {}).run [.load orphanSample]).types e) ∧
      ((∃ e, ((withOptions {}).run [.load orphanSample]).finalize = .error e) ↔
        ∃ e, Refusal ((withOptions {}).run [.load orphanSample]).types e) ∧
      ∀ e, ((withOptions {}).run [.load orphanSample]).finalize = .error e →
        ((withOptions {}).run [.load orphanSample]).exec .finalize =
          (withOptions {}).run [.load orphanSample] := by
  have hr : ((withOptions {}).run [.load orphanSample]).Reachable := ⟨{}, _, rfl⟩
  have hl : ((withOptions {}).run [.load orphanSample]).phase = .loading := by decide
  exact ⟨hr, hl, finalize_error_iff_refusal hr hl⟩

end Registry

end Ruleset
