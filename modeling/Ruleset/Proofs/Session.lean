import Ruleset.Proofs.Finalize

/-!
# What every session keeps

A session starts from an empty registry (`withOptions o`) and runs loads, finalizes and
reopens. The ids a session has *declared* are those of the documents it loaded successfully,
repeats included; the ids it has *created* are these without repeats, in order of first
declaration (`createdIds`).

* `SessionInv D r` — the loading invariant or the finalized one, after the ids `D` were
  declared. `SessionInv.exec` is the step lemma: every step, accepted or refused, keeps it;
  `sessionInv_run` is the run lemma, by induction over the steps.
* `createdIds_isPrefix_append` — running more steps only adds created ids at the end.
-/

namespace Ruleset

namespace Registry

/-- The ids a step declares: those of a load's document, when the load is accepted. -/
def declared (r : Registry) : Op → List String
  | .load doc =>
    match r.load doc with
    | .ok _ => doc.declarations.map (·.2.id)
    | .error _ => []
  | .finalize | .reopen => []

/-- The ids declared along a session, in order, repeats included. -/
def declaredIds (r : Registry) : List Op → List String
  | [] => []
  | op :: ops => r.declared op ++ (r.exec op).declaredIds ops

/-- The ids created along a session, in order of creation. -/
def createdIds (r : Registry) (ops : List Op) : List String := (r.declaredIds ops).eraseDups

/-- A registry that some session reaches. -/
def Reachable (r : Registry) : Prop := ∃ o ops, (withOptions o).run ops = r

/-- What holds of a registry after the ids `D` were declared into an empty one, whichever its
phase. -/
def SessionInv (D : List String) (r : Registry) : Prop := LoadingInv D r ∨ FinalInv D r

variable {r : Registry} {D : List String}

@[simp] theorem run_nil (r : Registry) : r.run [] = r := rfl

@[simp] theorem run_cons (r : Registry) (op : Op) (ops : List Op) :
    r.run (op :: ops) = (r.exec op).run ops := rfl

theorem run_append (r : Registry) (ops more : List Op) :
    r.run (ops ++ more) = (r.run ops).run more :=
  List.foldl_append

theorem declaredIds_append (r : Registry) (ops more : List Op) :
    r.declaredIds (ops ++ more) = r.declaredIds ops ++ (r.run ops).declaredIds more := by
  induction ops generalizing r with
  | nil => rfl
  | cons op ops ih => simp [declaredIds, ih]

/-- **Created ids are never forgotten nor reordered**: a longer session creates the ids of a
shorter one first. -/
theorem createdIds_isPrefix_append (r : Registry) (ops more : List Op) :
    r.createdIds ops <+: r.createdIds (ops ++ more) := by
  unfold createdIds
  rw [declaredIds_append]
  exact eraseDups_isPrefix_append _ _

theorem load_of_finalized (hf : r.phase = .finalized) (doc : Document) :
    r.load doc = .error .frozen := by
  simp [load, isFinalized, hf]

/-! ## The step and run lemmas -/

theorem LoadingInv.exec (hi : LoadingInv D r) (op : Op) :
    SessionInv (D ++ r.declared op) (r.exec op) := by
  cases op with
  | load doc =>
    cases h : r.load doc with
    | error e =>
      simp only [declared, Registry.exec, h, List.append_nil]
      exact .inl hi
    | ok p =>
      obtain ⟨r', report⟩ := p
      simp only [declared, Registry.exec, h]
      exact .inl (hi.load h)
  | finalize =>
    cases h : r.finalize with
    | error e =>
      simp only [declared, Registry.exec, h, List.append_nil]
      exact .inl hi
    | ok r' =>
      simp only [declared, Registry.exec, h, List.append_nil]
      exact .inr (hi.finalize h)
  | reopen =>
    simp only [declared, Registry.exec, List.append_nil, reopen_of_loading hi.phase]
    exact .inl hi

theorem FinalInv.exec (hf : FinalInv D r) (op : Op) :
    SessionInv (D ++ r.declared op) (r.exec op) := by
  cases op with
  | load doc =>
    -- a finalized registry refuses every load
    simp only [declared, Registry.exec, load_of_finalized hf.phase, List.append_nil]
    exact .inr hf
  | finalize =>
    simp only [declared, Registry.exec, finalize_of_finalized hf.phase, List.append_nil]
    exact .inr hf
  | reopen =>
    simp only [declared, Registry.exec, List.append_nil]
    exact .inl hf.reopen

/-- **Every step keeps the session invariant**, whether it is accepted or refused. -/
theorem SessionInv.exec (hi : SessionInv D r) (op : Op) :
    SessionInv (D ++ r.declared op) (r.exec op) := by
  rcases hi with hi | hi
  · exact hi.exec op
  · exact hi.exec op

theorem SessionInv.run (hi : SessionInv D r) (ops : List Op) :
    SessionInv (D ++ r.declaredIds ops) (r.run ops) := by
  induction ops generalizing D r with
  | nil => simpa [declaredIds] using hi
  | cons op ops ih =>
    rw [declaredIds, ← List.append_assoc, run_cons]
    exact ih (hi.exec op)

/-- **The run lemma**: every session keeps the invariant of its phase. -/
theorem sessionInv_run (o : LoadOptions) (ops : List Op) :
    SessionInv ((withOptions o).declaredIds ops) ((withOptions o).run ops) := by
  have hi : SessionInv [] (withOptions o) := .inl (loadingInv_withOptions o)
  simpa using hi.run ops

theorem SessionInv.loading (hi : SessionInv D r) (hl : r.phase = .loading) : LoadingInv D r := by
  rcases hi with hi | hi
  · exact hi
  · rw [hi.phase] at hl
    cases hl

theorem SessionInv.final (hi : SessionInv D r) (hf : r.phase = .finalized) : FinalInv D r := by
  rcases hi with hi | hi
  · rw [hi.phase] at hf
    cases hf
  · exact hi

/-- A reachable registry that is loading satisfies the loading invariant. -/
theorem Reachable.loadingInv (hr : r.Reachable) (hl : r.phase = .loading) :
    ∃ D, LoadingInv D r := by
  obtain ⟨o, ops, rfl⟩ := hr
  exact ⟨_, (sessionInv_run o ops).loading hl⟩

/-- A reachable registry that is finalized satisfies the finalized invariant. -/
theorem Reachable.finalInv (hr : r.Reachable) (hf : r.phase = .finalized) :
    ∃ D, FinalInv D r := by
  obtain ⟨o, ops, rfl⟩ := hr
  exact ⟨_, (sessionInv_run o ops).final hf⟩

end Registry

end Ruleset
