import Ruleset.Registry.Session

/-!
# Malformed documents

A document is checked as a whole before any of it is merged. This module says, apart from the
checker `Document.problem?`, what a well-formed document is and which malformation is
reported for one that is not, and what loading does with either.

* `Edit.WellFormed`, `Declaration.WellFormed` — every entry names the feature it adds or
  deletes, every added modifier has a finite value, and every declaration names its type.
* `Edit.Malformation`, `Declaration.FirstMalformation`, `Document.FirstMalformation` — the
  malformation reported for a bad edit, for a declaration (a missing id, else its first bad
  child) and for a document (its first bad declaration, in document order).
* `Document.problem?_eq_none_iff`, `Document.problem?_eq_some_iff` — the checker finds exactly
  these.
* `load_refused_iff_frozen_or_malformed` — a load is refused exactly when the registry is
  finalized (`frozen`, whatever the document) or, while loading, when the document has a
  malformation, and then with the first one; a refused load leaves the session's registry as
  it was, and every other load merges the whole document.
-/

namespace Ruleset

namespace Edit

/-- An edit names the ability or modifier it adds or deletes, and an added modifier has a
finite value. -/
def WellFormed : Edit → Prop
  | addAbility a => a.id ≠ ""
  | deleteAbility id => id ≠ ""
  | addModifier m => m.id ≠ "" ∧ m.value.isFinite = true
  | deleteModifier id => id ≠ ""
  | scope _ | unknown _ => True

/-- The malformation reported for an edit of the type `typeId`: an entry without an id, or
else an added modifier whose value is not finite. -/
inductive Malformation (typeId : String) : Edit → Malformed → Prop
  | abilityWithoutId {a : Ability} : a.id = "" →
      Malformation typeId (addAbility a) (.entryWithoutId "ability" typeId)
  | deleteAbilityWithoutId {id : String} : id = "" →
      Malformation typeId (deleteAbility id) (.entryWithoutId "ability" typeId)
  | modifierWithoutId {m : Modifier} : m.id = "" →
      Malformation typeId (addModifier m) (.entryWithoutId "modifier" typeId)
  | deleteModifierWithoutId {id : String} : id = "" →
      Malformation typeId (deleteModifier id) (.entryWithoutId "modifier" typeId)
  | nonFinite {m : Modifier} : m.id ≠ "" → m.value.isFinite = false →
      Malformation typeId (addModifier m) (.nonFiniteValue m.id typeId m.value.toText)

theorem problem?_eq_none_iff (typeId : String) (e : Edit) :
    e.problem? typeId = none ↔ e.WellFormed := by
  cases e with
  | addAbility a => by_cases h : a.id = "" <;> simp [problem?, WellFormed, h]
  | deleteAbility id => by_cases h : id = "" <;> simp [problem?, WellFormed, h]
  | addModifier m =>
    by_cases h : m.id = "" <;> by_cases hf : m.value.isFinite = true <;>
      simp [problem?, WellFormed, h, hf]
  | deleteModifier id => by_cases h : id = "" <;> simp [problem?, WellFormed, h]
  | scope s => simp [problem?, WellFormed]
  | unknown tag => simp [problem?, WellFormed]

theorem problem?_eq_some_iff (typeId : String) (e : Edit) (m : Malformed) :
    e.problem? typeId = some m ↔ Malformation typeId e m := by
  constructor
  · intro h
    cases e with
    | addAbility a =>
      by_cases ha : a.id = ""
      · simp only [problem?, ha, if_true, Option.some.injEq] at h
        exact h ▸ .abilityWithoutId ha
      · simp [problem?, ha] at h
    | deleteAbility id =>
      by_cases hi : id = ""
      · simp only [problem?, hi, if_true, Option.some.injEq] at h
        exact h ▸ .deleteAbilityWithoutId hi
      · simp [problem?, hi] at h
    | addModifier n =>
      -- the id is checked before the value
      by_cases hn : n.id = ""
      · simp only [problem?, hn, if_true, Option.some.injEq] at h
        exact h ▸ .modifierWithoutId hn
      · cases hf : n.value.isFinite with
        | true => simp [problem?, hn, hf] at h
        | false =>
          simp only [problem?, hn, hf, if_false, Bool.false_eq_true, Option.some.injEq] at h
          exact h ▸ .nonFinite hn hf
    | deleteModifier id =>
      by_cases hi : id = ""
      · simp only [problem?, hi, if_true, Option.some.injEq] at h
        exact h ▸ .deleteModifierWithoutId hi
      · simp [problem?, hi] at h
    | scope s => simp [problem?] at h
    | unknown tag => simp [problem?] at h
  · intro h
    cases h with
    | abilityWithoutId ha => simp [problem?, ha]
    | deleteAbilityWithoutId hi => simp [problem?, hi]
    | modifierWithoutId hn => simp [problem?, hn]
    | deleteModifierWithoutId hi => simp [problem?, hi]
    | nonFinite hn hf => simp [problem?, hn, hf]

end Edit

namespace Declaration

/-- A declaration names its type, and each of its children is well formed. -/
def WellFormed (d : Declaration) : Prop := d.id ≠ "" ∧ ∀ e ∈ d.children, e.WellFormed

/-- The malformation reported for a declaration: a missing id first; otherwise that of its
first child that is not well formed. -/
inductive FirstMalformation (d : Declaration) : Malformed → Prop
  | missingId : d.id = "" → FirstMalformation d (.missingId d.tag)
  | child {before after : List Edit} {e : Edit} {m : Malformed} : d.id ≠ "" →
      d.children = before ++ e :: after → (∀ e' ∈ before, e'.WellFormed) →
      Edit.Malformation d.id e m → FirstMalformation d m

theorem problem?_eq_none_iff (d : Declaration) : d.problem? = none ↔ d.WellFormed := by
  unfold problem? WellFormed
  by_cases h : d.id = ""
  · simp [h]
  · simp only [h, if_false, ne_eq, not_false_eq_true, true_and, List.findSome?_eq_none_iff,
      Edit.problem?_eq_none_iff]

theorem problem?_eq_some_iff (d : Declaration) (m : Malformed) :
    d.problem? = some m ↔ d.FirstMalformation m := by
  unfold problem?
  by_cases h : d.id = ""
  · simp only [h, if_true, Option.some.injEq]
    constructor
    · rintro rfl
      exact .missingId h
    · rintro (_ | ⟨hne, -, -, -⟩)
      · rfl
      · exact absurd h hne
  · simp only [h, if_false, List.findSome?_eq_some_iff, Edit.problem?_eq_some_iff,
      Edit.problem?_eq_none_iff]
    constructor
    · rintro ⟨before, e, after, hc, he, hb⟩
      exact .child h hc hb he
    · rintro (hm | ⟨-, hc, hb, he⟩)
      · exact absurd hm h
      · exact ⟨_, _, _, hc, he, hb⟩

instance (d : Declaration) : Decidable d.WellFormed :=
  decidable_of_iff _ (problem?_eq_none_iff d)

end Declaration

namespace Document

/-- The malformation reported for a document: that of its first declaration, in document
order, that is not well formed. -/
def FirstMalformation (doc : Document) (m : Malformed) : Prop :=
  ∃ pre p post, doc.declarations = pre ++ p :: post ∧ (∀ q ∈ pre, q.2.WellFormed) ∧
    p.2.FirstMalformation m

theorem problem?_eq_none_iff (doc : Document) :
    doc.problem? = none ↔ ∀ p ∈ doc.declarations, p.2.WellFormed := by
  unfold problem?
  simp only [List.findSome?_eq_none_iff, Declaration.problem?_eq_none_iff]

theorem problem?_eq_some_iff (doc : Document) (m : Malformed) :
    doc.problem? = some m ↔ doc.FirstMalformation m := by
  unfold problem? FirstMalformation
  simp only [List.findSome?_eq_some_iff, Declaration.problem?_eq_some_iff,
    Declaration.problem?_eq_none_iff]
  constructor
  · rintro ⟨pre, p, post, hd, hp, hpre⟩
    exact ⟨pre, p, post, hd, hpre, hp⟩
  · rintro ⟨pre, p, post, hd, hpre, hp⟩
    exact ⟨pre, p, post, hd, hp, hpre⟩

/-- A document has a malformation exactly when one of its declarations is not well formed. -/
theorem exists_firstMalformation_iff (doc : Document) :
    (∃ m, doc.FirstMalformation m) ↔ ∃ p ∈ doc.declarations, ¬ p.2.WellFormed := by
  simp only [← problem?_eq_some_iff, ← Option.ne_none_iff_exists', ne_eq,
    problem?_eq_none_iff, Classical.not_forall, exists_prop]

end Document

namespace Registry

variable {r : Registry} {doc : Document}

/-- A load is refused with `frozen` on a finalized registry, and otherwise with the
document's first malformation. -/
theorem load_eq_error_iff (r : Registry) (doc : Document) (e : RegistryError) :
    r.load doc = .error e ↔ (r.phase = .finalized ∧ e = .frozen) ∨
      (r.phase = .loading ∧ ∃ m, doc.FirstMalformation m ∧ e = .malformed m) := by
  unfold load Document.validate
  cases hp : r.phase with
  | finalized => simp [isFinalized, hp, eq_comm]
  | loading =>
    have hnf : r.isFinalized = false := by simp [isFinalized, hp]
    cases hm : doc.problem? with
    | none =>
      have hnone : ∀ m, ¬ doc.FirstMalformation m := fun m h => by
        rw [← Document.problem?_eq_some_iff, hm] at h
        cases h
      simp [hnf, hnone]
    | some m =>
      have hsome := (Document.problem?_eq_some_iff doc m).1 hm
      simp only [hnf, Bool.false_eq_true, if_false, Except.error.injEq, reduceCtorEq, false_and,
        true_and, false_or]
      constructor
      · rintro rfl
        exact ⟨m, hsome, rfl⟩
      · rintro ⟨m', hm', rfl⟩
        rw [← Document.problem?_eq_some_iff, hm] at hm'
        cases hm'
        rfl

/-- A load into a loading registry of a document that validates merges it. -/
theorem load_eq_ok_of_validate (hl : r.phase = .loading) (hv : doc.validate = .ok ()) :
    r.load doc = .ok (r.merge doc) := by
  have hnf : r.isFinalized = false := by simp [isFinalized, hl]
  simp [load, hnf, hv]

/-- A load into a loading registry of a well-formed document merges it. -/
theorem load_eq_ok_of_wellFormed (hl : r.phase = .loading)
    (hw : ∀ p ∈ doc.declarations, p.2.WellFormed) : r.load doc = .ok (r.merge doc) := by
  have hv : doc.problem? = none := (Document.problem?_eq_none_iff doc).2 hw
  exact load_eq_ok_of_validate hl (by simp [Document.validate, hv])

/-- An accepted load is the merge of its document. -/
theorem eq_merge_of_load {p : Registry × LoadReport} (h : r.load doc = .ok p) :
    p = r.merge doc := by
  unfold load at h
  split at h
  · cases h
  · split at h
    · cases h
    · exact (Except.ok.inj h).symm

/-- **Loading is all or nothing.** A load is refused exactly when the registry is finalized
(with `frozen`, checked before the document) or the document is malformed (with its first
malformation, in document order); a refused load leaves the session's registry as it was,
however many well-formed declarations come before the bad one; and every other load merges
the whole document. -/
theorem load_refused_iff_frozen_or_malformed (r : Registry) (doc : Document) :
    (∀ e, r.load doc = .error e ↔ (r.phase = .finalized ∧ e = .frozen) ∨
        (r.phase = .loading ∧ ∃ m, doc.FirstMalformation m ∧ e = .malformed m)) ∧
    ((∃ e, r.load doc = .error e) ↔
        r.phase = .finalized ∨ ∃ p ∈ doc.declarations, ¬ p.2.WellFormed) ∧
    (∀ e, r.load doc = .error e → r.exec (.load doc) = r) ∧
    (r.phase = .loading → (∀ p ∈ doc.declarations, p.2.WellFormed) →
      r.load doc = .ok (r.merge doc)) := by
  refine ⟨load_eq_error_iff r doc, ?_, fun e h => by simp [exec, h],
    fun hl hw => load_eq_ok_of_wellFormed hl hw⟩
  simp only [load_eq_error_iff]
  constructor
  · rintro ⟨e, ⟨hf, -⟩ | ⟨-, m, hm, -⟩⟩
    · exact .inl hf
    · exact .inr ((Document.exists_firstMalformation_iff doc).1 ⟨m, hm⟩)
  · intro h
    cases hp : r.phase with
    | finalized => exact ⟨.frozen, .inl ⟨rfl, rfl⟩⟩
    | loading =>
      have hbad : ∃ p ∈ doc.declarations, ¬ p.2.WellFormed := by
        rcases h with h | h
        · rw [hp] at h
          cases h
        · exact h
      obtain ⟨m, hm⟩ := (Document.exists_firstMalformation_iff doc).2 hbad
      exact ⟨.malformed m, .inr ⟨rfl, m, hm, rfl⟩⟩

end Registry

end Ruleset
