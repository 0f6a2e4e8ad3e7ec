import Ruleset.Proofs.Reader
import Mathlib

/-!
# What reading a declaration reports as unread

Each child of a type element is read into an edit and followed, in document order, by a report
for each element nested in it that nothing reads (`Xml.Element.unread`), and loading counts
every unknown child as ignored. Inside an ability or a modifier the reader decides by tag
alone: a nested `scope` is searched for its own children and never reported itself, whether
the feature is added, when the scope is read, or deleted, when nothing reads it.

* `Xml.Element.readDeclaration_children` — the children of a read declaration are, child by
  child, its edit followed by its reports.
* `Xml.Element.length_unread` — how many reports a child gives.
* `Registry.ignored_declare_of_readDeclaration` — loading a read declaration counts, child by
  child, one for an unknown child and one per report.
* `Registry.unread_reports_counted` — both together, with the reports counted by tag.
* `Xml.Element.deletedScope_unreported` — a scope nested in a deleted ability is dropped with
  no report.
-/

namespace Ruleset

namespace Xml

namespace Element

/-- **A read declaration lists each child's edit followed by the child's reports**, child by
child in document order. -/
theorem readDeclaration_children {e : Element} {d : Declaration} (h : e.readDeclaration = .ok d) :
    ∃ ls : List (List Edit), List.Forall₂ (fun c l => ∃ edit, c.readChild = .ok edit ∧
        l = edit :: c.unread.map Edit.unknown) e.children ls ∧ d.children = ls.flatten := by
  unfold readDeclaration at h
  simp only [bind_eq_ok, pure_eq_ok] at h
  obtain ⟨ls, hls, _, _, _, _, _, _, rfl⟩ := h
  refine ⟨ls, ((mapM_eq_ok_iff _ _ _).1 hls).imp fun c l hc => ?_, rfl⟩
  simp only [bind_eq_ok, pure_eq_ok] at hc
  obtain ⟨edit, hedit, rfl⟩ := hc
  exact ⟨edit, hedit, rfl⟩

/-- A child is read as unknown exactly when its tag is none of the three that are read. -/
theorem isUnknown_of_readChild {c : Element} {edit : Edit} (h : c.readChild = .ok edit) :
    edit.isUnknown = !(c.tag == "ability" || c.tag == "modifier" || c.tag == "scope") := by
  unfold readChild at h
  obtain ⟨_, _, h⟩ := bind_eq_ok.1 h
  dsimp only at h
  split at h
  · rename_i htag
    split at h <;> obtain ⟨_, -, rfl⟩ := map_eq_ok.1 h <;> simp [Edit.isUnknown, htag]
  · rename_i htag
    split at h <;> obtain ⟨_, -, rfl⟩ := map_eq_ok.1 h <;> simp [Edit.isUnknown, htag]
  · rename_i htag
    obtain ⟨_, -, rfl⟩ := map_eq_ok.1 h
    simp [Edit.isUnknown, htag]
  · rename_i tag h₁ h₂ h₃
    rw [pure_eq_ok] at h
    subst h
    have e₁ : (c.tag == "ability") = false := by simpa using h₁
    have e₂ : (c.tag == "modifier") = false := by simpa using h₂
    have e₃ : (c.tag == "scope") = false := by simpa using h₃
    simp [Edit.isUnknown, e₁, e₂, e₃]

/-- How many reports a child gives: inside a feature, one per nested element that is not a
scope and one per element nested in a scope; inside a scope, one per nested element. -/
theorem length_unread (c : Element) :
    c.unread.length =
      if c.tag = "ability" ∨ c.tag = "modifier" then
        (c.children.map fun n => if n.tag = "scope" then n.children.length else 1).sum
      else if c.tag = "scope" then c.children.length
      else 0 := by
  unfold unread
  by_cases hf : c.tag = "ability" ∨ c.tag = "modifier"
  · have : (c.tag == "ability" || c.tag == "modifier") = true := by
      rcases hf with h | h <;> simp [h]
    rw [if_pos this, if_pos hf, List.length_flatMap]
    congr 1
    apply List.map_congr_left
    intro n _
    by_cases hs : n.tag = "scope" <;> simp [hs, scopeReports]
  · have : (c.tag == "ability" || c.tag == "modifier") = false := by
      simp only [not_or] at hf
      simp [hf.1, hf.2]
    rw [if_neg (by simp [this]), if_neg hf]
    by_cases hs : c.tag = "scope" <;> simp [hs, scopeReports]

/-- A type element with a deleted ability that holds a scope. -/
def deletedWithScope : Element :=
  ⟨"unit-type", [("id", "a")],
    [⟨"ability", [("id", "x"), ("delete", "true")], [⟨"scope", [("type", "y")], []⟩]⟩]⟩

/-- The scope inside a deleted ability is read by nothing and reported by nothing: the
declaration holds the deletion alone, with no `ability/scope` report. -/
theorem deletedScope_unreported :
    deletedWithScope.readDeclaration =
        .ok { tag := "unit-type", id := "a", children := [.deleteAbility "x"] } ∧
      Edit.unknown "ability/scope" ∉ [Edit.deleteAbility "x"] :=
  ⟨rfl, by simp⟩

end Element

end Xml

namespace Registry

/-- **Loading counts every report.** Declaring a declaration read from an element counts as
ignored, child by child, one for a child of an unknown tag and one per report of the child. -/
theorem ignored_declare_of_readDeclaration {e : Xml.Element} {d : Declaration}
    (h : e.readDeclaration = .ok d) (r : Registry) (category : String) :
    (r.declare category d).2.ignored =
      (e.children.map fun c =>
        (if c.tag = "ability" ∨ c.tag = "modifier" ∨ c.tag = "scope" then 0 else 1) +
          c.unread.length).sum := by
  obtain ⟨ls, hls, hd⟩ := Xml.Element.readDeclaration_children h
  show (d.children.filter Edit.isUnknown).length = _
  rw [hd]
  clear hd h
  generalize e.children = cs at hls ⊢
  induction hls with
  | nil => rfl
  | @cons c l cs ls hcl _ ih =>
    obtain ⟨edit, hedit, rfl⟩ := hcl
    have hu := Xml.Element.isUnknown_of_readChild hedit
    -- every report is an unknown child
    have hreports : (c.unread.map Edit.unknown).filter Edit.isUnknown = c.unread.map Edit.unknown :=
      List.filter_eq_self.2 (by simp [Edit.isUnknown])
    simp only [List.flatten_cons, List.filter_append, List.length_append, List.map_cons,
      List.sum_cons, ih, List.filter_cons, hreports]
    by_cases ht : c.tag = "ability" ∨ c.tag = "modifier" ∨ c.tag = "scope"
    · have : edit.isUnknown = false := by
        rw [hu]
        rcases ht with h | h | h <;> simp [h]
      simp [this, ht]
    · have : edit.isUnknown = true := by
        rw [hu]
        simp only [not_or] at ht
        simp [ht.1, ht.2.1, ht.2.2]
      simp [this, ht]
      omega

/-- **What reading and loading a type element report.** The declaration read from a type
element lists, child by child in document order, the child's edit followed by one unknown child
per element nested in it that nothing reads, and loading it counts as ignored one per child of
an unknown tag and one per report: inside an ability or a modifier, one per nested element that
is not a scope and one per element nested in a scope, whether the feature is added or deleted;
inside a scope, one per nested element. A scope nested in a feature is never counted itself. -/
theorem unread_reports_counted {e : Xml.Element} {d : Declaration}
    (h : e.readDeclaration = .ok d) :
    (∃ ls : List (List Edit), List.Forall₂ (fun c l => ∃ edit, c.readChild = .ok edit ∧
        l = edit :: c.unread.map Edit.unknown) e.children ls ∧ d.children = ls.flatten) ∧
      ∀ (r : Registry) (category : String), (r.declare category d).2.ignored =
        (e.children.map fun c =>
          (if c.tag = "ability" ∨ c.tag = "modifier" ∨ c.tag = "scope" then 0 else 1) +
            if c.tag = "ability" ∨ c.tag = "modifier" then
              (c.children.map fun n => if n.tag = "scope" then n.children.length else 1).sum
            else if c.tag = "scope" then c.children.length
            else 0).sum := by
  refine ⟨Xml.Element.readDeclaration_children h, fun r category => ?_⟩
  rw [ignored_declare_of_readDeclaration h]
  congr 1
  exact List.map_congr_left fun c _ => by rw [Xml.Element.length_unread]

/-- Loading the type element whose deleted ability holds a scope counts nothing as ignored. -/
theorem deletedScope_not_counted :
    Xml.Element.deletedWithScope.readDeclaration =
        .ok { tag := "unit-type", id := "a", children := [.deleteAbility "x"] } ∧
      (({} : Registry).declare "unit-types"
        { tag := "unit-type", id := "a", children := [.deleteAbility "x"] }).2.ignored = 0 := by
  have h : Xml.Element.deletedWithScope.readDeclaration =
      .ok { tag := "unit-type", id := "a", children := [.deleteAbility "x"] } := rfl
  refine ⟨h, ?_⟩
  rw [(unread_reports_counted h).2 {} "unit-types"]
  decide

end Registry

end Ruleset
