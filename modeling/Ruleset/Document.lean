import Ruleset.Feature
import Ruleset.Error
import Ruleset.Binary32.Text

/-!
# Rule documents

A document is a list of sections, one per category (`unit-types`, `building-types`, …), each
holding type declarations. The children of a declaration are *edits* of the type: add or
delete an ability, add or delete a modifier, add a scope. A child that names nothing known is
kept as `Edit.unknown`, so that loading can count it.

* `Document.declarations` — every declaration with the category of its section, in order.
* `Document.problem?` — the first malformation, in document order: a declaration without an
  id, then within it, child by child, an entry without an id or a modifier whose value is not
  finite.
-/

namespace Ruleset

/-- One child of a type declaration. -/
inductive Edit where
  | addAbility (a : Ability)
  | deleteAbility (id : String)
  | addModifier (m : Modifier)
  | deleteModifier (id : String)
  | scope (s : Scope)
  | unknown (tag : String)
  deriving DecidableEq, Repr, Inhabited

/-- A type declaration: the element that introduces, patches or redefines a type. -/
structure Declaration where
  tag : String := "unit-type"
  id : String
  isAbstract : Option Bool := none
  parent : Option String := none
  preserve : Option Bool := none
  children : List Edit := []
  deriving DecidableEq, Repr, Inhabited

/-- The declarations of one category. -/
structure Section where
  tag : String := "unit-types"
  types : List Declaration := []
  deriving DecidableEq, Repr, Inhabited

/-- A parsed rule document. -/
structure Document where
  sections : List Section := []
  deriving DecidableEq, Repr, Inhabited

namespace Edit

/-- What is wrong with an edit inside the type `typeId`, if anything. -/
def problem? (typeId : String) : Edit → Option Malformed
  | addAbility a => if a.id = "" then some (.entryWithoutId "ability" typeId) else none
  | deleteAbility id => if id = "" then some (.entryWithoutId "ability" typeId) else none
  | addModifier m =>
    if m.id = "" then some (.entryWithoutId "modifier" typeId)
    else if m.value.isFinite then none
    else some (.nonFiniteValue m.id typeId m.value.toText)
  | deleteModifier id => if id = "" then some (.entryWithoutId "modifier" typeId) else none
  | scope _ => none
  | unknown _ => none

end Edit

/-- What is wrong with a declaration: a missing id first, then its first bad child. -/
def Declaration.problem? (d : Declaration) : Option Malformed :=
  if d.id = "" then some (.missingId d.tag) else d.children.findSome? (Edit.problem? d.id)

namespace Document

/-- Every declaration with the tag of its section, in document order. -/
def declarations (doc : Document) : List (String × Declaration) :=
  doc.sections.flatMap fun s => s.types.map fun d => (s.tag, d)

/-- The first malformation of the document, if any. -/
def problem? (doc : Document) : Option Malformed :=
  doc.declarations.findSome? fun p => p.2.problem?

/-- Succeeds exactly when the document has no malformation. -/
def validate (doc : Document) : Except RegistryError Unit :=
  match doc.problem? with
  | some m => .error (.malformed m)
  | none => .ok ()

theorem validate_eq_ok_iff (doc : Document) :
    doc.validate = .ok () ↔ ∀ p ∈ doc.declarations, p.2.problem? = none := by
  unfold validate problem?
  cases h : doc.declarations.findSome? (fun p => p.2.problem?) with
  | none =>
    simp only [true_iff]
    intro p hp
    exact List.findSome?_eq_none_iff.1 h p hp
  | some m =>
    simp only [reduceCtorEq, false_iff, Classical.not_forall]
    obtain ⟨p, hp, hm⟩ := List.exists_of_findSome?_eq_some h
    exact ⟨p, hp, by simp [hm]⟩

end Document

end Ruleset
