import Ruleset.Registry.Basic

/-!
# Merging documents into the registry

Each declaration of a document, in document order, either creates a type or reloads a known
one, and then applies its children as edits.

* A new id gets the next load index; it is abstract only if the declaration says so, and its
  parent is the declaration's.
* A known id is *patched* or *redefined*, as `LoadOptions.reloadMode` decides from the
  declaration's `preserve` flag. A patch sets the abstract flag and the parent only where the
  declaration gives them. A redefinition clears the selected kinds of content
  (`RuleType.clearFor`), takes the new tag and category, and sets the abstract flag (default
  false) and the parent (default none).
* Unknown children are counted as ignored; every other child is applied
  (`RuleType.apply`).
-/

namespace Ruleset

/-- What a load did, by declaration and by ignored child. -/
structure LoadReport where
  created : Nat := 0
  patched : Nat := 0
  redefined : Nat := 0
  ignored : Nat := 0
  deriving DecidableEq, Repr, Inhabited

instance : Add LoadReport :=
  ⟨fun a b => ⟨a.created + b.created, a.patched + b.patched, a.redefined + b.redefined,
    a.ignored + b.ignored⟩⟩

namespace LoadReport

@[simp] theorem created_add (a b : LoadReport) : (a + b).created = a.created + b.created := rfl
@[simp] theorem patched_add (a b : LoadReport) : (a + b).patched = a.patched + b.patched := rfl
@[simp] theorem redefined_add (a b : LoadReport) : (a + b).redefined = a.redefined + b.redefined :=
  rfl
@[simp] theorem ignored_add (a b : LoadReport) : (a + b).ignored = a.ignored + b.ignored := rfl

theorem add_assoc (a b c : LoadReport) : a + b + c = a + (b + c) := by
  obtain ⟨_, _, _, _⟩ := a
  obtain ⟨_, _, _, _⟩ := b
  obtain ⟨_, _, _, _⟩ := c
  simp only [HAdd.hAdd, Add.add, LoadReport.mk.injEq]
  exact ⟨Nat.add_assoc _ _ _, Nat.add_assoc _ _ _, Nat.add_assoc _ _ _, Nat.add_assoc _ _ _⟩

@[simp] theorem empty_add (a : LoadReport) : {} + a = a := by
  obtain ⟨_, _, _, _⟩ := a
  simp only [HAdd.hAdd, Add.add, LoadReport.mk.injEq]
  exact ⟨Nat.zero_add _, Nat.zero_add _, Nat.zero_add _, Nat.zero_add _⟩

@[simp] theorem add_empty (a : LoadReport) : a + {} = a := by
  obtain ⟨_, _, _, _⟩ := a
  simp only [HAdd.hAdd, Add.add, LoadReport.mk.injEq]
  exact ⟨Nat.add_zero _, Nat.add_zero _, Nat.add_zero _, Nat.add_zero _⟩

end LoadReport

/-- Whether a child is one that nothing reads. -/
def Edit.isUnknown : Edit → Bool
  | .unknown _ => true
  | _ => false

namespace Registry

/-- The table after a declaration's header: a new type, or the known one patched or
redefined; and the report counting it. -/
def declareHeader (r : Registry) (category : String) (d : Declaration) :
    Registry × LoadReport :=
  match r.find d.id with
  | none =>
    let t : RuleType :=
      { RuleType.new d.id d.tag category r.nextIndex with
        isAbstract := d.isAbstract.getD false, parent := d.parent }
    ({ r with types := r.types ++ [t], nextIndex := r.nextIndex + 1 }, { created := 1 })
  | some _ =>
    match r.options.reloadMode d.preserve with
    | .patch =>
      let patch (t : RuleType) : RuleType :=
        { t with isAbstract := d.isAbstract.getD t.isAbstract, parent := d.parent <|> t.parent }
      ({ r with types := update r.types d.id patch }, { patched := 1 })
    | .redefine =>
      let redefine (t : RuleType) : RuleType :=
        { t.clearFor r.options.redefineClears with
          tag := d.tag, category, isAbstract := d.isAbstract.getD false, parent := d.parent }
      ({ r with types := update r.types d.id redefine }, { redefined := 1 })

/-- Merges one declaration of the given category. -/
def declare (r : Registry) (category : String) (d : Declaration) : Registry × LoadReport :=
  let (r, report) := r.declareHeader category d
  let r := { r with types := update r.types d.id fun t => d.children.foldl RuleType.apply t }
  (r, { report with ignored := (d.children.filter Edit.isUnknown).length })

/-- Merges every declaration of a document, in order, and sums the reports. -/
def merge (r : Registry) (doc : Document) : Registry × LoadReport :=
  doc.declarations.foldl
    (fun (acc : Registry × LoadReport) p =>
      let (r', report) := acc.1.declare p.1 p.2
      (r', acc.2 + report))
    (r, {})

end Registry

end Ruleset
