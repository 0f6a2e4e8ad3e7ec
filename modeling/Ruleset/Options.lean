/-!
# Load options

When a document declares a type whose id is already registered, the declaration either
*patches* the type (its edits accumulate onto what is there) or *redefines* it (the selected
kinds of content are cleared first). The declaration's own `preserve` flag decides when it
is present; otherwise the registry's `LoadOptions.reload` does.
-/

namespace Ruleset

/-- What loading a known type does. -/
inductive ReloadMode where
  | patch
  | redefine
  deriving DecidableEq, Repr, Inhabited

/-- The kinds of content that a redefinition clears. -/
structure Clears where
  abilities : Bool := true
  modifiers : Bool := true
  scopes : Bool := true
  deriving DecidableEq, Repr, Inhabited

/-- How documents are merged into a registry. -/
structure LoadOptions where
  reload : ReloadMode := .patch
  redefineClears : Clears := {}
  deriving DecidableEq, Repr, Inhabited

namespace ReloadMode

def name : ReloadMode → String
  | patch => "Patch"
  | redefine => "Redefine"

end ReloadMode

/-- Whether no kind of content is selected. -/
def Clears.isEmpty (c : Clears) : Bool := !(c.abilities || c.modifiers || c.scopes)

/-- The mode for a declaration: its `preserve` flag when given (true keeps, so patches),
otherwise the options' default. -/
def LoadOptions.reloadMode (o : LoadOptions) : Option Bool → ReloadMode
  | some true => .patch
  | some false => .redefine
  | none => o.reload

@[simp] theorem LoadOptions.reloadMode_none (o : LoadOptions) : o.reloadMode none = o.reload :=
  rfl

end Ruleset
