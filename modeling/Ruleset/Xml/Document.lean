import Ruleset.Xml.Element
import Ruleset.Document
import Ruleset.Text.Blank
import Ruleset.Text.Integer

/-!
# Rule documents in XML

The root element's tag is free; each of its children is a section named by its tag, and each
child of a section is a type declaration. Declarations are read in document order and the
first fault stops the reading.

A declaration reads, in this order: all of its children (each followed by the reports of
what is nested in it and unread), then `id` (required, nonempty), `abstract`, `extends`
(verbatim) and `preserve`. A child reads its `delete` flag first, whatever its tag; then

* `ability` — with `delete="true"` only `id`; otherwise `id`, `value`, `source`, its direct
  `scope` children, `first-turn`, `last-turn`;
* `modifier` — with `delete="true"` only `id`; otherwise `type`, `value` (which must be
  finite), `id`, `index`, `source`, scopes, `first-turn`, `last-turn`;
* `scope` — `type`, `ability-id`, `ability-value`, `method-name`, `method-value`,
  `match-negated`, `matches-null`;
* any other tag is an unknown child.

Flags are exactly `true` or `false`. Numbers are read after the blanks at both ends are cut
off: turns as unsigned 32-bit integers, the index as a signed 32-bit integer, values in
single precision.

Elements nested in an ability, modifier or scope that nothing reads are reported as
`parent/tag` right after that child; inside a feature, its scopes are searched once more.
-/

namespace Ruleset

namespace Xml

/-- What a reading step gives: a value or the first fault. -/
abbrev Reading := Except ReadError

namespace Element

/-- A malformation at this step. -/
def fail {α : Type} (m : Malformed) : Reading α := .error (.malformed m)

/-- The required, nonempty `id`. -/
def requiredId (e : Element) : Reading String :=
  match e.attr "id" with
  | some id => if id = "" then fail (.missingId e.tag) else .ok id
  | none => fail (.missingId e.tag)

/-- A flag attribute: absent, `true` or `false`. -/
def flag (e : Element) (name : String) : Reading (Option Bool) :=
  match e.attr name with
  | none => .ok none
  | some "true" => .ok (some true)
  | some "false" => .ok (some false)
  | some raw => fail (.badFlag e.tag name raw)

/-- A number attribute, read after trimming by the given reader. -/
def number {α : Type} (e : Element) (name : String) (read : String → Option α) :
    Reading (Option α) :=
  match e.attr name with
  | none => .ok none
  | some raw =>
    match read (Text.trimBlank raw) with
    | some v => .ok (some v)
    | none => fail (.badNumber e.tag name raw)

/-- The element as a scope. -/
def readScope (e : Element) : Reading Scope := do
  let abilityValue ← e.flag "ability-value"
  let matchNegated ← e.flag "match-negated"
  let matchesNull ← e.flag "matches-null"
  pure {
    typeId := e.attr "type"
    abilityId := e.attr "ability-id"
    abilityValue := abilityValue.getD true
    methodName := e.attr "method-name"
    methodValue := e.attr "method-value"
    matchNegated := matchNegated.getD false
    matchesNull := matchesNull.getD true }

/-- The direct `scope` children as scopes. -/
def readScopes (e : Element) : Reading (List Scope) :=
  (e.children.filter (·.tag == "scope")).mapM readScope

/-- The element as an added ability. -/
def readAbility (e : Element) : Reading Ability := do
  let id ← e.requiredId
  let value ← e.flag "value"
  let scopes ← e.readScopes
  let firstTurn ← e.number "first-turn" Text.readNat32
  let lastTurn ← e.number "last-turn" Text.readNat32
  pure { id, value := value.getD true, source := e.attr "source", scopes, firstTurn, lastTurn }

/-- The element as an added modifier. -/
def readModifier (e : Element) : Reading Modifier := do
  let kind ← match e.attr "type" with
    | none => pure ModifierKind.additive
    | some raw =>
      match ModifierKind.ofName? raw with
      | some k => pure k
      | none => fail (.unknownModifierType raw)
  let value := (← e.number "value" Binary32.ofText?).getD (Binary32.zero false)
  if !value.isFinite then fail (.nonFiniteAttribute value.toText)
  else
    let id ← e.requiredId
    let index ← e.number "index" Text.readInt32
    let scopes ← e.readScopes
    let firstTurn ← e.number "first-turn" Text.readNat32
    let lastTurn ← e.number "last-turn" Text.readNat32
    pure { id, value, kind, index := index.getD 0, source := e.attr "source", scopes,
           firstTurn, lastTurn }

/-- The element as a child of a declaration. -/
def readChild (e : Element) : Reading Edit := do
  let deleted := (← e.flag "delete").getD false
  match e.tag with
  | "ability" => if deleted then .deleteAbility <$> e.requiredId else .addAbility <$> e.readAbility
  | "modifier" =>
    if deleted then .deleteModifier <$> e.requiredId else .addModifier <$> e.readModifier
  | "scope" => .scope <$> e.readScope
  | tag => pure (.unknown tag)

/-- The tags of the children of a scope, each as `scope/tag`. -/
def scopeReports (e : Element) : List String := e.children.map fun c => "scope/" ++ c.tag

/-- What is nested in a child and read by nothing, as `parent/tag`: inside an ability or
modifier every non-scope element, and the children of its scopes; inside a scope every
element. -/
def unread (e : Element) : List String :=
  if e.tag == "ability" || e.tag == "modifier" then
    e.children.flatMap fun c => if c.tag == "scope" then c.scopeReports else [e.tag ++ "/" ++ c.tag]
  else if e.tag == "scope" then e.scopeReports
  else []

/-- The element as a type declaration. -/
def readDeclaration (e : Element) : Reading Declaration := do
  let children ← e.children.mapM fun c => do
    let edit ← c.readChild
    pure (edit :: c.unread.map Edit.unknown)
  let id ← e.requiredId
  let isAbstract ← e.flag "abstract"
  let preserve ← e.flag "preserve"
  pure { tag := e.tag, id, isAbstract, parent := e.attr "extends", preserve,
         children := children.flatten }

/-- The root element as a document. -/
def readDocument (root : Element) : Reading Document := do
  let sections ← root.children.mapM fun s => do
    let types ← s.children.mapM readDeclaration
    pure { tag := s.tag, types : Section }
  pure { sections }

end Element

/-- The rule document of an XML text. -/
def readDocument (text : String) : Reading Document :=
  parseTree text >>= Element.readDocument

end Xml

end Ruleset
