import Ruleset.Xml.Token
import Ruleset.Error

/-!
# Element trees

The tokens of a text build one element tree. A start tag opens an element, its end tag
closes it and attaches it to the enclosing one; an empty-element tag attaches at once. An
element attached with nothing open becomes the root; a second such element is refused
(`Malformed.secondRoot`). At the end no element may be open (`Malformed.neverClosed`, naming
the innermost) and there must be a root (`Malformed.noRoot`).

Attributes are read when an element is opened, so a bad attribute list is reported at its
tag. Faults of the tokens themselves come after every fault of the tokens before them.

* `Xml.Element.ofTokens` — the tree of a token list.
* `Xml.parseTree` — the tree of a text.
-/

namespace Ruleset

namespace Xml

/-- An element: its tag, its attributes in order, its child elements in order. -/
structure Element where
  tag : String
  attrs : List (String × String)
  children : List Element
  deriving Inhabited

/-- Why a text does not give a tree, or a tree does not give a rule document. -/
inductive ReadError where
  | markup (e : Error)
  | malformed (m : Malformed)
  deriving Repr

/-- An element still open: tag, attributes, and the children so far, last first. -/
structure Frame where
  tag : String
  attrs : List (String × String)
  childrenRev : List Element

namespace Element

/-- The value of the first attribute with the key. -/
def attr (e : Element) (key : String) : Option String := (e.attrs.find? (·.1 == key)).map (·.2)

/-- The element of a start or empty-element tag content, with no children yet. -/
def ofContent (content : List Char) : Except ReadError Element :=
  match readAttributes content with
  | .ok attrs => .ok ⟨tagName content, attrs, []⟩
  | .error e => .error (.markup e)

/-- Attaches a finished element to the innermost open one, or makes it the root. -/
def attach (e : Element) : List Frame → Option Element →
    Except ReadError (List Frame × Option Element)
  | f :: stack, root => .ok ({ f with childrenRev := e :: f.childrenRev } :: stack, root)
  | [], none => .ok ([], some e)
  | [], some _ => .error (.malformed .secondRoot)

/-- Builds from the tokens with the open elements and the root so far. -/
def build : List Token → List Frame → Option Element →
    Except ReadError (List Frame × Option Element)
  | [], stack, root => .ok (stack, root)
  | .start content :: rest, stack, root =>
    match ofContent content with
    | .ok e => build rest (⟨e.tag, e.attrs, []⟩ :: stack) root
    | .error err => .error err
  | .empty content :: rest, stack, root =>
    match ofContent content >>= fun e => attach e stack root with
    | .ok (stack, root) => build rest stack root
    | .error err => .error err
  | .close _ :: rest, stack, root =>
    match stack with
    | f :: stack =>
      match attach ⟨f.tag, f.attrs, f.childrenRev.reverse⟩ stack root with
      | .ok (stack, root) => build rest stack root
      | .error err => .error err
    | [] => .error (.malformed .closeWithoutOpen)

/-- The tree of a token list, given the fault that ended the tokens, if any. -/
def ofTokens (tokens : List Token) (fault : Option Error) : Except ReadError Element :=
  match build tokens [] none with
  | .error err => .error err
  | .ok (stack, root) =>
    match fault, stack, root with
    | some e, _, _ => .error (.markup e)
    | none, f :: _, _ => .error (.malformed (.neverClosed f.tag))
    | none, [], none => .error (.malformed .noRoot)
    | none, [], some r => .ok r

end Element

/-- The element tree of a text. -/
def parseTree (text : String) : Except ReadError Element :=
  let (tokens, fault) := tokenize text
  Element.ofTokens tokens fault

end Xml

end Ruleset
