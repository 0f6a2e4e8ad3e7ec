import Ruleset.Text.Quoted

/-!
# Registry errors

The causes for which loading, finalizing or querying a registry fails, and their texts.
A malformed document carries the detail that says what is wrong with it (`Malformed`); the
same details are produced by the XML reader and by the validation of documents built in code.
-/

namespace Ruleset

/-- What is wrong with a document. -/
inductive Malformed where
  /-- A type element, ability or modifier lacks an `id`, or has an empty one. -/
  | missingId (tag : String)
  /-- An ability or modifier entry with an empty id inside a type. -/
  | entryWithoutId (kind typeId : String)
  /-- A modifier whose value is infinite or NaN (`value` is its text). -/
  | nonFiniteValue (modifierId typeId value : String)
  /-- The markup has no element at all. -/
  | noRoot
  /-- A second element follows the root. -/
  | secondRoot
  /-- The input ends inside an element. -/
  | neverClosed (tag : String)
  /-- An end tag with no element open. -/
  | closeWithoutOpen
  /-- A flag attribute that is neither `true` nor `false`. -/
  | badFlag (tag name raw : String)
  /-- A number attribute that does not read as one. -/
  | badNumber (tag name raw : String)
  /-- A modifier type that is not one of the three names. -/
  | unknownModifierType (raw : String)
  /-- A modifier value attribute that reads as infinity or NaN. -/
  | nonFiniteAttribute (value : String)
  deriving DecidableEq, Repr

/-- The text of a malformation. -/
def Malformed.detail : Malformed → String
  | .missingId tag => "<" ++ tag ++ "> element without an id"
  | .entryWithoutId kind typeId => "<" ++ kind ++ "> without an id in type '" ++ typeId ++ "'"
  | .nonFiniteValue m t v => "modifier '" ++ m ++ "' in type '" ++ t ++ "' has non-finite value " ++ v
  | .noRoot => "document has no root element"
  | .secondRoot => "document has more than one root element"
  | .neverClosed tag => "<" ++ tag ++ "> is never closed"
  | .closeWithoutOpen => "closing tag without an open element"
  | .badFlag tag name raw =>
    "<" ++ tag ++ "> attribute " ++ name ++ ": expected true or false, got " ++ Text.quote raw
  | .badNumber tag name raw =>
    "<" ++ tag ++ "> attribute " ++ name ++ ": invalid number " ++ Text.quote raw
  | .unknownModifierType raw => "<modifier> has unknown type " ++ Text.quote raw
  | .nonFiniteAttribute v => "<modifier> attribute value: not a finite number (" ++ v ++ ")"

/-- Why an operation on a registry failed. -/
inductive RegistryError where
  | malformed (detail : Malformed)
  /-- The type `source` refers to the missing `target`, which should be a type (`kind` says which
  reference: `type`, `ability` or `modifier`). -/
  | unresolved (source target kind : String)
  /-- The types of an inheritance cycle, in table order. -/
  | cycle (ids : List String)
  | notFound (id : String)
  | frozen
  | notFinalized
  deriving DecidableEq, Repr

namespace RegistryError

/-- The name of the kind of error. -/
def kind : RegistryError → String
  | malformed _ => "MalformedDocument"
  | unresolved .. => "UnresolvedReference"
  | cycle _ => "InheritanceCycle"
  | notFound _ => "QueryNotFound"
  | frozen => "Frozen"
  | notFinalized => "NotFinalized"

/-- The text of the error. -/
def message : RegistryError → String
  | malformed d => "Malformed document: " ++ d.detail
  | unresolved s t k => "Unresolved reference: " ++ s ++ " refers to unknown " ++ k ++ " '" ++ t ++ "'"
  | cycle ids => "Inheritance cycle among types: " ++ ", ".intercalate ids
  | notFound id => "Not found: " ++ id
  | frozen => "Specification is finalized and can not be modified"
  | notFinalized => "Specification has not been finalized"

end RegistryError

end Ruleset
