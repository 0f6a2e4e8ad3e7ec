import Ruleset.Text.Quoted
import Ruleset.Text.Identifier

/-!
# RON errors

Why a RON text does not decode to the expected value, and where. A position is a line and a
column, both counted from one, columns in characters. An error covers the span from where
the reader stood before its last step to where it stands now; its text is the span
(`line:col`, or `line:col-line:col` when the two differ), a colon, and the cause.

This module stands in for the `ron` library (0.12) that options and features are read with.
That library's code is not part of this source, so what is described here is checked only by
tests, never proved of it, and no theorem rests on these details; statements added later
should stay independent of them.
-/

namespace Ruleset

namespace Ron

/-- A place in the text. -/
structure Pos where
  line : Nat := 1
  col : Nat := 1
  deriving DecidableEq, Repr, Inhabited

def Pos.text (p : Pos) : String := toString p.line ++ ":" ++ toString p.col

/-- The cause of a decoding failure. -/
inductive Cause where
  | eof
  | expectedArray
  | expectedArrayEnd
  | expectedBoolean
  | expectedComma
  | expectedChar
  | expectedFloat
  | floatUnderscore
  | expectedInteger
  | expectedOption
  | expectedOptionEnd
  | expectedMap
  | expectedMapColon
  | expectedMapEnd
  | expectedDifferentStructName (expected found : String)
  | expectedStructLike
  | expectedNamedStructLike (name : String)
  | expectedStructLikeEnd
  | expectedUnit
  | expectedString
  | expectedStringEnd
  | expectedIdentifier
  | invalidEscape (detail : String)
  | integerOutOfBounds
  | invalidIntegerDigit (digit : Char) (base : Nat)
  | unclosedBlockComment
  | underscoreAtBeginning
  | unexpectedChar (c : Char)
  | trailingCharacters
  | noSuchEnumVariant (expected : List String) (found : String) (outer : Option String)
  | missingStructField (field : String) (outer : Option String)
  | duplicateStructField (field : String) (outer : Option String)
  | suggestRawIdentifier (found : String)
  | exceededRecursionLimit
  | invalidValueForType (expected found : String)
  | expectedByteLiteral
  | expectedByteString
  | expectedAttribute
  | expectedAttributeEnd
  | noSuchExtension (name : String)
  | expectedStructName (name : String)
  deriving DecidableEq, Repr

/-- The blanks of RON. -/
def isBlank (c : Char) : Bool :=
  c == ' ' || c == '\t' || c == '\n' || c == '\r' || c == '\x0B' || c == '\x0C' ||
    c == '\u0085' || c == '\u200E' || c == '\u200F' || c == '\u2028' || c == '\u2029'

/-- Characters that continue an identifier: those of `XID_Continue`. -/
def isIdentContinue (c : Char) : Bool := Text.isXidContinue c

/-- Characters that start an identifier: `_` and those of `XID_Start`. -/
def isIdentStart (c : Char) : Bool := c == '_' || Text.isXidStart c

/-- Characters of a raw identifier. -/
def isIdentRaw (c : Char) : Bool := c == '.' || c == '+' || c == '-' || isIdentContinue c

/-- An identifier in a message: between backquotes, with `r#` before it when it is only a
raw identifier, and quoted with a mark when it is not an identifier at all. -/
def ident (name : String) : String :=
  let cs := name.toList
  if cs.isEmpty || !cs.all isIdentRaw then Text.quote name ++ "_[invalid identifier]"
  else if cs.head?.any isIdentStart && cs.all isIdentContinue then "`" ++ name ++ "`"
  else "`r#" ++ name ++ "`"

/-- Lists alternatives: "expected `a` instead", "expected either `a` or `b` instead", or
"expected one of `a`, `b`, or `c` instead". -/
def oneOf (alts : List String) (none : String) : String :=
  match alts with
  | [] => "there are no " ++ none
  | [a] => "expected " ++ ident a ++ " instead"
  | [a, b] => "expected either " ++ ident a ++ " or " ++ ident b ++ " instead"
  | a :: rest =>
    "expected one of " ++ ident a ++ String.join (rest.dropLast.map fun x => ", " ++ ident x) ++
      ", or " ++ ident (rest.getLast?.getD "") ++ " instead"

/-- Names the outer item, " in `outer`", when there is one. -/
def inOuter : Option String → String
  | some o => " in " ++ ident o
  | none => ""

def Cause.message : Cause → String
  | .eof => "Unexpected end of RON"
  | .expectedArray => "Expected opening `[`"
  | .expectedArrayEnd => "Expected closing `]`"
  | .expectedBoolean => "Expected boolean"
  | .expectedComma => "Expected comma"
  | .expectedChar => "Expected char"
  | .expectedFloat => "Expected float"
  | .floatUnderscore => "Unexpected underscore in float"
  | .expectedInteger => "Expected integer"
  | .expectedOption => "Expected option"
  | .expectedOptionEnd => "Expected closing `)`"
  | .expectedMap => "Expected opening `\x7b`"
  | .expectedMapColon => "Expected colon"
  | .expectedMapEnd => "Expected closing `\x7d`"
  | .expectedDifferentStructName e f => "Expected struct " ++ ident e ++ " but found " ++ ident f
  | .expectedStructLike => "Expected opening `(`"
  | .expectedNamedStructLike name =>
    if name.isEmpty then "Expected only opening `(`, no name, for un-nameable struct"
    else "Expected opening `(` for struct " ++ ident name
  | .expectedStructLikeEnd => "Expected closing `)`"
  | .expectedUnit => "Expected unit"
  | .expectedString => "Expected string"
  | .expectedStringEnd => "Expected end of string"
  | .expectedIdentifier => "Expected identifier"
  | .invalidEscape d => d
  | .integerOutOfBounds => "Integer is out of bounds"
  | .invalidIntegerDigit d base =>
    "Invalid digit " ++ Text.quoteChar d ++ " for base " ++ toString base ++ " integers"
  | .unclosedBlockComment => "Unclosed block comment"
  | .underscoreAtBeginning => "Unexpected leading underscore in a number"
  | .unexpectedChar c => "Unexpected char " ++ Text.quoteChar c
  | .trailingCharacters => "Non-whitespace trailing characters"
  | .noSuchEnumVariant expected found outer =>
    "Unexpected " ++ (if outer.isNone then "enum " else "") ++ "variant named " ++ ident found ++
      (outer.map (" in enum " ++ ident ·)).getD "" ++ ", " ++ oneOf expected "variants"
  | .missingStructField field outer =>
    "Unexpected missing field named " ++ ident field ++ inOuter outer
  | .duplicateStructField field outer =>
    "Unexpected duplicate field named " ++ ident field ++ inOuter outer
  | .suggestRawIdentifier found =>
    "Found invalid std identifier " ++ Text.quote found ++ ", try the raw identifier `r#" ++
      found ++ "` instead"
  | .exceededRecursionLimit =>
    "Exceeded recursion limit, try increasing `ron::Options::recursion_limit` and using " ++
      "`serde_stacker` to protect against a stack overflow"
  | .invalidValueForType expected found =>
    "Expected " ++ expected ++ " but found " ++ found ++ " instead"
  | .expectedByteLiteral => "Expected byte literal"
  | .expectedByteString => "Expected byte string"
  | .expectedAttribute => "Expected an `#![enable(...)]` attribute"
  | .expectedAttributeEnd => "Expected closing `)]` after the enable attribute"
  | .noSuchExtension name => "No RON extension named " ++ ident name
  | .expectedStructName name =>
    "Expected the explicit struct name " ++ ident name ++ ", but none was found"

/-- A decoding failure with its span. -/
structure Error where
  cause : Cause
  start : Pos
  stop : Pos
  deriving DecidableEq, Repr

def Error.message (e : Error) : String :=
  (if e.start = e.stop then e.start.text else e.start.text ++ "-" ++ e.stop.text) ++ ": " ++
    e.cause.message

/-- Names the struct in a field error that does not name one yet. -/
def Cause.within (name : String) : Cause → Cause
  | .missingStructField f none => .missingStructField f (some name)
  | .duplicateStructField f none => .duplicateStructField f (some name)
  | c => c

end Ron

end Ruleset
