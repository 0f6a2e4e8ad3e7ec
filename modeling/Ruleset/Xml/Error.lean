/-!
# Markup errors

The ways in which reading XML markup fails, and their texts. Positions of attribute errors
are byte offsets inside the tag, counted from the character after `<`; ranges of entity
errors are byte offsets inside the attribute value.

This module stands in for the `quick-xml` library (0.36) that the rule reader is built on.
That library's code is not part of this source, so what is described here is checked only by
tests, never proved of it. No theorem rests on these details: what is proved about reading
rules holds for every list of tokens and every fault (`Xml.Element.ofTokens_spec`), and
statements added later should stay so.
-/

namespace Ruleset

namespace Xml

/-- A construct that the input ends inside of, or a `<!` that starts nothing known. -/
inductive MarkupError where
  | invalidBang
  | unclosedInstruction
  | unclosedComment
  | unclosedDoctype
  | unclosedCData
  | unclosedTag
  deriving DecidableEq, Repr

def MarkupError.message : MarkupError → String
  | .invalidBang => "unknown or missed symbol in markup"
  | .unclosedInstruction =>
    "processing instruction or xml declaration not closed: `?>` not found before end of input"
  | .unclosedComment => "comment not closed: `-->` not found before end of input"
  | .unclosedDoctype => "DOCTYPE not closed: `>` not found before end of input"
  | .unclosedCData => "CDATA not closed: `]]>` not found before end of input"
  | .unclosedTag => "tag not closed: `>` not found before end of input"

/-- Markup that reads but does not nest properly. -/
inductive IllFormed where
  | missingDoctypeName
  | unmatchedEnd (name : String)
  | mismatchedEnd (expected found : String)
  deriving DecidableEq, Repr

def IllFormed.message : IllFormed → String
  | .missingDoctypeName =>
    "`<!DOCTYPE>` declaration does not contain a name of a document type"
  | .unmatchedEnd name => "close tag `</" ++ name ++ ">` does not match any open tag"
  | .mismatchedEnd expected found =>
    "expected `</" ++ expected ++ ">`, but `</" ++ found ++ ">` was found"

/-- A malformed attribute list. -/
inductive AttrError where
  /-- A key not followed by `=`. -/
  | expectedEq (pos : Nat)
  /-- A `=` with nothing after it. -/
  | expectedValue (pos : Nat)
  /-- A value that does not start with a quote. -/
  | unquotedValue (pos : Nat)
  /-- A value whose quote is not closed. -/
  | expectedQuote (pos : Nat) (quote : Char)
  /-- A key given twice; the position of the first one too. -/
  | duplicated (pos previous : Nat)
  deriving DecidableEq, Repr

def AttrError.message : AttrError → String
  | .expectedEq pos =>
    "position " ++ toString pos ++ ": attribute key must be directly followed by `=` or space"
  | .expectedValue pos =>
    "position " ++ toString pos ++ ": `=` must be followed by an attribute value"
  | .unquotedValue pos =>
    "position " ++ toString pos ++ ": attribute value must be enclosed in `\"` or `'`"
  | .expectedQuote pos q =>
    "position " ++ toString pos ++ ": missing closing quote `" ++ q.toString ++
      "` in attribute value"
  | .duplicated pos previous =>
    "position " ++ toString pos ++ ": duplicated attribute, previous declaration at position " ++
      toString previous

/-- Why a decimal or hexadecimal number does not read. -/
inductive NumberError where
  | empty
  | invalidDigit
  | overflow
  deriving DecidableEq, Repr

def NumberError.message : NumberError → String
  | .empty => "cannot parse integer from empty string"
  | .invalidDigit => "invalid digit found in string"
  | .overflow => "number too large to fit in target type"

/-- Why a character reference `&#…;` does not stand for a character. -/
inductive CharRefError where
  | unexpectedSign
  | invalidNumber (e : NumberError)
  | invalidCodepoint (n : Nat)
  | illegalCharacter (n : Nat)
  deriving DecidableEq, Repr

def CharRefError.message : CharRefError → String
  | .unexpectedSign => "unexpected number sign"
  | .invalidNumber e => e.message
  | .invalidCodepoint n => "`" ++ toString n ++ "` is not a valid codepoint"
  | .illegalCharacter n => "0x" ++ String.ofList (Nat.toDigits 16 n) ++
      " character is not permitted in XML"

/-- An entity or character reference that cannot be replaced. -/
inductive EscapeError where
  | unrecognized (start stop : Nat) (name : String)
  | unterminated (start stop : Nat)
  | invalidCharRef (e : CharRefError)
  deriving DecidableEq, Repr

def EscapeError.message : EscapeError → String
  | .unrecognized start stop name =>
    "at " ++ toString start ++ ".." ++ toString stop ++ ": unrecognized entity `" ++ name ++ "`"
  | .unterminated start stop =>
    "Error while escaping character at range " ++ toString start ++ ".." ++ toString stop ++
      ": Cannot find ';' after '&'"
  | .invalidCharRef e => "invalid character reference: " ++ e.message

/-- Any failure to read markup. -/
inductive Error where
  | markup (e : MarkupError)
  | illFormed (e : IllFormed)
  | attr (e : AttrError)
  | escape (e : EscapeError)
  deriving DecidableEq, Repr

def Error.message : Error → String
  | .markup e => "syntax error: " ++ e.message
  | .illFormed e => "ill-formed document: " ++ e.message
  | .attr e => "error while parsing attribute: " ++ e.message
  | .escape e => e.message

end Xml

end Ruleset
