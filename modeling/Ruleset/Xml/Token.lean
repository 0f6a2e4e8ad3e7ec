import Ruleset.Xml.Error
import Ruleset.Xml.Attribute

/-!
# Markup tokens

A text is read as markup between runs of character data. Each `<` starts one of:

* `<!--` … `-->` a comment, `<![CDATA[` … `]]>` a CDATA section (its keyword in capitals),
  `<!DOCTYPE` … `>` a document type declaration (its keyword in any case, with nested
  `<` … `>` balanced);
* `<?` … `?>` a processing instruction or XML declaration;
* `</name>` an end tag, which must close the innermost open element (blanks after the name
  are allowed);
* `<content>` a start tag, or `<content/>` an empty element.

A tag ends at the first `>` outside quotes. Character data, comments, CDATA, instructions and
declarations carry nothing for rule documents, so only tags become tokens.

`Xml.tokenize` lists the tokens up to the first fault and reports the fault, if any. A byte
order mark at the start is skipped.

This module stands in for the `quick-xml` library (0.36) that the rule reader is built on.
That library's code is not part of this source, so what is described here is checked only by
tests, never proved of it. No theorem rests on these details: what is proved about reading
rules holds for every list of tokens and every fault (`Xml.Element.ofTokens_spec`), and
statements added later should stay so.
-/

namespace Ruleset

namespace Xml

/-- A tag of the markup. -/
inductive Token where
  /-- A start tag, with its content (name and attributes). -/
  | start (content : List Char)
  /-- An empty-element tag, with its content less the final `/`. -/
  | empty (content : List Char)
  /-- An end tag, with its name. -/
  | close (name : String)
  deriving DecidableEq, Repr

/-- The content of a tag up to the first `>` outside quotes, and the input after that `>`. -/
def splitTag : Option Char → List Char → List Char → Option (List Char × List Char)
  | _, _, [] => none
  | none, acc, c :: r =>
    if c == '>' then some (acc.reverse, r)
    else if c == '"' || c == '\'' then splitTag (some c) (c :: acc) r
    else splitTag none (c :: acc) r
  | some q, acc, c :: r =>
    if c == q then splitTag none (c :: acc) r else splitTag (some q) (c :: acc) r

/-- The text up to the first `>` right after a `?`, and the input after that `>`. -/
def splitInstruction : Option Char → List Char → List Char → Option (List Char × List Char)
  | _, _, [] => none
  | prev, acc, c :: r =>
    if c == '>' && prev == some '?' then some (acc.reverse, r)
    else splitInstruction (some c) (c :: acc) r

/-- The text up to the first `>` that comes after `--` and at least five bytes in, and the
input after that `>`. `pos` is the byte offset of the remaining input. -/
def splitComment : Nat → List Char → List Char → Option (List Char × List Char)
  | _, _, [] => none
  | pos, acc, c :: r =>
    if c == '>' && pos > 4 && acc.take 2 == ['-', '-'] then some (acc.reverse, r)
    else splitComment (pos + c.utf8Size) (c :: acc) r

/-- The text up to the first `>` right after `]]`, and the input after that `>`. -/
def splitCData : List Char → List Char → Option (List Char × List Char)
  | _, [] => none
  | acc, c :: r =>
    if c == '>' && acc.take 2 == [']', ']'] then some (acc.reverse, r)
    else splitCData (c :: acc) r

/-- The text up to the `>` that balances the opening one, and the input after it. -/
def splitDoctype : Nat → List Char → List Char → Option (List Char × List Char)
  | _, _, [] => none
  | depth, acc, c :: r =>
    if c == '<' then splitDoctype (depth + 1) (c :: acc) r
    else if c == '>' then
      if depth == 0 then some (acc.reverse, r) else splitDoctype (depth - 1) (c :: acc) r
    else splitDoctype depth (c :: acc) r

/-- Whether `cs` starts with `p`, letters compared without case. -/
def startsWithNoCase (cs : List Char) (p : String) : Bool :=
  (cs.take p.length).map Char.toLower == p.toList.map Char.toLower

/-- Skips a `<!` construct (`s` starts at the `!`); the input after it. -/
def skipBang (s : List Char) : Except Error (List Char) :=
  match s.drop 1 with
  | '-' :: _ =>
    match splitComment 0 [] s with
    | some (body, rest) =>
      if body.take 3 == ['!', '-', '-'] then .ok rest else .error (.markup .unclosedComment)
    | none => .error (.markup .unclosedComment)
  | '[' :: _ =>
    match splitCData [] s with
    | some (body, rest) =>
      if "![CDATA[".toList.isPrefixOf body then .ok rest else .error (.markup .unclosedCData)
    | none => .error (.markup .unclosedCData)
  | c :: _ =>
    if c == 'D' || c == 'd' then
      match splitDoctype 0 [] s with
      | some (body, rest) =>
        if !startsWithNoCase body "!DOCTYPE" then .error (.markup .unclosedDoctype)
        else if (body.drop 8).all isSpace then .error (.illFormed .missingDoctypeName)
        else .ok rest
      | none => .error (.markup .unclosedDoctype)
    else .error (.markup .invalidBang)
  | [] => .error (.markup .invalidBang)

/-- The name in an end tag: its content less trailing blanks (all of it when it is all
blanks). -/
def closingName (content : List Char) : String :=
  let trimmed := (content.reverse.dropWhile isSpace).reverse
  String.ofList (if trimmed.isEmpty then content else trimmed)

/-- Tokens from `cs` on, with the names of the open elements innermost first. Each round
consumes at least the `<`, so `fuel` one more than the length suffices. -/
def tokenizeFrom : Nat → List String → List Char → List Token → List Token × Option Error
  | 0, _, _, acc => (acc.reverse, none)
  | fuel + 1, opened, cs, acc =>
    match cs.dropWhile (· != '<') with
    | [] => (acc.reverse, none)
    | _ :: rest =>
      match rest with
      | [] => (acc.reverse, some (.markup .unclosedTag))
      | '!' :: _ =>
        match skipBang rest with
        | .ok after => tokenizeFrom fuel opened after acc
        | .error e => (acc.reverse, some e)
      | '?' :: _ =>
        match splitInstruction none [] rest with
        | some (body, after) =>
          if body.length > 1 && body.getLast? == some '?' then tokenizeFrom fuel opened after acc
          else (acc.reverse, some (.markup .unclosedInstruction))
        | none => (acc.reverse, some (.markup .unclosedInstruction))
      | '/' :: _ =>
        match splitTag none [] rest with
        | some (content, after) =>
          let name := closingName (content.drop 1)
          match opened with
          | [] => (acc.reverse, some (.illFormed (.unmatchedEnd name)))
          | top :: opened =>
            if top == name then tokenizeFrom fuel opened after (.close name :: acc)
            else (acc.reverse, some (.illFormed (.mismatchedEnd top name)))
        | none => (acc.reverse, some (.markup .unclosedTag))
      | _ =>
        match splitTag none [] rest with
        | some (content, after) =>
          if content.getLast? == some '/' then
            tokenizeFrom fuel opened after (.empty content.dropLast :: acc)
          else tokenizeFrom fuel (tagName content :: opened) after (.start content :: acc)
        | none => (acc.reverse, some (.markup .unclosedTag))

/-- The tokens of a text up to the first fault, and the fault. -/
def tokenize (text : String) : List Token × Option Error :=
  let cs := match text.toList with
    | '\uFEFF' :: r => r
    | r => r
  tokenizeFrom (cs.length + 1) [] cs []

end Xml

end Ruleset
