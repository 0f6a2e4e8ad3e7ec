import Ruleset.Ron.Error

/-!
# The RON reader's cursor

A reader walks the text with a cursor. Each step that moves over a token records where it
started, so that an error spans the last token read; skipping blanks counts as a step even
when there are none. A failure leaves the cursor where the reader got to, and the error's
span is read off the cursor at the end (`Ron.decode`).

The cursor also carries the nesting budget: every nested value spends one level while it is
read (`Ron.descend`), and a value nested deeper than the budget allows is refused. The
extensions enabled by attributes at the start of the text ride along as well.

Blanks and comments (`// …` to the end of the line, `/* … */` nested) may stand between
tokens. Identifiers are made of `XID_Start` and `XID_Continue` characters, or are raw
(`r#` before characters that may include `.`, `+` and `-`).

This module stands in for the `ron` library (0.12) that options and features are read with.
That library's code is not part of this source, so what is described here is checked only by
tests, never proved of it, and no theorem rests on these details; statements added later
should stay independent of them.
-/

namespace Ruleset

namespace Ron

/-- The optional features of the notation that an attribute at the start can enable. -/
structure Extensions where
  /-- An optional value may be written without `Some(…)`. -/
  implicitSome : Bool := false
  unwrapNewtypes : Bool := false
  unwrapVariantNewtypes : Bool := false
  /-- Every struct must be written with its name. -/
  explicitStructNames : Bool := false
  deriving DecidableEq, Repr

/-- Enables the extension named `name`, if there is one of that name. -/
def Extensions.enable (e : Extensions) (name : String) : Option Extensions :=
  match name with
  | "implicit_some" => some { e with implicitSome := true }
  | "unwrap_newtypes" => some { e with unwrapNewtypes := true }
  | "unwrap_variant_newtypes" => some { e with unwrapVariantNewtypes := true }
  | "explicit_struct_names" => some { e with explicitStructNames := true }
  | _ => none

/-- How deep values may nest. -/
def nestingLimit : Nat := 128

/-- Where the reader stands: the text still to read and how long it is, its position, the
position before the last step, the nesting levels still allowed, and the extensions in force. -/
structure Cursor where
  rest : List Char
  left : Nat := rest.length
  pos : Pos := {}
  prev : Pos := {}
  budget : Nat := nestingLimit
  extensions : Extensions := {}

/-- A reading step; a failure keeps the cursor where it was reached. -/
abbrev Reader := ExceptT Cause (StateM Cursor)

/-- The position after a character. -/
def Pos.next (p : Pos) (c : Char) : Pos :=
  if c = '\n' then { line := p.line + 1, col := 1 } else { p with col := p.col + 1 }

/-- Fails with a cause. -/
def fail {α : Type} (cause : Cause) : Reader α := throw cause

/-- Moves over the next `n` characters as one step. -/
def advance (n : Nat) : Reader Unit :=
  modify fun s =>
    { s with rest := s.rest.drop n, left := s.left - n, pos := (s.rest.take n).foldl Pos.next s.pos
             prev := s.pos }

/-- Puts the reader back to a saved place; the start of the last step stays as it is. -/
def restore (saved : Cursor) : Reader Unit :=
  modify fun s => { s with rest := saved.rest, left := saved.left, pos := saved.pos }

/-- Runs a step and answers its outcome; after a failure the reader stays where the step got
to. -/
def attempt {α : Type} (r : Reader α) : Reader (Except Cause α) :=
  tryCatch (do pure (.ok (← r))) fun e => pure (.error e)

/-- Reads a nested value, spending one level of the nesting budget while it is read. -/
def descend {α : Type} (r : Reader α) : Reader α := do
  let s ← get
  match s.budget with
  | 0 => fail .exceededRecursionLimit
  | b + 1 =>
    set { s with budget := b }
    let v ← r
    modify fun s => { s with budget := s.budget + 1 }
    pure v

/-- Moves over the next character within the current step. -/
def nextChar : Reader Char := do
  let s ← get
  match s.rest with
  | [] => fail .eof
  | c :: r =>
    set { s with rest := r, left := s.left - 1, pos := s.pos.next c }
    pure c

/-- Whether the next character is `c`. -/
def checkChar (c : Char) : Reader Bool := do pure ((← get).rest.head? == some c)

/-- Moves over the next character if it is `c`; whether it did. -/
def consumeChar (c : Char) : Reader Bool := do
  if ← checkChar c then
    advance 1
    pure true
  else pure false

/-- Whether the rest starts with `s`. -/
def checkStr (s : String) : Reader Bool := do pure (s.toList.isPrefixOf (← get).rest)

/-- Moves over `s` if the rest starts with it; whether it did. -/
def consumeStr (s : String) : Reader Bool := do
  if ← checkStr s then
    advance s.length
    pure true
  else pure false

/-- Moves over each of the tokens in turn, each with the blanks after it; whether all of them
were there. A missing token does not stop the tokens after it from being read. -/
def consumeAll (tokens : List String) (skipBlanks : Reader Unit) : Reader Bool :=
  tokens.foldlM (fun ok t => do
    if ← consumeStr t then
      skipBlanks
      pure ok
    else pure false) true

/-- The length of the run of characters with the property at the start of the rest. -/
def runLength (p : Char → Bool) : Reader Nat := do pure ((← get).rest.takeWhile p).length

/-- Whether an identifier character follows the first `n` characters. -/
def identContinuesAfter (n : Nat) : Reader Bool := do
  pure (((← get).rest.drop n).head?.any isIdentContinue)

/-- Whether the rest starts with the word `s` not followed by an identifier character. -/
def checkIdent (s : String) : Reader Bool := do
  pure (s.toList.isPrefixOf (← get).rest && !(← identContinuesAfter s.length))

/-- Moves over the word `s` if it stands here; whether it did. -/
def consumeIdent (s : String) : Reader Bool := do
  if ← checkIdent s then
    advance s.length
    pure true
  else pure false

/-- What a comment skip found. -/
inductive Comment where
  | none
  | closed
  | unclosedLine

/-- Skips the rest of a block comment at nesting `level`; every round moves over at least one
character, so one round per character suffices. -/
def blockComment : Nat → Nat → Reader Unit
  | 0, _ => pure ()
  | _, 0 => pure ()
  | fuel + 1, level + 1 => do
    if (← get).rest.isEmpty then fail .unclosedBlockComment
    advance (← runLength fun c => c != '/' && c != '*')
    if ← consumeStr "/*" then blockComment fuel (level + 2)
    else if ← consumeStr "*/" then blockComment fuel level
    else
      match (← get).rest with
      | [] => fail .unclosedBlockComment
      | _ => discard nextChar; blockComment fuel (level + 1)

/-- Skips one comment, if one starts here. -/
def skipComment : Reader Comment := do
  if ← consumeChar '/' then
    match ← nextChar with
    | '/' =>
      advance (← runLength (· != '\n'))
      if (← get).rest.isEmpty then pure .unclosedLine else pure .closed
    | '*' =>
      blockComment ((← get).left + 1) 1
      pure .closed
    | c => fail (.unexpectedChar c)
  else pure .none

/-- Skips blanks and comments. -/
def skipWsFrom : Nat → Reader Unit
  | 0 => pure ()
  | fuel + 1 => do
    advance (← runLength isBlank)
    match ← skipComment with
    | .closed => skipWsFrom fuel
    | _ => pure ()

/-- Skips blanks and comments; at the end of the text it does nothing. -/
def skipWs : Reader Unit := do
  let s ← get
  if s.rest.isEmpty then pure () else skipWsFrom (s.left + 1)

/-- Reads an optional comma, with the blanks around it; whether there was one. -/
def comma : Reader Bool := do
  skipWs
  if ← consumeChar ',' then
    skipWs
    pure true
  else pure false

/-- Whether a list of the given terminator has another element, given whether a comma came
after the previous one. -/
def hasElement (terminator : Char) (hadComma : Bool) : Reader Bool := do
  skipWs
  let more := !(← checkChar terminator)
  if hadComma then pure more
  else if more then fail .expectedComma
  else pure false

/-- The elements of a list up to its terminator, each followed by an optional comma. Every
element moves the reader, so one round per character suffices. -/
def elements {α : Type} (terminator : Char) (element : Reader α) :
    Nat → Bool → List α → Reader (List α)
  | 0, _, acc => pure acc.reverse
  | fuel + 1, hadComma, acc => do
    if !(← hasElement terminator hadComma) then return acc.reverse
    let v ← element
    let c ← comma
    elements terminator element fuel c (v :: acc)

/-- All elements of a list from here up to its terminator. -/
def elementsToEnd {α : Type} (terminator : Char) (element : Reader α) : Reader (List α) := do
  elements terminator element ((← get).left + 1) true []

/-- Reads `: value`, with blanks around the colon. -/
def nextValue {α : Type} (value : Reader α) : Reader α := do
  skipWs
  if !(← consumeChar ':') then fail .expectedMapColon
  skipWs
  value

/-- Prefixes of string and byte literals, which are not identifiers. -/
def literalPrefixes : List String := ["b\"", "b'", "br#", "br\"", "r\"", "r#\"", "r##"]

/-- Reads an identifier: a standard one, or a raw one after `r#`. A run that goes on with
raw-only characters (`.`, `+`, `-`) is refused with the suggestion to write it raw. -/
def identifier : Reader String := do
  let rest := (← get).rest
  match rest with
  | [] => fail .eof
  | first :: _ =>
    if !isIdentStart first then
      if isIdentRaw first then
        fail (.suggestRawIdentifier (String.ofList (rest.takeWhile isIdentRaw)))
      else fail .expectedIdentifier
    else if literalPrefixes.any fun p => p.toList.isPrefixOf rest then fail .expectedIdentifier
    else if "r#".toList.isPrefixOf rest then
      let raw := (rest.drop 2).takeWhile isIdentRaw
      if raw.isEmpty then
        -- the reader steps over `r#` and back, so the error points at the `r`
        let start ← get
        advance 2
        restore start
        fail .expectedIdentifier
      else
        advance 2
        advance raw.length
        pure (String.ofList raw)
    else
      let std := first :: (rest.drop 1).takeWhile isIdentContinue
      let raw := rest.takeWhile isIdentRaw
      if raw.length > std.length then fail (.suggestRawIdentifier (String.ofList raw))
      else
        advance std.length
        pure (String.ofList std)

/-- Moves over an identifier, if one starts here (not a string literal); whether it did. -/
def skipIdentifier : Reader Bool := do
  let rest := (← get).rest
  if literalPrefixes.any fun p => p.toList.isPrefixOf rest then return false
  if "r#".toList.isPrefixOf rest then
    let raw := (rest.drop 2).takeWhile isIdentRaw
    if raw.isEmpty then return false
    advance (2 + raw.length)
    return true
  match rest with
  | c :: r =>
    if isIdentStart c then
      advance (1 + (r.takeWhile isIdentContinue).length)
      pure true
    else pure false
  | [] => pure false

/-- The text read since a saved place. -/
def readSince (saved : Cursor) : Reader String := do
  pure (String.ofList (saved.rest.take (saved.left - (← get).left)))

end Ron

end Ruleset
