import Ruleset.Ron.Number

/-!
# Skipping RON values

A field the model does not know is read and thrown away; its value may be of any shape:

* `true`, `false`, `()`, `None`, `Some(value)`, `inf`, `NaN` (with a suffix `f32` or `f64`);
  with the extension `unwrap_variant_newtypes`, `Some(…)` may hold the fields of a struct or
  the elements of a tuple without their own parentheses;
* a number or byte literal, and a range of numbers `a..b` or `a..=b`, where the start may be
  left out, and the end too after `..`;
* a string, byte string or character;
* a list `[…]`, a map `{key: value, …}`;
* an identifier, alone (a unit value) or before `(…)`, and a bare `(…)`: a struct with named
  fields when its first element is `name:`, a tuple otherwise.

Every nested value spends a level of the nesting budget, as it does where the model reads
one: a list, tuple, struct or map one for itself and one for each element, key or value in
it, and `Some(…)` one.

This module stands in for the `ron` library (0.12) that options and features are read with.
That library's code is not part of this source, so what is described here is checked only by
tests, never proved of it, and no theorem rests on these details; statements added later
should stay independent of them.
-/

namespace Ruleset

namespace Ron

/-- The shape of what follows an identifier or stands at a `(`. -/
inductive StructKind where
  | unit
  | named
  | tuple

/-- Looks ahead without moving: a unit when no `(` follows, a struct with named fields when
the first element is `name:`, a tuple otherwise. -/
def structKind : Reader StructKind := do
  let start ← get
  let kind ← (do
    if !(← consumeChar '(') then return StructKind.unit
    skipWs
    if ← checkChar ')' then return .tuple
    if ← skipIdentifier then
      skipWs
      match (← get).rest with
      | ':' :: _ => return .named
      | ',' :: _ =>
        discard nextChar
        skipWs
        return .tuple
      | _ => return .tuple
    return .tuple : Reader StructKind)
  restore start
  pure kind

/-- Moves over `inf` or `NaN`, with or without a float suffix; whether it did. -/
def skipFloatWord : Reader Bool :=
  ["inf", "inff32", "inff64", "NaN", "NaNf32", "NaNf64"].foldlM
    (fun done w => if done then pure true else consumeIdent w) false

/-- Whether the end bound of a range starts here: a digit, a sign, a point or a byte
literal. -/
def boundAhead : Reader Bool := do
  match (← get).rest with
  | 'b' :: '\'' :: _ => pure true
  | c :: _ => pure (c.isDigit || c == '+' || c == '-' || c == '.')
  | [] => pure false

/-- Skips the rest of a range after its start, if a range operator follows. After `..=` the
end bound is a number that must be there; after `..` it is read when one starts here. -/
def skipRangeEnd : Reader Unit := do
  if ← consumeStr "..=" then skipNumber
  else if ← consumeStr ".." then
    if ← skipFloatWord then return
    if ← boundAhead then skipNumber

/-- Tries a literal here for its effect. When it is not there or, with `lenient`, written
wrongly, the reader goes back to where it was; otherwise a literal written wrongly fails with
its own cause. `absent` is the cause that says the literal does not start here. -/
def skipLiteral (r : Reader Unit) (absent : Cause) (lenient : Bool) : Reader Unit := do
  let start ← get
  match ← attempt r with
  | .ok _ => pure ()
  | .error e => if lenient || e == absent then restore start else fail e

/-- Moves to the bracket that closes the value being scanned, or past the first comma at its
top level and the blanks after it; `depth + 1` brackets are open. Answers whether a comma
stood at the top level with more than the closing bracket after it.

Each round moves over blanks, then over a character literal, a string and a byte string, each
if one stands there in turn, then over blanks and one more character, which counts when it is a bracket or
a comma. Brackets inside the literals so moved over do not count. A string or byte string
written wrongly ends the scan with its failure; a character literal written wrongly is not
moved over. Every round moves over at least one character. -/
def scanToClose : Nat → Nat → Reader Bool
  | 0, _ => pure false
  | _, 0 => pure false
  | fuel + 1, depth + 1 => do
    skipWs
    skipLiteral skipChar .expectedChar true
    skipLiteral (discard readString) .expectedString false
    skipLiteral skipByteString .expectedByteString false
    skipWs
    let c ← nextChar
    if c == '(' || c == '[' || c == '\x7b' then scanToClose fuel (depth + 2)
    else if c == ')' || c == ']' || c == '\x7d' then scanToClose fuel depth
    else if c == ',' && depth == 0 then
      skipWs
      pure !(← checkChar ')')
    else scanToClose fuel (depth + 1)

/-- What `Some(…)` holds when variant newtypes are unwrapped. -/
inductive Unwrapped where
  /-- One value, read as it stands. -/
  | single
  /-- The fields of a struct, `name: value, …`. -/
  | named
  /-- The elements of a tuple, more than one. -/
  | tuple

/-- Looks ahead inside `Some(…)` when variant newtypes are unwrapped, and moves back after a
look that succeeds: the fields of a struct when the content starts with `name:`, a tuple when
a comma at the top level has more after it, one value otherwise. Unless a name decides it,
the look reads on to the closing parenthesis, and a failure there stands. -/
def unwrappedKind : Reader Unwrapped := do
  let start ← get
  let kind ← (do
    skipWs
    if ← skipIdentifier then
      skipWs
      match (← get).rest with
      | ':' :: _ => return Unwrapped.named
      | ',' :: _ =>
        discard nextChar
        skipWs
        return if ← checkChar ')' then .single else .tuple
      | ')' :: _ => return .single
      | _ => pure ()
    return if ← scanToClose ((← get).left + 1) 1 then .tuple else .single : Reader Unwrapped)
  restore start
  pure kind

mutual

/-- Skips any value. The fuel bounds the nesting; the budget runs out first. -/
def skipValue : Nat → Reader Unit
  | 0 => fail .exceededRecursionLimit
  | fuel + 1 => do
    if ← consumeIdent "true" then return
    if ← consumeIdent "false" then return
    if ← checkIdent "Some" then return ← skipOption fuel
    if ← consumeIdent "None" then return
    if ← consumeStr "()" then return
    if ← skipFloatWord then
      skipRangeEnd
      return
    if ← skipIdentifier then
      skipWs
      return ← skipParenthesised fuel
    match (← get).rest with
    | [] => fail .eof
    | c :: rest =>
      if c == '(' then skipParenthesised fuel
      else if c == '[' then skipSeq fuel
      else if c == '\x7b' then skipMap fuel
      else if c == '.' && rest.head? == some '.' then skipRangeEnd
      else if c.isDigit || c == '+' || c == '-' || c == '.' then
        skipNumber
        skipRangeEnd
      else if c == '"' || c == 'r' then discard readString
      else if c == 'b' && rest.head? == some '\'' then
        skipNumber
        skipRangeEnd
      else if c == 'b' then skipByteString
      else if c == '\'' then skipChar
      else fail (.unexpectedChar c)

/-- Skips `Some(value)`, or a bare value where optional values may be written so. -/
def skipOption : Nat → Reader Unit
  | 0 => fail .exceededRecursionLimit
  | fuel + 1 => do
    if ← consumeIdent "Some" then
      skipWs
      if ← consumeChar '(' then
        skipWs
        if (← get).extensions.unwrapVariantNewtypes then descend (skipUnwrapped fuel)
        else descend (skipValue fuel)
        discard comma
        if !(← consumeChar ')') then fail .expectedOptionEnd
        return
    if (← get).extensions.implicitSome then descend (skipValue fuel)
    else fail .expectedOption

/-- Skips the content of `Some(…)` when variant newtypes are unwrapped: nothing, one value, or
the fields of a struct or the elements of a tuple without parentheses of their own. -/
def skipUnwrapped : Nat → Reader Unit
  | 0 => fail .exceededRecursionLimit
  | fuel + 1 => do
    if ← checkChar ')' then return
    match ← unwrappedKind with
    | .single => skipValue fuel
    | .named =>
      descend (discard (elementsToEnd ')' (do
        descend (discard identifier)
        nextValue (descend (skipValue fuel)))))
      skipWs
    | .tuple =>
      descend (discard (elementsToEnd ')' (descend (skipValue fuel))))
      skipWs

/-- Skips what may follow an identifier: nothing, a struct body or a tuple. -/
def skipParenthesised : Nat → Reader Unit
  | 0 => fail .exceededRecursionLimit
  | fuel + 1 => do
    match ← structKind with
    | .unit => pure ()
    | .named =>
      if !(← consumeChar '(') then fail .expectedStructLike
      descend (discard (elementsToEnd ')' (do
        descend (discard identifier)
        nextValue (descend (skipValue fuel)))))
      skipWs
      if !(← consumeChar ')') then fail .expectedStructLikeEnd
    | .tuple =>
      if !(← consumeChar '(') then fail .expectedStructLike
      descend (discard (elementsToEnd ')' (descend (skipValue fuel))))
      skipWs
      if !(← consumeChar ')') then fail .expectedStructLikeEnd

/-- Skips a list `[value, …]`. -/
def skipSeq : Nat → Reader Unit
  | 0 => fail .exceededRecursionLimit
  | fuel + 1 => do
    if !(← consumeChar '[') then fail .expectedArray
    descend (discard (elementsToEnd ']' (descend (skipValue fuel))))
    skipWs
    if !(← consumeChar ']') then fail .expectedArrayEnd

/-- Skips a map `{key: value, …}` with keys of any shape. -/
def skipMap : Nat → Reader Unit
  | 0 => fail .exceededRecursionLimit
  | fuel + 1 => do
    if !(← consumeChar '\x7b') then fail .expectedMap
    descend (discard (elementsToEnd '\x7d' (do
      descend (skipValue fuel)
      nextValue (descend (skipValue fuel)))))
    skipWs
    if !(← consumeChar '\x7d') then fail .expectedMapEnd

end

/-- Skips any value. Each level of nesting spends budget before the fuel runs low: three fuel
per level of budget suffice. -/
def skipAny : Reader Unit := do
  skipValue (3 * (← get).budget + 3)

end Ron

end Ruleset
