import Ruleset.Ron.Value

/-!
# Reading RON structures

The readers follow the shape that is expected: a struct is an optional name and
`(field: value, …)`, an option is `None` or `Some(value)`, a list is `[value, …]`, a map is
`{key: value, …}`, an enum variant is an identifier. Lists of all three kinds take an
optional comma after the last element.

A text may start with attributes: `#![enable(name, …)]` enables extensions (a bare value
for an option, struct names required), and `#![type = "…"]` or `#![schema = "…"]` is read
and has no effect.

`Ron.decode` reads a whole text: blanks, attributes, the value, blanks, and nothing after.
An error spans the reader's last step when it stopped.

This module stands in for the `ron` library (0.12) that options and features are read with.
That library's code is not part of this source, so what is described here is checked only by
tests, never proved of it, and no theorem rests on these details; statements added later
should stay independent of them.
-/

namespace Ruleset

namespace Ron

/-- Reads `true` or `false`. -/
def readBool : Reader Bool := do
  if ← consumeIdent "true" then pure true
  else if ← consumeIdent "false" then pure false
  else fail .expectedBoolean

/-- Reads `None` or `Some(value)`; with the extension `implicit_some`, a bare value too. -/
def readOption {α : Type} (value : Reader α) : Reader (Option α) := do
  if ← consumeIdent "None" then return none
  if ← consumeIdent "Some" then
    skipWs
    if ← consumeChar '(' then
      skipWs
      let v ← descend value
      discard comma
      if ← consumeChar ')' then return some v
      else fail .expectedOptionEnd
  if (← get).extensions.implicitSome then return some (← descend value)
  fail .expectedOption

/-- Reads a list `[value, …]`. -/
def readSeq {α : Type} (element : Reader α) : Reader (List α) := do
  if !(← consumeChar '[') then fail .expectedArray
  let vs ← descend (elementsToEnd ']' (descend element))
  skipWs
  if ← consumeChar ']' then pure vs else fail .expectedArrayEnd

/-- Puts a key's value in place, or at the end for a new key. -/
def putEntry {α : Type} (entries : List (String × α)) (k : String) (v : α) :
    List (String × α) :=
  if entries.any (·.1 == k) then entries.map fun e => if e.1 == k then (k, v) else e
  else entries ++ [(k, v)]

/-- Reads a map `{key: value, …}` with string keys; a repeated key keeps its place and takes
the later value. -/
def readMap {α : Type} (value : Reader α) : Reader (List (String × α)) := do
  if !(← consumeChar '\x7b') then fail .expectedMap
  let entries ← descend (elementsToEnd '\x7d' (do
    let k ← descend readString
    let v ← nextValue (descend value)
    pure (k, v)))
  skipWs
  if ← consumeChar '\x7d' then pure (entries.foldl (fun m e => putEntry m e.1 e.2) [])
  else fail .expectedMapEnd

/-- A unit variant of the enum `name`. -/
def readVariant (name : String) (variants : List String) : Reader String :=
  descend do
    skipWs
    let v ← descend identifier
    if variants.contains v then pure v
    else fail (.noSuchEnumVariant variants v (some name))

/-- The optional name before a struct's parenthesis; required with the extension
`explicit_struct_names`. -/
def structName (name : String) : Reader Unit := do
  let s ← get
  if !(s.rest.head?.any isIdentContinue) then
    if s.extensions.explicitStructNames then fail (.expectedStructName name)
    return
  let found ← tryCatch identifier fun e =>
    match e with
    | .suggestRawIdentifier f => if f == name then throw e else fail (.expectedNamedStructLike name)
    | _ => fail (.expectedNamedStructLike name)
  if found != name then fail (.expectedDifferentStructName name found)

/-- The fields of a struct; `field i` reads the value of the `i`th known field into the
state, unknown fields are skipped. Answers the indices of the fields given. -/
def structFields {σ : Type} (fields : List String) (field : Nat → σ → Reader σ) :
    Nat → Bool → List Nat → σ → Reader (List Nat × σ)
  | 0, _, seen, st => pure (seen, st)
  | fuel + 1, hadComma, seen, st => do
    if !(← hasElement ')' hadComma) then return (seen, st)
    let key ← descend identifier
    match fields.idxOf? key with
    | some i =>
      if seen.contains i then fail (.duplicateStructField key none)
      let st ← nextValue (descend (field i st))
      let c ← comma
      structFields fields field fuel c (i :: seen) st
    | none =>
      nextValue (descend skipAny)
      let c ← comma
      structFields fields field fuel c seen st

/-- A struct named `name` with the given fields, read into the state from `init`; `finish`
checks the fields given and builds the value. Field errors name the struct. -/
def readStruct {σ α : Type} (name : String) (fields : List String) (init : σ)
    (field : Nat → σ → Reader σ) (finish : List Nat → σ → Reader α) : Reader α := do
  structName name
  skipWs
  if !(← consumeChar '(') then fail (.expectedNamedStructLike name)
  let v ← descend (tryCatch
    (do
      let (seen, st) ← structFields fields field ((← get).left + 1) true [] init
      finish seen st)
    fun e => throw (e.within name))
  skipWs
  if ← consumeChar ')' then pure v else fail .expectedStructLikeEnd

/-- Fails with a missing field unless the field's index was given. -/
def require (seen : List Nat) (i : Nat) (field : String) : Reader Unit :=
  if seen.contains i then pure () else fail (.missingStructField field none)

/-- The names of an `enable(…)` list, each enabling its extension. The list ends at a name
without a comma after it, or at a comma not followed by a name. -/
def extensionNames : Nat → Extensions → Reader Extensions
  | 0, e => pure e
  | fuel + 1, e => do
    let name ← identifier
    let some e := e.enable name | fail (.noSuchExtension name)
    let c ← comma
    let more ← identContinuesAfter 0
    if !c && more then fail .expectedComma
    if !c || !more then return e
    extensionNames fuel e

/-- Reads an attribute, if one starts here; whether one did. -/
def readAttribute : Reader Bool := do
  if !(← checkChar '#') then return false
  if !(← consumeAll ["#", "!", "["] skipWs) then fail .expectedAttribute
  skipWs
  if ← consumeIdent "enable" then
    skipWs
    if !(← consumeChar '(') then fail .expectedAttribute
    skipWs
    let e ← extensionNames ((← get).left + 1) (← get).extensions
    modify fun s => { s with extensions := e }
    skipWs
    if !(← consumeAll [")", "]"] skipWs) then fail .expectedAttributeEnd
  else if ← ["type", "schema"].anyM consumeIdent then
    skipWs
    if !(← consumeChar '=') then fail .expectedAttribute
    skipWs
    discard readString
    skipWs
    if !(← consumeChar ']') then fail .expectedAttributeEnd
  else fail .expectedAttribute
  pure true

/-- Reads the attributes at the start, with the blanks after each. -/
def readAttributes : Nat → Reader Unit
  | 0 => pure ()
  | fuel + 1 => do
    if ← readAttribute then
      skipWs
      readAttributes fuel

/-- Reads a whole text: blanks, attributes, the value, blanks, and nothing after. -/
def decode {α : Type} (value : Reader α) (text : String) : Except Error α :=
  let whole : Reader α := do
    skipWs
    readAttributes ((← get).left + 1)
    let v ← value
    skipWs
    if !(← get).rest.isEmpty then fail .trailingCharacters
    pure v
  match (whole.run).run { rest := text.toList } with
  | (.ok v, _) => .ok v
  | (.error cause, s) => .error { cause, start := s.prev, stop := s.pos }

end Ron

end Ruleset
