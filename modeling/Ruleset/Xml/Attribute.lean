import Ruleset.Xml.Escape

/-!
# Attribute lists

The content of a start tag is its name, up to the first blank, then its attributes. An
attribute is a key (its first character, then a run of characters that are neither blank nor
`=`), optional blanks, `=`, optional blanks, and a value between double or single quotes;
blanks between attributes are optional. Once its `=` is found, a key must differ from the
keys before it. Values have their references replaced (`Xml.unescape`).

`Xml.readAttributes` reads them left to right and stops at the first fault; positions in its
errors are byte offsets in the tag content.

This module stands in for the `quick-xml` library (0.36) that the rule reader is built on.
That library's code is not part of this source, so what is described here is checked only by
tests, never proved of it. No theorem rests on these details: what is proved about reading
rules holds for every list of tokens and every fault (`Xml.Element.ofTokens_spec`), and
statements added later should stay so.
-/

namespace Ruleset

namespace Xml

/-- The blanks of markup: space, tab, carriage return and line feed. -/
def isSpace (c : Char) : Bool := c == ' ' || c == '\t' || c == '\r' || c == '\n'

/-- Each character with its byte offset, counting from `pos`. -/
def placeFrom (pos : Nat) : List Char → List (Nat × Char)
  | [] => []
  | c :: r => (pos, c) :: placeFrom (pos + c.utf8Size) r

/-- Reads attributes from `rest` on; `size` is the byte length of the tag content and `keys`
the keys read so far with their positions. Each attribute consumes at least its key, so
`fuel` one more than the length suffices. -/
def readAttributesFrom (size : Nat) :
    Nat → List (Nat × Char) → List (String × Nat) → List (String × String) →
      Except Error (List (String × String))
  | 0, _, _, acc => .ok acc.reverse
  | fuel + 1, rest, keys, acc =>
    match rest.dropWhile (isSpace ·.2) with
    | [] => .ok acc.reverse
    | (start, first) :: tail =>
      let inKey : Nat × Char → Bool := fun p => p.2 != '=' && !isSpace p.2
      let key := String.ofList (first :: (tail.takeWhile inKey).map (·.2))
      match (tail.dropWhile inKey).dropWhile (isSpace ·.2) with
      | [] => .error (.attr (.expectedEq size))
      | (_, '=') :: r =>
        match keys.find? (·.1 == key) with
        | some (_, previous) => .error (.attr (.duplicated start previous))
        | none =>
          match r.dropWhile (isSpace ·.2) with
          | [] => .error (.attr (.expectedValue size))
          | (qpos, q) :: r =>
            if q == '"' || q == '\'' then
              let value := String.ofList ((r.takeWhile (·.2 != q)).map (·.2))
              match r.dropWhile (·.2 != q) with
              | [] => .error (.attr (.expectedQuote size q))
              | _ :: rest =>
                match unescape value with
                | .error e => .error (.escape e)
                | .ok v => readAttributesFrom size fuel rest (keys ++ [(key, start)]) ((key, v) :: acc)
            else .error (.attr (.unquotedValue qpos))
      | (other, _) :: _ => .error (.attr (.expectedEq other))

/-- The name of a tag: its content up to the first blank. -/
def tagName (content : List Char) : String := String.ofList (content.takeWhile (!isSpace ·))

/-- The attributes of a tag content, in order, with their values unescaped. -/
def readAttributes (content : List Char) : Except Error (List (String × String)) :=
  let placed := placeFrom 0 content
  let afterName := placed.drop (content.takeWhile (!isSpace ·)).length
  readAttributesFrom (String.ofList content).utf8ByteSize (content.length + 1) afterName [] []

end Xml

end Ruleset
