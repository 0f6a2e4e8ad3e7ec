import Ruleset.Xml.Error

/-!
# Entity references in attribute values

An attribute value may hold `&name;` for the five predefined entities (`lt`, `gt`, `amp`,
`apos`, `quot`) and `&#digits;` or `&#xhex;` for a character by number. Each `&` must be
followed, before the next `&`, by a `;`.

`Xml.unescape` replaces them left to right and stops at the first that cannot be replaced.
Ranges in its errors are byte offsets inside the value.

This module stands in for the `quick-xml` library (0.36) that the rule reader is built on.
That library's code is not part of this source, so what is described here is checked only by
tests, never proved of it. No theorem rests on these details: what is proved about reading
rules holds for every list of tokens and every fault (`Xml.Element.ofTokens_spec`), and
statements added later should stay so.
-/

namespace Ruleset

namespace Xml

/-- The five predefined entities. -/
def predefinedEntity : String → Option Char
  | "lt" => some '<'
  | "gt" => some '>'
  | "amp" => some '&'
  | "apos" => some '\''
  | "quot" => some '"'
  | _ => none

/-- The value of a digit in the radix, if it is one. -/
def digitValue (radix : Nat) (c : Char) : Option Nat :=
  let v :=
    if c.isDigit then c.toNat - '0'.toNat
    else if 'a' ≤ c ∧ c ≤ 'z' then c.toNat - 'a'.toNat + 10
    else if 'A' ≤ c ∧ c ≤ 'Z' then c.toNat - 'A'.toNat + 10
    else radix
  if v < radix then some v else none

/-- An unsigned 32-bit number in the radix; digits are read left to right and the first bad
digit or the first overflow stops the reading. -/
def readNumber (radix : Nat) (cs : List Char) : Except NumberError Nat :=
  if cs.isEmpty then .error .empty
  else
    cs.foldlM (fun n c =>
      match digitValue radix c with
      | none => .error .invalidDigit
      | some d => if n * radix + d < Nat.pow 2 32 then .ok (n * radix + d) else .error .overflow) 0

/-- The character of a reference `&#…;`, given the text between `#` and `;`. -/
def charReference (cs : List Char) : Except CharRefError Char :=
  let (radix, digits) := match cs with
    | 'x' :: r => (16, r)
    | r => (10, r)
  match digits with
  | '+' :: _ | '-' :: _ => .error .unexpectedSign
  | _ =>
    match readNumber radix digits with
    | .error e => .error (.invalidNumber e)
    | .ok 0 => .error (.illegalCharacter 0)
    | .ok n => if n.isValidChar then .ok (Char.ofNat n) else .error (.invalidCodepoint n)

/-- Replaces the references of a value; `pos` is the byte offset of `cs` in the value and
`size` the byte length of the whole value. Each step consumes at least one character, so
`fuel` one more than the length suffices. -/
def unescapeFrom (size : Nat) : Nat → Nat → List Char → List Char → Except EscapeError (List Char)
  | 0, _, _, acc => .ok acc.reverse
  | _, _, [], acc => .ok acc.reverse
  | fuel + 1, pos, '&' :: r, acc =>
    let name := r.takeWhile fun c => c ≠ '&' ∧ c ≠ ';'
    match r.dropWhile fun c => c ≠ '&' ∧ c ≠ ';' with
    | ';' :: rest =>
      let stop := pos + 1 + (String.ofList name).utf8ByteSize
      let replaced : Except EscapeError Char :=
        match name with
        | '#' :: number =>
          match charReference number with
          | .ok c => .ok c
          | .error e => .error (.invalidCharRef e)
        | _ =>
          match predefinedEntity (String.ofList name) with
          | some c => .ok c
          | none => .error (.unrecognized (pos + 1) stop (String.ofList name))
      match replaced with
      | .ok c => unescapeFrom size fuel (stop + 1) rest (c :: acc)
      | .error e => .error e
    | _ => .error (.unterminated pos size)
  | fuel + 1, pos, c :: r, acc => unescapeFrom size fuel (pos + c.utf8Size) r (c :: acc)

/-- The value with its references replaced. -/
def unescape (value : String) : Except EscapeError String :=
  (unescapeFrom value.utf8ByteSize (value.length + 1) 0 value.toList []).map String.ofList

end Xml

end Ruleset
