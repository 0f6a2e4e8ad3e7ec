/-!
# Integers as text

Decimal integers of a fixed range: an optional sign (`-` only where the range has negative
numbers), then one or more ASCII digits, and nothing else. A value outside the range is not
read.

* `Text.readNat32` — `0 … 2^32 - 1`.
* `Text.readInt32` — `-2^31 … 2^31 - 1`.
-/

namespace Ruleset

namespace Text

/-- The value of a nonempty run of ASCII digits. -/
def readDigits (cs : List Char) : Option Nat :=
  if cs ≠ [] ∧ cs.all Char.isDigit then
    some (cs.foldl (fun n c => 10 * n + (c.toNat - '0'.toNat)) 0)
  else none

/-- An unsigned 32-bit integer, with an optional `+`. -/
def readNat32 (s : String) : Option Nat :=
  let cs := match s.toList with
    | '+' :: r => r
    | r => r
  (readDigits cs).filter (· < Nat.pow 2 32)

/-- A signed 32-bit integer, with an optional `+` or `-`. -/
def readInt32 (s : String) : Option Int :=
  match s.toList with
  | '-' :: r => (readDigits r).bind fun n => if n ≤ Nat.pow 2 31 then some (-(n : Int)) else none
  | '+' :: r => (readDigits r).bind fun n => if n < Nat.pow 2 31 then some (n : Int) else none
  | r => (readDigits r).bind fun n => if n < Nat.pow 2 31 then some (n : Int) else none

end Text

end Ruleset
