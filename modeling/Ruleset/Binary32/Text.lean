import Ruleset.Binary32.Shortest

/-!
# Single-precision values as text

* `Binary32.ofText?` — reads `[+-]` then either a decimal or one of `inf`, `infinity`, `nan`
  in any case. A decimal has digits with an optional point (at least one digit in all) and
  an optional exponent `e`/`E`, `[+-]`, digits. Nothing else is accepted: no blanks, no
  underscores, no hexadecimal. The value is rounded once, to nearest.
* `Binary32.toText` — the shortest digits that read back (`Binary32.shortest`), written
  without an exponent; a minus sign on every negative value, zero included; `inf`, `-inf`
  and `NaN` for the special values.
-/

namespace Ruleset

/-- Positional text of a positive decimal: the digits with the point placed by the
exponent, and zeros added on either side as needed. -/
def Decimal.positional (d : Decimal) : String :=
  let ds := Nat.toDigits 10 d.digits
  let len : Int := ds.length
  let point := d.exp + len
  if point ≤ 0 then
    "0." ++ String.ofList (List.replicate (-point).toNat '0') ++ String.ofList ds
  else if point < len then
    String.ofList (ds.take point.toNat) ++ "." ++ String.ofList (ds.drop point.toNat)
  else String.ofList ds ++ String.ofList (List.replicate (point - len).toNat '0')

namespace Binary32

/-- The value of a run of decimal digits, read onto `acc`. -/
def digitsValue (acc : Nat) (ds : List Char) : Nat :=
  ds.foldl (fun a c => 10 * a + (c.toNat - '0'.toNat)) acc

/-- Exponent digits stop counting once the exponent reaches `65536`; any larger exponent
already gives zero or infinity. -/
def exponentValue (ds : List Char) : Nat :=
  ds.foldl (fun a c => if a < 65536 then 10 * a + (c.toNat - '0'.toNat) else a) 0

/-- The exponent part after the mark: `[+-]` and at least one digit, up to the end. -/
def readExponent : List Char → Option Int
  | '-' :: ds => if ds ≠ [] ∧ ds.all Char.isDigit then some (-(exponentValue ds : Int)) else none
  | '+' :: ds => if ds ≠ [] ∧ ds.all Char.isDigit then some (exponentValue ds) else none
  | ds => if ds ≠ [] ∧ ds.all Char.isDigit then some (exponentValue ds) else none

/-- A decimal without sign as `digits · 10^exp`. -/
def readDecimal (cs : List Char) : Option Decimal :=
  let whole := cs.takeWhile Char.isDigit
  let rest := cs.dropWhile Char.isDigit
  let (frac, rest) := match rest with
    | '.' :: r => (r.takeWhile Char.isDigit, r.dropWhile Char.isDigit)
    | r => ([], r)
  if whole.length + frac.length = 0 then none
  else
    let value := digitsValue (digitsValue 0 whole) frac
    match rest with
    | [] => some ⟨value, -(frac.length : Int)⟩
    | c :: r =>
      if c = 'e' ∨ c = 'E' then (readExponent r).map fun e => ⟨value, e - frac.length⟩
      else none

/-- Reads `inf`, `infinity` and `nan`, in any case of ASCII letters. -/
def readSpecial (negative : Bool) (cs : List Char) : Option Binary32 :=
  let lower := String.ofList (cs.map Char.toLower)
  if lower = "inf" ∨ lower = "infinity" then some (infinity negative)
  else if lower = "nan" then some nan
  else none

/-- Reads a single-precision value; `none` when the text is not a number. -/
def ofText? (s : String) : Option Binary32 :=
  let (negative, body) := match s.toList with
    | '-' :: r => (true, r)
    | '+' :: r => (false, r)
    | r => (false, r)
  if body = [] then none
  else match readDecimal body with
    | some d => some (ofDecimal negative d.digits d.exp)
    | none => readSpecial negative body

/-- The text of a value: shortest digits that read back, no exponent. -/
def toText (x : Binary32) : String :=
  if x.isNaN then "NaN"
  else
    let sign := if x.signBit then "-" else ""
    if x.isInfinite then sign ++ "inf"
    else if x.isZero then sign ++ "0"
    else sign ++ x.shortest.positional

instance : ToString Binary32 := ⟨toText⟩

end Binary32

end Ruleset
