import Ruleset.Binary32.Round

/-!
# Single-precision arithmetic

Addition, multiplication and division of single-precision values, each rounded once to the
nearest value of the format, ties to even. A finite operand is the exact quantity
`significand · 2^exponent`; the exact result is formed on integers and rounded by
`BinaryFormat.roundRatio`.

The special values follow IEEE 754: a NaN operand gives NaN; `∞ - ∞`, `0 · ∞`, `0 / 0` and
`∞ / ∞` give NaN; an exact zero sum is `+0` unless both addends are `-0`; the sign of a
product or quotient is the exclusive or of the signs.
-/

namespace Ruleset

namespace Binary32

/-- The exact value of a finite operand as a signed integer times `2^exponent`. -/
def signedSignificand (x : Binary32) : Int :=
  if x.signBit then -(x.significand : Int) else x.significand

/-- The sum of two finite values, rounded. -/
def addFinite (x y : Binary32) : Binary32 :=
  let q := min x.exponent y.exponent
  let s := x.signedSignificand * Int.pow 2 (x.exponent - q).toNat +
    y.signedSignificand * Int.pow 2 (y.exponent - q).toNat
  if s = 0 then zero (x.signBit && y.signBit && x.isZero && y.isZero)
  else ofRounded (s < 0) (BinaryFormat.single.roundRatio s.natAbs 1 q)

/-- Sum, rounded to nearest. -/
def add (x y : Binary32) : Binary32 :=
  if x.isNaN || y.isNaN then nan
  else if x.isInfinite && y.isInfinite then
    if x.signBit == y.signBit then x else nan
  else if x.isInfinite then x
  else if y.isInfinite then y
  else addFinite x y

/-- Product, rounded to nearest. -/
def mul (x y : Binary32) : Binary32 :=
  let negative := x.signBit != y.signBit
  if x.isNaN || y.isNaN then nan
  else if x.isInfinite || y.isInfinite then
    if x.isZero || y.isZero then nan else infinity negative
  else
    ofRounded negative
      (BinaryFormat.single.roundRatio (x.significand * y.significand) 1 (x.exponent + y.exponent))

/-- Quotient, rounded to nearest. -/
def div (x y : Binary32) : Binary32 :=
  let negative := x.signBit != y.signBit
  if x.isNaN || y.isNaN then nan
  else if x.isInfinite then
    if y.isInfinite then nan else infinity negative
  else if y.isInfinite then zero negative
  else if y.isZero then
    if x.isZero then nan else infinity negative
  else
    ofRounded negative
      (BinaryFormat.single.roundRatio x.significand y.significand (x.exponent - y.exponent))

instance : Add Binary32 := ⟨add⟩
instance : Mul Binary32 := ⟨mul⟩
instance : Div Binary32 := ⟨div⟩

end Binary32

end Ruleset
