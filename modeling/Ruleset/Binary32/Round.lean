import Ruleset.Binary32.Basic

/-!
# Rounding exact quantities into a binary format

A binary format keeps `precision` significand bits; the last bit has an exponent between
`minExp` (subnormal values) and `maxExp`. Rounding is to the nearest value of the format,
and a quantity half-way between two of them goes to the one with an even significand.

* `BinaryFormat.roundRatio` — rounds the positive quantity `num / den · 2^scale`.
* `Binary32.ofDecimal` — a decimal `digits · 10^exp` rounded once to single precision.
* `Binary32.ofDecimalThroughDouble` — the same decimal rounded first to double precision and
  then to single precision, which is how a number read as a double becomes a single.

Everything is computed on natural numbers, so the results are exact by construction:
`roundRatio` picks the exponent `q` with `2^(precision-1) ≤ x / 2^q < 2^precision`
(or `minExp` below that range) and rounds `x / 2^q` to an integer.
-/

namespace Ruleset

/-- A binary floating-point format. -/
structure BinaryFormat where
  /-- Number of significand bits, the hidden bit included. -/
  precision : Nat
  /-- Exponent of the last significand bit of the subnormal values. -/
  minExp : Int
  /-- Greatest exponent of the last significand bit. -/
  maxExp : Int

namespace BinaryFormat

/-- IEEE 754 single precision. -/
def single : BinaryFormat := ⟨24, -149, 104⟩

/-- IEEE 754 double precision. -/
def double : BinaryFormat := ⟨53, -1074, 971⟩

end BinaryFormat

/-- The magnitude that a positive quantity rounds to. -/
inductive Rounded where
  /-- Too small for the least subnormal: the quantity rounds to zero. -/
  | zero
  /-- The finite value `m · 2^q`, with `0 < m < 2^precision`. -/
  | finite (m : Nat) (q : Int)
  /-- Too large for the format: the quantity rounds to infinity. -/
  | overflow
  deriving DecidableEq, Repr

/-- Whether `num · 2^k ≥ den · 2^j` where the exponent `e = k - j` may have either sign. -/
def scaledGe (num den : Nat) (e : Int) : Bool :=
  if 0 ≤ e then den * Nat.pow 2 e.toNat ≤ num else den ≤ num * Nat.pow 2 (-e).toNat

/-- The binary exponent `⌊log₂ (num / den)⌋` for positive `num` and `den`. The bit lengths of the two numbers
fix it up to one. -/
def floorLog2Ratio (num den : Nat) : Int :=
  let e : Int := (Nat.log2 num : Int) - (Nat.log2 den : Int)
  if scaledGe num den e then e else e - 1

/-- Integer quotient rounded to nearest, ties to even. -/
def roundQuotient (num den : Nat) : Nat :=
  let m := num / den
  let r := num % den
  if 2 * r > den || (2 * r == den && m % 2 == 1) then m + 1 else m

namespace BinaryFormat

/-- Rounds the positive quantity `num / den · 2^scale` to the format. -/
def roundRatio (f : BinaryFormat) (num den : Nat) (scale : Int) : Rounded :=
  if num = 0 || den = 0 then .zero
  else
    let top := floorLog2Ratio num den + scale
    let q := max (top - ((f.precision : Int) - 1)) f.minExp
    -- the significand is `num / den · 2^(scale - q)`, rounded
    let s := scale - q
    let m :=
      if 0 ≤ s then roundQuotient (num * Nat.pow 2 s.toNat) den
      else roundQuotient num (den * Nat.pow 2 (-s).toNat)
    let (m, q) := if m = Nat.pow 2 f.precision then (Nat.pow 2 (f.precision - 1), q + 1)
      else (m, q)
    if m = 0 then .zero
    else if f.maxExp < q then .overflow
    else .finite m q

end BinaryFormat

namespace Binary32

/-- The single-precision value of the given sign and rounded magnitude. -/
def ofRounded (negative : Bool) : Rounded → Binary32
  | .zero => zero negative
  | .overflow => infinity negative
  | .finite m q =>
    if m < Nat.pow 2 23 then ofFields negative 0 m
    else ofFields negative (q + 150).toNat (m - Nat.pow 2 23)

/-- Decimal exponents beyond this bound (after the digits are counted) give zero or
infinity in both formats; inside it the quantity is computed exactly. -/
def decimalReach : Int := 400

/-- The number of decimal digits of `n` (one for zero). -/
def decimalLength (n : Nat) : Nat := (Nat.toDigits 10 n).length

/-- Rounds the magnitude `digits · 10^exp` into a format. -/
def roundDecimal (f : BinaryFormat) (digits : Nat) (exp : Int) : Rounded :=
  if digits = 0 then .zero
  else if decimalReach < exp + decimalLength digits then .overflow
  else if exp + decimalLength digits < -decimalReach then .zero
  else if 0 ≤ exp then f.roundRatio (digits * Nat.pow 10 exp.toNat) 1 0
  else f.roundRatio digits (Nat.pow 10 (-exp).toNat) 0

/-- The decimal `± digits · 10^exp`, correctly rounded to single precision. -/
def ofDecimal (negative : Bool) (digits : Nat) (exp : Int) : Binary32 :=
  ofRounded negative (roundDecimal .single digits exp)

/-- The decimal `± digits · 10^exp`, rounded to double precision and the result rounded
again to single precision. -/
def ofDecimalThroughDouble (negative : Bool) (digits : Nat) (exp : Int) : Binary32 :=
  match roundDecimal .double digits exp with
  | .zero => zero negative
  | .overflow => infinity negative
  | .finite m q => ofRounded negative (BinaryFormat.single.roundRatio m 1 q)

end Binary32

end Ruleset
