import Ruleset.Binary32.Round

/-!
# Shortest decimal digits of a single-precision value

A finite nonzero value stands for an interval of reals: those that round to it. Its text uses
the fewest significant decimal digits whose value lies in that interval, and of those the one
nearest to the value; a tie between two goes to the larger.

* `Binary32.roundingInterval` — the interval, as integers on a grid of `2^shift`. Its ends
  belong to it when the significand is even; a subnormal significand counts as even. When the
  fraction bits are zero the gap below is taken as half the gap above.
* `Binary32.shortest` — for `n = 1, 2, …` digits, the two neighbours of the value on the grid
  `10^(⌊log₁₀ v⌋ - n + 1)` are tried, and the first `n` with a neighbour inside wins.
* `Binary32.shortestDouble` — the same search for a double-precision value.

Every comparison is on natural numbers: `d · 10^k` against `x · 2^t` after moving the negative
powers to the other side.
-/

namespace Ruleset

/-- A positive decimal `digits · 10^exp`. -/
structure Decimal where
  digits : Nat
  exp : Int
  deriving DecidableEq, Repr

namespace Decimal

/-- Compares `d · 10^k` with `x · 2^t`. -/
def compareBinary (d : Nat) (k : Int) (x : Nat) (t : Int) : Ordering :=
  compare (d * Nat.pow 10 k.toNat * Nat.pow 2 (-t).toNat)
    (x * Nat.pow 2 t.toNat * Nat.pow 10 (-k).toNat)

/-- The floor `⌊x · 2^t / 10^k⌋`. -/
def floorDiv (x : Nat) (t k : Int) : Nat :=
  (x * Nat.pow 2 t.toNat * Nat.pow 10 (-k).toNat) / (Nat.pow 2 (-t).toNat * Nat.pow 10 k.toNat)

/-- The decimal exponent `⌊log₁₀ (x · 2^t)⌋` for positive `x`. -/
def floorLog10 (x : Nat) (t : Int) : Int :=
  let num := x * Nat.pow 2 t.toNat
  let den := Nat.pow 2 (-t).toNat
  if den ≤ num then (Binary32.decimalLength (num / den) : Int) - 1
  else
    -- the least `j` with `num · 10^j ≥ den` is the length of `den / num` or one less
    let len := Binary32.decimalLength (den / num)
    if den ≤ num * Nat.pow 10 (len - 1) then -((len - 1 : Nat) : Int) else -(len : Int)

/-- Drops trailing zero digits, raising the exponent. -/
def normalize (d : Decimal) : Decimal :=
  go d.digits.log2.succ d
where
  /-- Each step removes one zero digit; a number has fewer zero digits than bits. -/
  go : Nat → Decimal → Decimal
    | 0, d => d
    | fuel + 1, d =>
      if d.digits ≠ 0 ∧ d.digits % 10 = 0 then go fuel ⟨d.digits / 10, d.exp + 1⟩ else d

end Decimal

namespace Binary32

/-- The reals that round to a finite nonzero value: `low · 2^shift` to `high · 2^shift`
around `mid · 2^shift`, ends included when `inclusive`. -/
structure Interval where
  low : Nat
  mid : Nat
  high : Nat
  shift : Int
  inclusive : Bool
  deriving Repr

/-- The rounding interval of a finite nonzero value, by its magnitude. -/
def roundingInterval (x : Binary32) : Interval :=
  let m := x.significand
  let q := x.exponent
  if x.field = 0 then
    -- subnormal: even gaps on both sides, and the ends always belong
    ⟨2 * m - 1, 2 * m, 2 * m + 1, q - 1, true⟩
  else if x.fraction = 0 then
    ⟨4 * m - 1, 4 * m, 4 * m + 2, q - 2, m % 2 == 0⟩
  else
    ⟨2 * m - 1, 2 * m, 2 * m + 1, q - 1, m % 2 == 0⟩

/-- Whether `d · 10^k` lies in the interval. -/
def Interval.contains (i : Interval) (d : Nat) (k : Int) : Bool :=
  let above := Decimal.compareBinary d k i.low i.shift
  let below := Decimal.compareBinary d k i.high i.shift
  (above == .gt || (i.inclusive && above == .eq)) &&
    (below == .lt || (i.inclusive && below == .eq))

/-- The candidate with `n` significant digits, if one of the value's two neighbours on that
grid lies in the interval; the nearer one when both do, the upper one on a tie. -/
def Interval.candidate (i : Interval) (n : Nat) : Option Decimal :=
  let k := Decimal.floorLog10 i.mid i.shift - (n : Int) + 1
  let lo := Decimal.floorDiv i.mid i.shift k
  let hi := lo + 1
  match i.contains lo k, i.contains hi k with
  | true, true =>
    -- the midpoint between the neighbours is `(2·lo + 1) · 10^k / 2`
    if Decimal.compareBinary (2 * lo + 1) k i.mid (i.shift + 1) == .gt then some ⟨lo, k⟩
    else some ⟨hi, k⟩
  | true, false => some ⟨lo, k⟩
  | false, true => some ⟨hi, k⟩
  | false, false => none

/-- The most digits ever needed: seventeen reach every double, so every single too. -/
def maxDigits : Nat := 17

/-- The shortest decimal in an interval, nearest of those to its middle. -/
def Interval.shortest (i : Interval) : Decimal :=
  let found := (List.range maxDigits).findSome? fun n => i.candidate (n + 1)
  (found.getD ⟨Decimal.floorDiv i.mid i.shift 0, 0⟩).normalize

/-- The shortest decimal in the rounding interval of a finite nonzero value, nearest of
those. -/
def shortest (x : Binary32) : Decimal := x.roundingInterval.shortest

/-- The shortest decimal that reads back as the positive double `m · 2^q` (`0 < m < 2^53`,
`q` from `-1074` on), nearest of those. The gap below is half the gap above when `m` is the
least significand of a normal binade other than the least one; the ends of the interval
belong to it when `m` is even. -/
def shortestDouble (m : Nat) (q : Int) : Decimal :=
  let inclusive := m % 2 == 0
  let i : Interval :=
    if m = Nat.pow 2 52 ∧ q > -1074 then ⟨4 * m - 1, 4 * m, 4 * m + 2, q - 2, inclusive⟩
    else ⟨2 * m - 1, 2 * m, 2 * m + 1, q - 1, inclusive⟩
  i.shortest

end Binary32

end Ruleset
