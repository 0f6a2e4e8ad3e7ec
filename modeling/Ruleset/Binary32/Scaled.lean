import Ruleset.Binary32.Round

/-!
# Decimals scaled by a table of powers of ten

A quick way to read `digits · 10^exp` into a binary format, with a rounding at every step
instead of one at the end:

1. the digits are rounded to the format;
2. the result is multiplied by the format's value nearest `10^exp` when `0 ≤ exp ≤ 308`, or
   divided by the one nearest `10^-exp` when `-308 ≤ exp < 0`;
3. below `10^-308` it is first divided by the value nearest `10^308`, as often as needed to
   bring the exponent into the table, and stops early once it reaches zero.

A product that overflows, or a positive exponent beyond the table with nonzero digits, is out
of range (`Rounded.overflow`).

* `BinaryFormat.scaleDecimal` — the value read.
-/

namespace Ruleset

namespace BinaryFormat

/-- The product of two values of the format, rounded. -/
def mulRounded (f : BinaryFormat) : Rounded → Rounded → Rounded
  | .finite m q, .finite n r => f.roundRatio (m * n) 1 (q + r)
  | .zero, _ | _, .zero => .zero
  | _, _ => .overflow

/-- The quotient of two values of the format, rounded; a zero divisor gives zero. -/
def divRounded (f : BinaryFormat) : Rounded → Rounded → Rounded
  | .finite m q, .finite n r => f.roundRatio m n (q - r)
  | .overflow, _ => .overflow
  | _, _ => .zero

/-- The value of the format nearest `10^k`. -/
def powerOfTen (f : BinaryFormat) (k : Nat) : Rounded := f.roundRatio (Nat.pow 10 k) 1 0

/-- The largest power of ten in the table. -/
def tableReach : Nat := 308

/-- Divides by `10^k`: through the table when `k` is in it, else by `10^308` first. Each round
lowers `k` by 308, so `k / 308 + 1` rounds suffice. -/
def scaleDown (f : BinaryFormat) : Nat → Rounded → Nat → Rounded
  | 0, x, _ => x
  | fuel + 1, x, k =>
    if k ≤ tableReach then f.divRounded x (f.powerOfTen k)
    else if x = .zero then .zero
    else scaleDown f fuel (f.divRounded x (f.powerOfTen tableReach)) (k - tableReach)

/-- Reads `digits · 10^exp` with a rounding at every step. -/
def scaleDecimal (f : BinaryFormat) (digits : Nat) (exp : Int) : Rounded :=
  let x := f.roundRatio digits 1 0
  if 0 ≤ exp then
    if exp.toNat ≤ tableReach then f.mulRounded x (f.powerOfTen exp.toNat)
    else if x = .zero then .zero
    else .overflow
  else f.scaleDown ((-exp).toNat / tableReach + 1) x (-exp).toNat

theorem scaleDecimal_zero (f : BinaryFormat) (exp : Int) : f.scaleDecimal 0 exp = .zero := by
  unfold scaleDecimal
  have hx : f.roundRatio 0 1 0 = .zero := by simp [roundRatio]
  rw [hx]
  split
  · split
    · simp [mulRounded]
    · simp
  · cases h : (-exp).toNat / tableReach + 1 with
    | zero => simp at h
    | succ n => simp [scaleDown, divRounded]

end BinaryFormat

end Ruleset
