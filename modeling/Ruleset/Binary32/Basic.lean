/-!
# Single-precision numbers

`Binary32` is an IEEE 754 single-precision number kept as its 32-bit pattern: a sign bit,
eight exponent bits and twenty-three fraction bits. Modifier values, and every step of the
arithmetic done on them, live in this format.

* `Binary32.significand`, `Binary32.exponent` — a finite pattern stands for
  `(-1)^sign · significand · 2^exponent`, with the significand below `2^24`.
* `Binary32.beq` — the format's own equality: a NaN equals nothing, and the two zeros are equal.

The patterns themselves are compared with `DecidableEq`; the arithmetic of the format is in
`Ruleset.Binary32.Arith`, and text in `Ruleset.Binary32.Text`.
-/

namespace Ruleset

/-- A single-precision value, held as its bit pattern. -/
structure Binary32 where
  bits : UInt32
  deriving DecidableEq, Repr, Inhabited

namespace Binary32

/-- Whether the sign bit is set (also for zeros and NaNs). -/
def signBit (x : Binary32) : Bool := x.bits >>> 31 == 1

/-- The eight exponent bits as a number, `0` for zeros and subnormals, `255` for
infinities and NaNs. -/
def field (x : Binary32) : Nat := ((x.bits >>> 23) &&& 0xFF).toNat

/-- The twenty-three fraction bits. -/
def fraction (x : Binary32) : Nat := (x.bits &&& 0x7FFFFF).toNat

def isNaN (x : Binary32) : Bool := x.field == 255 && x.fraction != 0

def isInfinite (x : Binary32) : Bool := x.field == 255 && x.fraction == 0

def isFinite (x : Binary32) : Bool := x.field != 255

def isZero (x : Binary32) : Bool := x.field == 0 && x.fraction == 0

/-- The integer significand of a finite value: the fraction, with the hidden bit for
normal values. -/
def significand (x : Binary32) : Nat :=
  if x.field = 0 then x.fraction else x.fraction + Nat.pow 2 23

/-- The exponent of the last significand bit of a finite value. -/
def exponent (x : Binary32) : Int :=
  if x.field = 0 then -149 else (x.field : Int) - 150

/-- The value with the sign bit flipped. -/
def neg (x : Binary32) : Binary32 := ⟨x.bits ^^^ 0x80000000⟩

/-- The quiet NaN that the format's operations return. -/
def nan : Binary32 := ⟨0x7FC00000⟩

/-- The infinity of the given sign. -/
def infinity (negative : Bool) : Binary32 :=
  ⟨if negative then 0xFF800000 else 0x7F800000⟩

/-- The zero of the given sign. -/
def zero (negative : Bool) : Binary32 :=
  ⟨if negative then 0x80000000 else 0⟩

/-- Assembles a pattern from sign, exponent field and fraction. -/
def ofFields (negative : Bool) (field fraction : Nat) : Binary32 :=
  ⟨(if negative then (0x80000000 : UInt32) else 0) ||| (field.toUInt32 <<< 23) |||
    fraction.toUInt32⟩

/-- Equality of the format: NaN equals nothing, `+0` equals `-0`, and otherwise two values
are equal exactly when their patterns are. -/
def beq (x y : Binary32) : Bool :=
  !x.isNaN && !y.isNaN && (x.bits == y.bits || (x.isZero && y.isZero))

/-- One hundred, the divisor of a percentage. -/
def hundred : Binary32 := ⟨0x42C80000⟩

theorem neg_neg (x : Binary32) : x.neg.neg = x := by
  cases x with
  | mk b => simp only [neg, UInt32.xor_assoc, UInt32.xor_self, UInt32.xor_zero]

theorem beq_comm (x y : Binary32) : x.beq y = y.beq x := by
  have h : (x.bits == y.bits) = (y.bits == x.bits) := by
    by_cases e : x.bits = y.bits
    · simp [e]
    · have e' : y.bits ≠ x.bits := fun h => e h.symm
      rw [beq_false_of_ne e, beq_false_of_ne e']
  unfold beq
  rw [h, Bool.and_comm x.isZero]
  cases x.isNaN <;> cases y.isNaN <;> rfl

end Binary32

end Ruleset
