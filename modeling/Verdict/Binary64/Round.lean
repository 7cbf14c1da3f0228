import Verdict.Binary64.Basic

/-
  The nearest number of the 64-bit binary format to a ratio of whole numbers, a tie going to the
  even neighbour. Integers are widened and decimal numerals are read through it. Main statement:
  `divideToEven_near` says that the rounded quotient is off by at most half a unit.
-/
namespace Verdict

/-- The whole number nearest to `n / d`; a half goes to the even neighbour. -/
def divideToEven (n d : Nat) : Nat :=
  let q := n / d
  let r := n % d
  if 2 * r < d then q else if d < 2 * r then q + 1 else q + q % 2

theorem divideToEven_near (n d : Nat) (h : 0 < d) :
    2 * n ≤ 2 * (divideToEven n d * d) + d ∧ 2 * (divideToEven n d * d) ≤ 2 * n + d := by
  have hn : d * (n / d) + n % d = n := Nat.div_add_mod n d
  have hr : n % d < d := Nat.mod_lt n h
  rw [Nat.mul_comm d] at hn
  unfold divideToEven
  dsimp only
  split
  · omega
  · split
    · rw [Nat.add_mul]; omega
    · rw [Nat.add_mul]
      rcases Nat.mod_two_eq_zero_or_one (n / d) with h2 | h2 <;> rw [h2] <;> omega

namespace Binary64

/-- The index of the magnitude nearest to `n / d` units. The quantum is the least one in which
the quotient has at most 53 binary digits; a quotient that rounds up to 54 of them is the first
magnitude with the next quantum, because indices run on from one quantum to the next. -/
def nearestIndex (n d : Nat) : Nat :=
  let shift := (n / d).log2 - 52
  shift * 0x10000000000000 + divideToEven n (d * twoTo shift)

/-- The number nearest to the ratio `n / d` under a sign; past the largest, an infinity. -/
def nearest (negative : Bool) (n d : Nat) : Binary64 :=
  ofIndex negative (nearestIndex (n * Finite64.unitsPerOne) d)

/-- The number nearest to an integer. -/
def ofInt (i : Int) : Binary64 := nearest (decide (i < 0)) i.natAbs 1

/-- The number that the 32 bits of the smaller binary format stand for: a sign bit, eight bits
of exponent and 23 of fraction. -/
def ofBits32 (b : UInt32) : Binary64 :=
  let negative := decide (0x80000000 ≤ b.toNat)
  let exponent := b.toNat / 0x800000 % 256
  let fraction := b.toNat % 0x800000
  if exponent = 255 then
    if fraction = 0 then .infinite negative else .nan
  else
    let significand := if exponent = 0 then fraction else 0x800000 + fraction
    nearest negative (significand * twoTo (exponent - 1)) (twoTo 149)

/-- The number nearest to `digits · 10 ^ exponent`. Exponents far beyond the format are decided
by the number of digits, without computing the power. -/
def ofDecimal (negative : Bool) (digits : Nat) (exponent : Int) : Binary64 :=
  let places : Int := (Nat.toDigits 10 digits).length
  if digits = 0 then ofIndex negative 0
  else if 310 < places + exponent then .infinite negative
  else if places + exponent < -330 then ofIndex negative 0
  else if 0 ≤ exponent then nearest negative (digits * tenTo exponent.toNat) 1
  else nearest negative digits (tenTo (-exponent).toNat)

end Binary64

end Verdict
