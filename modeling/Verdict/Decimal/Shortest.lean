import Verdict.Binary64.Basic

/-
  The fewest decimal digits that read back as a given number. The reals that round to a finite
  number form an interval, its ends included when the significand is even. The coarsest grid of
  multiples of a power of ten that has a point in this interval gives the digits: of the two
  neighbours of the number on that grid the one inside, of two the nearer, and an exact tie is
  decided by the caller. Everything is exact arithmetic on whole numbers.
-/
namespace Verdict

/-- The number `digits · 10 ^ exponent`. -/
structure Decimal where
  digits : Nat
  exponent : Int
deriving DecidableEq

namespace Decimal

/-- Which of two equally near decimals is taken. -/
inductive Tie
  | even
  | up
deriving DecidableEq

/-- The reals that round to a magnitude, in quarters of the least positive number. -/
structure Interval where
  low : Nat
  mid : Nat
  high : Nat
  closed : Bool

/-- Half a quantum to either side; below a power of two the neighbour is nearer by half. -/
def Interval.of (r : Finite64) : Interval where
  low := 4 * r.units -
    if r.significand = 0x10000000000000 ∧ 0 < r.shift then twoTo r.shift else 2 * twoTo r.shift
  mid := 4 * r.units
  high := 4 * r.units + 2 * twoTo r.shift
  closed := r.significand % 2 == 0

/-- `x` lies in the interval scaled by `scale`. -/
def Interval.holds (i : Interval) (scale x : Nat) : Bool :=
  if i.closed then decide (i.low * scale ≤ x) && decide (x ≤ i.high * scale)
  else decide (i.low * scale < x) && decide (x < i.high * scale)

/-- The point of the grid of multiples of `step` that stands for the middle of the interval
scaled by `scale`, as a multiple; none if neither neighbour is inside. -/
def Interval.point? (tie : Tie) (i : Interval) (scale step : Nat) : Option Nat :=
  let a := i.mid * scale / step
  let below := i.mid * scale - a * step
  match i.holds scale (a * step), i.holds scale ((a + 1) * step) with
  | true, true =>
    if 2 * below < step then some a
    else if step < 2 * below then some (a + 1)
    else match tie with
      | .even => some (a + a % 2)
      | .up => some (a + 1)
  | true, false => some a
  | false, true => some (a + 1)
  | false, false => none

/-- The point on the grid of multiples of `10 ^ k`. -/
def gridPoint? (tie : Tie) (i : Interval) (k : Int) : Option Nat :=
  let quarters := 4 * Finite64.unitsPerOne
  if 0 ≤ k then i.point? tie 1 (tenTo k.toNat * quarters)
  else i.point? tie (tenTo (-k).toNat) quarters

/-- The first grid with a point among those of exponents `k`, `k - 1`, and so on. -/
def firstPoint (tie : Tie) (i : Interval) : Nat → Int → Decimal
  | 0, k => ⟨0, k⟩
  | n + 1, k =>
    match gridPoint? tie i k with
    | some a => ⟨a, k⟩
    | none => firstPoint tie i n (k - 1)

/-- An exponent whose power of ten is above the number, by less than a factor of a thousand. -/
def startExponent (r : Finite64) : Int :=
  (((r.units.log2 : Int) + 1 - 1074) * 30103) / 100000 + 1

/-- The fewest digits that read back as the magnitude of `r`. Seventeen digits are always
enough, so the search ends within twenty grids. -/
def shortest (tie : Tie) (r : Finite64) : Decimal :=
  if r.isZero then ⟨0, 0⟩ else firstPoint tie (Interval.of r) 24 (startExponent r)

/-! ## Notation -/

/-- The digits of a whole number, the highest first. -/
def digitChars (n : Nat) : List Char := Nat.toDigits 10 n

theorem digitChars_ne_nil (n : Nat) : digitChars n ≠ [] := Nat.toDigits_ne_nil

theorem isDigit_of_mem_digitChars {n : Nat} {c : Char} (h : c ∈ digitChars n) :
    c.isDigit = true := Nat.isDigit_of_mem_toDigits (by decide) (by decide) h

/-- A number other than zero is written without zeros in front. -/
theorem head?_digitChars_ne {n : Nat} (h : 0 < n) : (digitChars n).head? ≠ some '0' := by
  induction n using Nat.strongRecOn with
  | ind n ih =>
    unfold digitChars
    rcases Nat.lt_or_ge n 10 with hn | hn
    · rw [Nat.toDigits_of_lt_base hn, List.head?_cons, ne_eq, Option.some.injEq,
        Nat.digitChar_eq_zero]
      exact Nat.ne_of_gt h
    · have hdiv := ih (n / 10) (by omega) (by omega)
      unfold digitChars at hdiv
      rw [Nat.toDigits_of_base_le (by decide) hn]
      cases hd : Nat.toDigits 10 (n / 10) with
      | nil => exact absurd hd Nat.toDigits_ne_nil
      | cons c cs =>
        rw [hd] at hdiv
        exact hdiv

/-- The exponent of the first digit. -/
def leading (d : Decimal) : Int := d.exponent + ((digitChars d.digits).length - 1 : Nat)

/-- Without an exponent: zeros fill the places up to the point. -/
def positional (d : Decimal) : List Char :=
  let cs := digitChars d.digits
  if 0 ≤ d.exponent then cs ++ List.replicate d.exponent.toNat '0'
  else
    let places := (-d.exponent).toNat
    if places < cs.length then
      cs.take (cs.length - places) ++ '.' :: cs.drop (cs.length - places)
    else '0' :: '.' :: List.replicate (places - cs.length) '0' ++ cs

/-- One digit before the point, and the exponent with its sign. -/
def scientific (d : Decimal) : List Char :=
  let exponent := (if d.leading < 0 then 'e' :: '-' :: [] else 'e' :: '+' :: []) ++
    digitChars d.leading.natAbs
  match digitChars d.digits with
  | [] => exponent
  | [c] => c :: exponent
  | c :: cs => c :: '.' :: cs ++ exponent

end Decimal

end Verdict
