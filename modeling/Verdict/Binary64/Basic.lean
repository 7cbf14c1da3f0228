import Verdict.Power

/-
  Real numbers in the 64-bit binary format: NaN, the two infinities, and the finite numbers.
  A finite number is a sign and the index of its magnitude: 0 is zero, 1 the least positive
  number, and so on up to the largest, so that order on indices is order on magnitudes.
  `index_eq` takes an index apart into the quantum of a number and its significand. The 64 bits of
  a number determine it, and it determines them unless it is NaN (`toBits_ofBits`).
-/
namespace Verdict

/-- How many finite magnitudes there are, zero included: 2047 exponents with 52-bit fractions. -/
def magnitudeCount : Nat := 2047 * 0x10000000000000

/-- A finite number of the format: its sign, and the place of its magnitude among all of them. -/
structure Finite64 where
  negative : Bool
  index : Fin magnitudeCount
deriving DecidableEq

/-- A number of the format. All NaNs are one. -/
inductive Binary64
  | nan
  | infinite (negative : Bool)
  | finite (r : Finite64)
deriving DecidableEq

namespace Finite64

/-- The quantum is `2 ^ shift` least positive numbers. -/
def shift (r : Finite64) : Nat := r.index.val / 0x10000000000000 - 1

/-- The magnitude in quanta; below `2 ^ 53`. -/
def significand (r : Finite64) : Nat := r.index.val - r.shift * 0x10000000000000

/-- The magnitude in least positive numbers, that is in units of `2 ^ (-1074)`. -/
def units (r : Finite64) : Nat := r.significand * twoTo r.shift

theorem significand_lt (r : Finite64) : r.significand < 0x20000000000000 := by
  unfold significand shift
  omega

theorem index_eq (r : Finite64) : r.index.val = r.shift * 0x10000000000000 + r.significand := by
  unfold significand shift
  omega

/-- The number of units in one. -/
def unitsPerOne : Nat := twoTo 1074

def isZero (r : Finite64) : Bool := r.index.val == 0

/-- The number has no fractional part. -/
def isIntegral (r : Finite64) : Bool := r.units % unitsPerOne == 0

/-- The integer part: the magnitude without its fraction, under the same sign. -/
def truncate (r : Finite64) : Int :=
  let n := r.units / unitsPerOne
  if r.negative then -(n : Int) else n

/-- A place on the number line, the same for both zeros. -/
def rank (r : Finite64) : Int := if r.negative then -(r.index.val : Int) else r.index.val

def zero : Finite64 := ⟨false, ⟨0, by decide⟩⟩

end Finite64

namespace Binary64

instance : Inhabited Binary64 := ⟨.nan⟩

def zero : Binary64 := .finite .zero

/-- The number whose magnitude has this index, or the infinity past the last. -/
def ofIndex (negative : Bool) (i : Nat) : Binary64 :=
  if h : i < magnitudeCount then .finite ⟨negative, ⟨i, h⟩⟩ else .infinite negative

def isFinite : Binary64 → Bool
  | .finite _ => true
  | _ => false

/-! ## Bits -/

/-- The number that 64 bits stand for: a sign bit over the index of the magnitude. -/
def ofBits (b : UInt64) : Binary64 :=
  let negative := 0x8000000000000000 ≤ b.toNat
  let i := b.toNat % 0x8000000000000000
  if i ≤ magnitudeCount then ofIndex negative i else .nan

/-- The highest bit of a number with a sign. -/
def signBit (negative : Bool) : Nat := if negative then 0x8000000000000000 else 0

/-- The bits of a number; of a NaN, the quiet one without sign and payload. -/
def toBits : Binary64 → UInt64
  | .nan => 0x7ff8000000000000
  | .infinite negative => UInt64.ofNat (signBit negative + magnitudeCount)
  | .finite r => UInt64.ofNat (signBit r.negative + r.index.val)

/-- Only NaNs have bits that are lost. -/
theorem toBits_ofBits {b : UInt64} (h : ofBits b ≠ .nan) : (ofBits b).toBits = b := by
  have hb := b.toNat_lt
  have hsum : signBit (decide (0x8000000000000000 ≤ b.toNat)) + b.toNat % 0x8000000000000000 =
      b.toNat := by
    unfold signBit
    split
    · next hsign =>
      rw [decide_eq_true_eq] at hsign
      omega
    · next hsign =>
      rw [decide_eq_true_eq] at hsign
      omega
  unfold ofBits at h ⊢
  dsimp only at h ⊢
  split at h
  · next hi =>
    rw [if_pos hi]
    unfold ofIndex
    split
    · unfold toBits
      dsimp only
      rw [hsum, UInt64.ofNat_toNat]
    · have hlast : b.toNat % 0x8000000000000000 = magnitudeCount := by omega
      rw [hlast] at hsum
      unfold toBits
      dsimp only
      rw [hsum, UInt64.ofNat_toNat]
  · exact absurd rfl h

/-! ## Order -/

/-- A place on the number line: infinities lie beyond every finite number, NaN has no place. -/
def rank? : Binary64 → Option Int
  | .nan => none
  | .infinite negative => some (if negative then -(magnitudeCount : Int) else magnitudeCount)
  | .finite r => some r.rank

/-- The order of two numbers; none if one is NaN. The two zeros are equal. -/
def compare? (x y : Binary64) : Option Ordering :=
  match x.rank?, y.rank? with
  | some a, some b => some (compare a b)
  | _, _ => none

theorem compare?_eq_some_iff (x y : Binary64) (o : Ordering) :
    x.compare? y = some o ↔ ∃ a b, x.rank? = some a ∧ y.rank? = some b ∧ compare a b = o := by
  unfold compare?
  cases x.rank? with
  | none => simp
  | some a => cases y.rank? <;> simp

/-- Numerical equality: zeros of either sign are equal and NaN equals nothing. -/
def equals (x y : Binary64) : Bool := x.compare? y == some .eq

theorem compare?_swap (x y : Binary64) :
    y.compare? x = (x.compare? y).map Ordering.swap := by
  unfold compare?
  cases x.rank? with
  | none => cases y.rank? <;> rfl
  | some a =>
    cases y.rank? with
    | none => rfl
    | some b => exact congrArg some (@Std.OrientedCmp.eq_swap Int compare _ b a)

end Binary64

end Verdict
