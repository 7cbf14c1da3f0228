import Verdict.Proofs.Binary64.Nearest

/-
  Finite numbers as exact values. Every one of them is a whole multiple of the least positive
  number (`scaled`), so order and truncation can be said of integers. A later place on the number
  line is a larger value (`rank_le_rank_iff`), which the sign and the value determine
  (`eq_of_scaled`), and the integer part is the truncated quotient by the units of one
  (`truncate_eq_tdiv`).
-/
namespace Verdict

namespace Finite64

/-- The exact value in units: the magnitude under its sign. -/
def scaled (r : Finite64) : Int := if r.negative then -(r.units : Int) else r.units

theorem unitsPerOne_pos : 0 < unitsPerOne := twoTo_pos 1074

/-! ## Magnitudes -/

theorem units_lt_units {r q : Finite64} (h : r.index.val < q.index.val) : r.units < q.units := by
  have hshift : r.shift ≤ q.shift := by
    unfold shift
    omega
  unfold units
  rcases Nat.lt_or_eq_of_le hshift with hlt | heq
  · -- the significand of `r` has at most the places that are gained by the larger quantum
    have hsig : 0x10000000000000 ≤ q.significand := le_significand (by omega)
    calc
      r.significand * twoTo r.shift < 0x20000000000000 * twoTo r.shift :=
        Nat.mul_lt_mul_of_pos_right r.significand_lt (twoTo_pos _)
      _ = 0x10000000000000 * twoTo (r.shift + 1) := by
        rw [twoTo_succ]
        omega
      _ ≤ 0x10000000000000 * twoTo q.shift := Nat.mul_le_mul_left _ (twoTo_le hlt)
      _ ≤ q.significand * twoTo q.shift := Nat.mul_le_mul_right _ hsig
  · have hr := r.index_eq
    have hq := q.index_eq
    rw [heq] at hr ⊢
    exact Nat.mul_lt_mul_of_pos_right (by omega) (twoTo_pos _)

theorem units_le_units_iff (r q : Finite64) : r.units ≤ q.units ↔ r.index.val ≤ q.index.val := by
  constructor
  · intro h
    exact Nat.le_of_not_lt fun hlt => Nat.not_le.2 (units_lt_units hlt) h
  · intro h
    rcases Nat.lt_or_eq_of_le h with hlt | heq
    · exact Nat.le_of_lt (units_lt_units hlt)
    · have hindex : r.index = q.index := Fin.ext heq
      apply Nat.le_of_eq
      unfold units significand shift
      rw [hindex]

theorem units_zero : zero.units = 0 := rfl

theorem units_eq_zero_iff (r : Finite64) : r.units = 0 ↔ r.index.val = 0 := by
  have h := units_le_units_iff r zero
  rw [units_zero] at h
  have hzero : zero.index.val = 0 := rfl
  omega

/-! ## Values -/

theorem natAbs_scaled (r : Finite64) : r.scaled.natAbs = r.units := by
  unfold scaled
  split <;> omega

theorem rank_le_rank_iff (r q : Finite64) : r.rank ≤ q.rank ↔ r.scaled ≤ q.scaled := by
  have h1 := units_le_units_iff r q
  have h2 := units_le_units_iff q r
  -- zeros of either sign stand at one place
  have hr := units_eq_zero_iff r
  have hq := units_eq_zero_iff q
  unfold rank scaled
  split <;> split <;> omega

theorem eq_of_scaled {r q : Finite64} (hsign : r.negative = q.negative)
    (h : r.scaled = q.scaled) : r = q := by
  have hunits : r.units = q.units := by rw [← natAbs_scaled, h, natAbs_scaled]
  have h1 := (units_le_units_iff r q).1 (Nat.le_of_eq hunits)
  have h2 := (units_le_units_iff q r).1 (Nat.le_of_eq hunits.symm)
  have hindex : r.index = q.index := Fin.ext (Nat.le_antisymm h1 h2)
  cases r
  cases q
  cases hsign
  cases hindex
  rfl

/-- The integer part is the value divided by one, rounded toward zero. -/
theorem truncate_eq_tdiv (r : Finite64) : r.truncate = r.scaled.tdiv unitsPerOne := by
  unfold truncate scaled
  dsimp only
  split
  · rw [Int.neg_tdiv, ← Int.ofNat_tdiv]
  · exact Int.ofNat_tdiv _ _

end Finite64

end Verdict
