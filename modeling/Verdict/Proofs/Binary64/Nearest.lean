import Verdict.Decimal.Shortest
import Verdict.Binary64.Round

/-
  Rounding a ratio to the number in whose interval it lies. The reals that round to a magnitude
  reach half a quantum to either side, and only a quarter downwards from a power of two, where the
  quanta below are finer. A ratio in this interval has as many binary places as the magnitude, or
  one less just below a power of two, and in both cases the rounded quotient is the magnitude's
  index (`nearestIndex_of_holds`). `nearest_of_holds` is the statement on numbers.
-/
namespace Verdict

/-- The quotient is rounded to `m` when it is at most a half away, and less if `m` is odd. -/
theorem divideToEven_eq {n d m : Nat} (hd : 0 < d) (hhigh : 2 * n ≤ 2 * (m * d) + d)
    (hlow : 2 * (m * d) ≤ 2 * n + d)
    (hodd : m % 2 = 1 → 2 * n < 2 * (m * d) + d ∧ 2 * (m * d) < 2 * n + d) :
    divideToEven n d = m := by
  have hn : n / d * d + n % d = n := by
    rw [Nat.mul_comm]
    exact Nat.div_add_mod n d
  have hr : n % d < d := Nat.mod_lt n hd
  -- the whole quotient is `m`, or the number below it
  have hle : n / d ≤ m := by
    refine Nat.le_of_not_lt fun h => ?_
    have hmul : (m + 1) * d ≤ n / d * d := Nat.mul_le_mul_right d h
    rw [Nat.add_mul] at hmul
    omega
  have hge : m ≤ n / d + 1 := by
    refine Nat.le_of_not_lt fun h => ?_
    have hmul : (n / d + 2) * d ≤ m * d := Nat.mul_le_mul_right d h
    rw [Nat.add_mul] at hmul
    omega
  unfold divideToEven
  dsimp only
  rcases Nat.lt_or_eq_of_le hle with h | h
  · have hm : m = n / d + 1 := by omega
    rw [hm, Nat.add_mul] at hlow hodd
    rw [if_neg (by omega)]
    split <;> omega
  · rw [h] at hn ⊢
    split
    · rfl
    · rw [if_neg (by omega)]
      omega

namespace Finite64

theorem shift_le (r : Finite64) : r.shift ≤ 2045 := by
  have h := r.index.isLt
  unfold magnitudeCount at h
  unfold shift
  omega

/-- With a quantum above the least one the significand has all its places. -/
theorem le_significand {r : Finite64} (h : 0 < r.shift) :
    0x10000000000000 ≤ r.significand := by
  unfold shift at h
  unfold significand shift
  omega

end Finite64

namespace Binary64

open Decimal (Interval)

/-- The significand of `r` stands at a power of two that is not the least. -/
def IsNarrow (r : Finite64) : Prop := r.significand = 0x10000000000000 ∧ 0 < r.shift

instance (r : Finite64) : Decidable (IsNarrow r) := inferInstanceAs (Decidable (_ ∧ _))

theorem low_eq (r : Finite64) :
    (Interval.of r).low =
      4 * r.units - if IsNarrow r then twoTo r.shift else 2 * twoTo r.shift := rfl

theorem high_eq (r : Finite64) : (Interval.of r).high = 4 * r.units + 2 * twoTo r.shift := rfl

/-- The interval of `r` in quanta: half a quantum to either side, without the ends when the
significand is odd, and a quarter below a narrow one. -/
theorem bounds_of_holds {r : Finite64} {n d : Nat}
    (h : (Interval.of r).holds d (4 * n) = true) :
    2 * n ≤ 2 * (r.significand * (d * twoTo r.shift)) + d * twoTo r.shift ∧
    2 * (r.significand * (d * twoTo r.shift)) ≤ 2 * n + d * twoTo r.shift ∧
    (r.significand % 2 = 1 →
      2 * n < 2 * (r.significand * (d * twoTo r.shift)) + d * twoTo r.shift ∧
      2 * (r.significand * (d * twoTo r.shift)) < 2 * n + d * twoTo r.shift) ∧
    (IsNarrow r → 4 * (r.significand * (d * twoTo r.shift)) ≤ 4 * n + d * twoTo r.shift) := by
  have hmul : r.units * d = r.significand * (d * twoTo r.shift) := by
    unfold Finite64.units
    rw [Nat.mul_assoc, Nat.mul_comm (twoTo r.shift)]
  have hhigh : (Interval.of r).high * d =
      4 * (r.significand * (d * twoTo r.shift)) + 2 * (d * twoTo r.shift) := by
    rw [high_eq, Nat.add_mul, Nat.mul_assoc, hmul, Nat.mul_assoc, Nat.mul_comm (twoTo r.shift)]
  have hlow : (Interval.of r).low * d = 4 * (r.significand * (d * twoTo r.shift)) -
      if IsNarrow r then d * twoTo r.shift else 2 * (d * twoTo r.shift) := by
    rw [low_eq, Nat.sub_mul, Nat.mul_assoc, hmul]
    split
    · rw [Nat.mul_comm (twoTo r.shift)]
    · rw [Nat.mul_assoc, Nat.mul_comm (twoTo r.shift)]
  have hclosed : (Interval.of r).closed = (r.significand % 2 == 0) := rfl
  unfold Interval.holds at h
  rw [hhigh, hlow, hclosed] at h
  by_cases heven : r.significand % 2 = 0
  · simp only [heven, beq_self_eq_true, if_true, Bool.and_eq_true, decide_eq_true_eq] at h
    obtain ⟨h1, h2⟩ := h
    refine ⟨by omega, ?_, fun ho => by omega, fun hn => ?_⟩
    · split at h1 <;> omega
    · rw [if_pos hn] at h1
      omega
  · have hb : (r.significand % 2 == 0) = false := by simpa using heven
    simp only [hb, Bool.false_eq_true, if_false, Bool.and_eq_true, decide_eq_true_eq] at h
    obtain ⟨h1, h2⟩ := h
    -- an odd significand is no power of two
    have hnarrow : ¬ IsNarrow r := by
      intro hn
      rw [hn.1] at heven
      exact heven (by decide)
    rw [if_neg hnarrow] at h1
    exact ⟨by omega, by omega, fun _ => ⟨by omega, by omega⟩, fun hn => absurd hn hnarrow⟩

/-- A ratio in the interval of `r` has no more binary places than `r`. -/
theorem div_lt_of_bound {r : Finite64} {n d : Nat} (hd : 0 < d)
    (h : 2 * n ≤ 2 * (r.significand * (d * twoTo r.shift)) + d * twoTo r.shift) :
    n / d < 0x20000000000000 * twoTo r.shift := by
  rw [Nat.div_lt_iff_lt_mul hd, Nat.mul_assoc, Nat.mul_comm (twoTo r.shift)]
  have hE : 0 < d * twoTo r.shift := Nat.mul_pos hd (twoTo_pos _)
  have hm : r.significand * (d * twoTo r.shift) ≤ 0x1fffffffffffff * (d * twoTo r.shift) :=
    Nat.mul_le_mul_right _ (Nat.le_of_lt_succ r.significand_lt)
  omega

/-- A number with 53 places in the quantum `twoTo s` has `s + 53` places. -/
theorem log2_eq_of_significand {n s : Nat} (hlow : 0x10000000000000 * twoTo s ≤ n)
    (hhigh : n < 0x20000000000000 * twoTo s) : n.log2 = s + 52 := by
  apply log2_eq
  · rw [twoTo_add_eq_mul s 52 0x10000000000000 rfl]
    exact hlow
  · rw [Nat.add_assoc, twoTo_add_eq_mul s 53 0x20000000000000 rfl]
    exact hhigh

/-- A ratio with the places of `r` is rounded in the quantum of `r`. -/
theorem nearestIndex_of_shift {r : Finite64} {n d : Nat} (hd : 0 < d)
    (h : (Interval.of r).holds d (4 * n) = true) (hs : (n / d).log2 - 52 = r.shift) :
    nearestIndex n d = r.index.val := by
  obtain ⟨hhigh, hlow, hodd, -⟩ := bounds_of_holds h
  have hE : 0 < d * twoTo r.shift := Nat.mul_pos hd (twoTo_pos _)
  unfold nearestIndex
  rw [hs, r.index_eq]
  dsimp only
  rw [divideToEven_eq hE hhigh hlow hodd]

/-- Below a narrow significand the quanta are half as large, and a ratio that is a quarter of a
quantum away is rounded up to the power of two. -/
theorem nearestIndex_of_narrow {r : Finite64} {n d : Nat} (hd : 0 < d) (hr : IsNarrow r)
    (hn : n < 0x10000000000000 * (d * twoTo r.shift))
    (hq : 4 * (0x10000000000000 * (d * twoTo r.shift)) ≤ 4 * n + d * twoTo r.shift) :
    nearestIndex n d = r.index.val := by
  obtain ⟨hm, hs⟩ := hr
  obtain ⟨s, hs'⟩ : ∃ s, r.shift = s + 1 := ⟨r.shift - 1, by omega⟩
  have hhalf : d * twoTo r.shift = 2 * (d * twoTo s) := by
    rw [hs', twoTo_succ, Nat.mul_left_comm]
  have hE : 0 < d * twoTo s := Nat.mul_pos hd (twoTo_pos _)
  rw [hhalf] at hn hq
  have hge : 0x10000000000000 * twoTo s ≤ n / d := by
    rw [Nat.le_div_iff_mul_le hd, Nat.mul_assoc, Nat.mul_comm (twoTo s)]
    omega
  have hlt : n / d < 0x20000000000000 * twoTo s := by
    rw [Nat.div_lt_iff_lt_mul hd, Nat.mul_assoc, Nat.mul_comm (twoTo s)]
    omega
  have hround : divideToEven n (d * twoTo s) = 0x20000000000000 :=
    divideToEven_eq hE (by omega) (by omega) (by omega)
  unfold nearestIndex
  rw [log2_eq_of_significand hge hlt, Nat.add_sub_cancel]
  dsimp only
  rw [hround, r.index_eq, hm, hs']
  omega

/-- The index of the magnitude nearest to a ratio in the interval of `r` is that of `r`. -/
theorem nearestIndex_of_holds {r : Finite64} {n d : Nat} (hd : 0 < d)
    (h : (Interval.of r).holds d (4 * n) = true) : nearestIndex n d = r.index.val := by
  obtain ⟨hhigh, hlow, -, hnarrow⟩ := bounds_of_holds h
  have hlt := div_lt_of_bound hd hhigh
  by_cases hge : 0x10000000000000 * twoTo r.shift ≤ n / d
  · apply nearestIndex_of_shift hd h
    rw [log2_eq_of_significand hge hlt]
    omega
  · have hn : n < 0x10000000000000 * (d * twoTo r.shift) := by
      have := (Nat.div_lt_iff_lt_mul hd).1 (Nat.lt_of_not_le hge)
      rwa [Nat.mul_assoc, Nat.mul_comm (twoTo r.shift)] at this
    rcases Nat.eq_zero_or_pos r.shift with hs | hs
    · -- there are no smaller quanta
      apply nearestIndex_of_shift hd h
      rw [hs] at hlt ⊢
      rcases Nat.eq_zero_or_pos (n / d) with h0 | h0
      · rw [h0]
        rfl
      · have : (n / d).log2 < 53 := (log2_lt_iff (Nat.ne_of_gt h0)).2 hlt
        omega
    · have hm : r.significand = 0x10000000000000 := by
        refine Nat.le_antisymm (Nat.le_of_not_lt fun hlt' => ?_) (Finite64.le_significand hs)
        have := Nat.mul_le_mul_right (d * twoTo r.shift) hlt'
        rw [Nat.succ_mul] at this
        omega
      have hq := hnarrow ⟨hm, hs⟩
      rw [hm] at hq
      exact nearestIndex_of_narrow hd ⟨hm, hs⟩ hn hq

/-- A ratio in the interval of `r` is rounded to `r`, under the sign of `r`. -/
theorem nearest_of_holds {r : Finite64} {n d : Nat} (hd : 0 < d)
    (h : (Interval.of r).holds d (4 * (n * Finite64.unitsPerOne)) = true) :
    nearest r.negative n d = .finite r := by
  unfold nearest
  rw [nearestIndex_of_holds hd h]
  unfold ofIndex
  rw [dif_pos r.index.isLt]

/-- Between the shortcuts a decimal is the number nearest to the ratio that it is. -/
theorem ofDecimal_eq_nearest {digits : Nat} {exponent : Int} (negative : Bool)
    (hdigits : digits ≠ 0) (hhigh : ((Nat.toDigits 10 digits).length : Int) + exponent ≤ 310)
    (hlow : -330 ≤ ((Nat.toDigits 10 digits).length : Int) + exponent) :
    ofDecimal negative digits exponent =
      nearest negative (digits * tenTo exponent.toNat) (tenTo (-exponent).toNat) := by
  unfold ofDecimal
  dsimp only
  rw [if_neg hdigits, if_neg (by omega), if_neg (by omega)]
  by_cases he : 0 ≤ exponent
  · have hz : (-exponent).toNat = 0 := by omega
    rw [if_pos he, hz, tenTo_zero]
  · have hz : exponent.toNat = 0 := by omega
    rw [if_neg he, hz, tenTo_zero, Nat.mul_one]

end Binary64

end Verdict
