import Verdict.Proofs.Binary64.Nearest

/-
  The fewest digits read back. A decimal stands for a number when it lies in the interval of the
  reals that round to it (`Within`). The search for the coarsest grid with a point in the interval
  ends in time, because the twenty-third grid is finer than half the interval (`step_lt`), so what
  it finds is such a decimal (`within_shortest`). And a decimal in the interval is read as the
  number, whether its exponent is large or small (`ofDecimal_of_within`).
-/
namespace Verdict

namespace Decimal

/-- The decimal lies among the reals that round to the magnitude of `r`. -/
def Within (d : Decimal) (r : Finite64) : Prop :=
  (Interval.of r).holds (tenTo (-d.exponent).toNat)
    (d.digits * (tenTo d.exponent.toNat * (4 * Finite64.unitsPerOne))) = true

/-! ## Intervals -/

theorem Interval.holds_of_lt {i : Interval} {scale x : Nat} (hlow : i.low * scale < x)
    (hhigh : x < i.high * scale) : i.holds scale x = true := by
  unfold Interval.holds
  split
  · simp only [Bool.and_eq_true, decide_eq_true_eq]
    exact ⟨Nat.le_of_lt hlow, Nat.le_of_lt hhigh⟩
  · simp only [Bool.and_eq_true, decide_eq_true_eq]
    exact ⟨hlow, hhigh⟩

theorem Interval.le_of_holds {i : Interval} {scale x : Nat} (h : i.holds scale x = true) :
    i.low * scale ≤ x ∧ x ≤ i.high * scale := by
  unfold Interval.holds at h
  split at h
  · simpa only [Bool.and_eq_true, decide_eq_true_eq] using h
  · simp only [Bool.and_eq_true, decide_eq_true_eq] at h
    exact ⟨Nat.le_of_lt h.1, Nat.le_of_lt h.2⟩

/-- Interval and point can be scaled alike. -/
theorem Interval.holds_mul (i : Interval) (scale x : Nat) {c : Nat} (hc : 0 < c) :
    i.holds (scale * c) (x * c) = i.holds scale x := by
  unfold Interval.holds
  simp only [← Nat.mul_assoc, Nat.mul_le_mul_right_iff hc, Nat.mul_lt_mul_right hc]

theorem Interval.mid_eq (r : Finite64) : (Interval.of r).mid = 4 * r.units := rfl

theorem Interval.high_eq (r : Finite64) :
    (Interval.of r).high = (Interval.of r).mid + 2 * twoTo r.shift := rfl

theorem Interval.low_le_mid (r : Finite64) : (Interval.of r).low ≤ (Interval.of r).mid :=
  Nat.sub_le _ _

/-- The interval of a number other than zero stays away from zero. -/
theorem Interval.two_le_low {r : Finite64} (h : r.isZero = false) :
    2 ≤ (Interval.of r).low := by
  have hm : 1 ≤ r.significand := by
    have hi : r.index.val ≠ 0 := by simpa [Finite64.isZero] using h
    unfold Finite64.significand Finite64.shift
    omega
  have hP := twoTo_pos r.shift
  have hu : 1 * twoTo r.shift ≤ r.units := Nat.mul_le_mul_right _ hm
  rw [Binary64.low_eq]
  split <;> omega

theorem Interval.high_lt (r : Finite64) : (Interval.of r).high < twoTo (2045 + 55) := by
  have hu : r.units ≤ 0x1fffffffffffff * twoTo r.shift :=
    Nat.mul_le_mul_right _ (Nat.le_of_lt_succ r.significand_lt)
  have hs : twoTo r.shift ≤ twoTo 2045 := twoTo_le r.shift_le
  have hpos := twoTo_pos 2045
  rw [Interval.high_eq, Interval.mid_eq, twoTo_add_eq_mul 2045 55 0x80000000000000 rfl]
  generalize twoTo 2045 = P at hs hpos ⊢
  omega

/-! ## Grids -/

theorem gridPoint?_eq (tie : Tie) (i : Interval) (k : Int) :
    gridPoint? tie i k =
      i.point? tie (tenTo (-k).toNat) (tenTo k.toNat * (4 * Finite64.unitsPerOne)) := by
  unfold gridPoint?
  by_cases h : 0 ≤ k
  · have hk : (-k).toNat = 0 := by omega
    rw [if_pos h, hk]
    rfl
  · have hk : k.toNat = 0 := by omega
    rw [if_neg h, hk, tenTo_zero, Nat.one_mul]

theorem Interval.holds_of_point? {tie : Tie} {i : Interval} {scale step a : Nat}
    (h : i.point? tie scale step = some a) : i.holds scale (a * step) = true := by
  unfold Interval.point? at h
  dsimp only at h
  generalize i.mid * scale / step = b at h
  cases hb : i.holds scale (b * step) <;> cases hc : i.holds scale ((b + 1) * step) <;>
    rw [hb, hc] at h
  · cases h
  · rw [← Option.some.inj h]
    exact hc
  · rw [← Option.some.inj h]
    exact hb
  · -- both neighbours are inside, and one of them is taken
    have hab : a = b ∨ a = b + 1 := by
      cases tie <;> dsimp only at h <;> split at h <;> try split at h
      all_goals
        have := Option.some.inj h
        omega
    rcases hab with rfl | rfl
    · exact hb
    · exact hc

/-- A grid finer than the upper half of an interval has a point inside. -/
theorem Interval.point?_isSome (tie : Tie) {i : Interval} {half scale step : Nat}
    (hlow : i.low ≤ i.mid) (hhigh : i.high = i.mid + half) (hstep : 0 < step)
    (h : step < half * scale) : (i.point? tie scale step).isSome = true := by
  have hle : i.mid * scale / step * step ≤ i.mid * scale := Nat.div_mul_le_self _ _
  have hlt : i.mid * scale < (i.mid * scale / step + 1) * step := by
    rw [Nat.mul_comm _ step]
    exact Nat.lt_mul_div_succ _ hstep
  -- the neighbour above the middle is inside
  have habove : i.holds scale ((i.mid * scale / step + 1) * step) = true := by
    apply Interval.holds_of_lt
    · exact Nat.lt_of_le_of_lt (Nat.mul_le_mul_right _ hlow) hlt
    · rw [hhigh, Nat.add_mul, Nat.add_mul, Nat.one_mul]
      omega
  unfold Interval.point?
  dsimp only
  rw [habove]
  cases i.holds scale (i.mid * scale / step * step) with
  | false => rfl
  | true =>
    dsimp only
    split
    · rfl
    · split
      · rfl
      · cases tie <;> rfl

theorem within_of_gridPoint? {tie : Tie} {r : Finite64} {k : Int} {a : Nat}
    (h : gridPoint? tie (Interval.of r) k = some a) : Within ⟨a, k⟩ r := by
  rw [gridPoint?_eq] at h
  exact Interval.holds_of_point? h

/-- The search succeeds when one of the grids that it looks at has a point. -/
theorem within_firstPoint {tie : Tie} {r : Finite64} {n j : Nat} {k : Int} (hj : j < n)
    (h : (gridPoint? tie (Interval.of r) (k - j)).isSome = true) :
    Within (firstPoint tie (Interval.of r) n k) r := by
  induction n generalizing j k with
  | zero => exact absurd hj (Nat.not_lt_zero j)
  | succ n ih =>
    unfold firstPoint
    cases hg : gridPoint? tie (Interval.of r) k with
    | some a => exact within_of_gridPoint? hg
    | none =>
      cases j with
      | zero =>
        rw [Int.natCast_zero, Int.sub_zero, hg] at h
        cases h
      | succ j =>
        apply ih (Nat.lt_of_succ_lt_succ hj)
        have hk : k - 1 - (j : Int) = k - ((j + 1 : Nat) : Int) := by omega
        rw [hk]
        exact h

/-! ## The search ends -/

theorem log2_units_le (r : Finite64) : r.units.log2 ≤ r.shift + 52 := by
  rcases Nat.eq_zero_or_pos r.units with h | h
  · rw [h]
    exact Nat.zero_le _
  · have hlt : r.units < twoTo (r.shift + 53) := by
      rw [Nat.add_comm, twoTo_add]
      exact Nat.mul_lt_mul_of_pos_right r.significand_lt (twoTo_pos _)
    exact Nat.le_of_lt_succ ((log2_lt_iff (Nat.ne_of_gt h)).2 hlt)

theorem four_mul_unitsPerOne : 4 * Finite64.unitsPerOne = twoTo 1076 := by
  unfold Finite64.unitsPerOne
  rw [four_mul_twoTo]

/-- Twenty-three grids below the first one, the step is less than half the interval. -/
theorem step_lt (r : Finite64) :
    tenTo (startExponent r - 23).toNat * (4 * Finite64.unitsPerOne) <
      2 * twoTo r.shift * tenTo (-(startExponent r - 23)).toNat := by
  have hlog := log2_units_le r
  have hshift := r.shift_le
  rw [four_mul_unitsPerOne, ← twoTo_succ]
  have hk : startExponent r - 23 =
      (((r.units.log2 : Int) + 1 - 1074) * 30103) / 100000 + 1 - 23 := rfl
  rw [hk]
  generalize hke : (((r.units.log2 : Int) + 1 - 1074) * 30103) / 100000 + 1 - 23 = k
  rcases Int.le_total 0 k with h | h
  · have hz : (-k).toNat = 0 := by omega
    rw [hz, tenTo_zero, Nat.mul_one]
    calc
      tenTo k.toNat * twoTo 1076 ≤ twoTo (r.shift - 1076) * twoTo 1076 :=
        Nat.mul_le_mul_right _ (tenTo_le_twoTo (by omega))
      _ = twoTo r.shift := by
        rw [← twoTo_add]
        congr 1
        omega
      _ < twoTo (r.shift + 1) := by
        rw [twoTo_succ]
        have := twoTo_pos r.shift
        omega
  · have hz : k.toNat = 0 := by omega
    rw [hz, tenTo_zero, Nat.one_mul]
    calc
      twoTo 1076 ≤ twoTo (r.shift + (1076 - r.shift)) := twoTo_le (by omega)
      _ = twoTo r.shift * twoTo (1076 - r.shift) := twoTo_add _ _
      _ ≤ twoTo r.shift * tenTo (-k).toNat :=
        Nat.mul_le_mul_left _ (twoTo_le_tenTo (by omega))
      _ < twoTo (r.shift + 1) * tenTo (-k).toNat := by
        apply Nat.mul_lt_mul_of_pos_right _ (tenTo_pos _)
        rw [twoTo_succ]
        have := twoTo_pos r.shift
        omega

/-- The fewest digits lie among the reals that round to the number. -/
theorem within_shortest (tie : Tie) {r : Finite64} (h : r.isZero = false) :
    Within (shortest tie r) r := by
  unfold shortest
  rw [h, if_neg (by decide)]
  apply within_firstPoint (j := 23) (by decide)
  rw [gridPoint?_eq]
  refine Interval.point?_isSome tie (Interval.low_le_mid r) (Interval.high_eq r) ?_ (step_lt r)
  rw [four_mul_unitsPerOne]
  exact Nat.mul_pos (tenTo_pos _) (twoTo_pos _)

/-! ## Reading a decimal -/

theorem digits_pos_of_within {d : Decimal} {r : Finite64} (hr : r.isZero = false)
    (h : Within d r) : 0 < d.digits := by
  refine Nat.pos_of_ne_zero fun hd => ?_
  have hle := (Interval.le_of_holds h).1
  rw [hd, Nat.zero_mul] at hle
  have := Nat.mul_le_mul (Interval.two_le_low hr) (tenTo_pos (-d.exponent).toNat)
  omega

/-- Digits with zeros behind them and one after the point stand for the same. -/
theorem within_tenths {n e : Nat} {r : Finite64} (h : Within ⟨n, e⟩ r) :
    Within ⟨n * tenTo (e + 1), -1⟩ r := by
  unfold Within at h ⊢
  generalize 4 * Finite64.unitsPerOne = q at h ⊢
  have h1 : (-(e : Int)).toNat = 0 := by omega
  have h2 : ((e : Int)).toNat = e := by omega
  have h3 : (-(-1 : Int)).toNat = 1 := rfl
  have h4 : (-1 : Int).toNat = 0 := rfl
  have hx : n * tenTo (e + 1) * (tenTo 0 * q) = n * (tenTo e * q) * 10 := by
    rw [tenTo_succ, tenTo_zero, Nat.one_mul, Nat.mul_comm 10, ← Nat.mul_assoc n,
      Nat.mul_right_comm, Nat.mul_assoc n]
  dsimp only at h ⊢
  rw [h1, h2] at h
  rw [h3, h4, hx]
  exact (Interval.holds_mul _ (tenTo 0) _ (by decide)).trans h

theorem pow_le_of_places {n : Nat} (h : 0 < n) :
    tenTo ((Nat.toDigits 10 n).length - 1) ≤ n := by
  have hlen : 0 < (Nat.toDigits 10 n).length := Nat.length_toDigits_pos
  rcases Nat.eq_zero_or_pos ((Nat.toDigits 10 n).length - 1) with h1 | h1
  · rw [h1]
    exact h
  · refine Nat.le_of_not_lt fun hlt => ?_
    have := (Nat.length_toDigits_le_iff (b := 10) (by decide) h1).2 hlt
    omega

theorem lt_pow_of_places (n : Nat) : n < tenTo (Nat.toDigits 10 n).length :=
  (Nat.length_toDigits_le_iff (b := 10) (by decide) Nat.length_toDigits_pos).1 (Nat.le_refl _)

/-- No finite number has more than 309 places. -/
theorem places_le_of_within {n : Nat} {e : Int} {r : Finite64} (hr : r.isZero = false)
    (h : Within ⟨n, e⟩ r) : ((Nat.toDigits 10 n).length : Int) + e ≤ 309 := by
  have hn := digits_pos_of_within hr h
  have hle := (Interval.le_of_holds h).2
  have hlen : 0 < (Nat.toDigits 10 n).length := Nat.length_toDigits_pos
  dsimp only at hle hn
  refine Int.le_of_not_gt fun hgt => ?_
  have hbig : tenTo (309 + (-e).toNat) ≤ n * tenTo e.toNat := by
    calc
      tenTo (309 + (-e).toNat) ≤ tenTo ((Nat.toDigits 10 n).length - 1 + e.toNat) :=
        tenTo_le (by omega)
      _ = tenTo ((Nat.toDigits 10 n).length - 1) * tenTo e.toNat := tenTo_add _ _
      _ ≤ n * tenTo e.toNat := Nat.mul_le_mul_right _ (pow_le_of_places hn)
  have hcontra : twoTo (2045 + 55) * tenTo (-e).toNat ≤
      (Interval.of r).high * tenTo (-e).toNat := by
    calc
      twoTo (1024 + 1076) * tenTo (-e).toNat = twoTo 1024 * tenTo (-e).toNat * twoTo 1076 := by
        rw [twoTo_add, Nat.mul_right_comm]
      _ ≤ tenTo 309 * tenTo (-e).toNat * twoTo 1076 :=
        Nat.mul_le_mul_right _ (Nat.mul_le_mul_right _ (twoTo_le_tenTo (by decide)))
      _ = tenTo (309 + (-e).toNat) * twoTo 1076 := by rw [tenTo_add]
      _ ≤ n * tenTo e.toNat * twoTo 1076 := Nat.mul_le_mul_right _ hbig
      _ = n * (tenTo e.toNat * (4 * Finite64.unitsPerOne)) := by
        rw [four_mul_unitsPerOne, Nat.mul_assoc]
      _ ≤ (Interval.of r).high * tenTo (-e).toNat := hle
  have := Nat.le_of_mul_le_mul_right hcontra (tenTo_pos _)
  exact Nat.not_lt.2 this (Interval.high_lt r)

/-- No number but zero is below the 324th place after the point. -/
theorem le_places_of_within {n : Nat} {e : Int} {r : Finite64} (hr : r.isZero = false)
    (h : Within ⟨n, e⟩ r) : -324 ≤ ((Nat.toDigits 10 n).length : Int) + e := by
  have hle := (Interval.le_of_holds h).1
  dsimp only at hle
  refine Int.le_of_not_gt fun hgt => ?_
  have hsmall : n * (tenTo e.toNat * (4 * Finite64.unitsPerOne)) ≤ tenTo (-e).toNat := by
    calc
      n * (tenTo e.toNat * (4 * Finite64.unitsPerOne)) = n * tenTo e.toNat * twoTo 1076 := by
        rw [four_mul_unitsPerOne, Nat.mul_assoc]
      _ ≤ tenTo (Nat.toDigits 10 n).length * tenTo e.toNat * tenTo 324 :=
        Nat.mul_le_mul (Nat.mul_le_mul_right _ (Nat.le_of_lt (lt_pow_of_places n)))
          (twoTo_le_tenTo (by decide))
      _ = tenTo ((Nat.toDigits 10 n).length + e.toNat + 324) := by rw [tenTo_add, tenTo_add]
      _ ≤ tenTo (-e).toNat := tenTo_le (by omega)
  have hlow : 2 * tenTo (-e).toNat ≤ (Interval.of r).low * tenTo (-e).toNat :=
    Nat.mul_le_mul_right _ (Interval.two_le_low hr)
  have := tenTo_pos (-e).toNat
  omega

/-- A decimal among the reals that round to a number is read as the number. -/
theorem ofDecimal_of_within {n : Nat} {e : Int} {r : Finite64} (hr : r.isZero = false)
    (h : Within ⟨n, e⟩ r) : Binary64.ofDecimal r.negative n e = .finite r := by
  have hn : n ≠ 0 := Nat.ne_of_gt (digits_pos_of_within hr h)
  have hhigh := places_le_of_within hr h
  have hlow := le_places_of_within hr h
  rw [Binary64.ofDecimal_eq_nearest _ hn (by omega) (by omega)]
  unfold Within at h
  dsimp only at h
  rw [Nat.mul_left_comm (tenTo e.toNat), Nat.mul_left_comm n, ← Nat.mul_assoc n] at h
  exact Binary64.nearest_of_holds (tenTo_pos _) h

theorem ofDecimal_zero (negative : Bool) (e : Int) :
    Binary64.ofDecimal negative 0 e = Binary64.ofIndex negative 0 := rfl

/-! ## Integral numbers -/

/-- An integral number is its own integer part. -/
theorem within_integral {r : Finite64} (hr : r.isZero = false) (h : r.isIntegral = true) :
    Within ⟨r.units / Finite64.unitsPerOne, 0⟩ r := by
  have hunits : r.units / Finite64.unitsPerOne * Finite64.unitsPerOne = r.units := by
    have hmod : r.units % Finite64.unitsPerOne = 0 := by simpa [Finite64.isIntegral] using h
    exact Nat.div_mul_cancel (Nat.dvd_of_mod_eq_zero hmod)
  have hzero : (-(0 : Int)).toNat = 0 := rfl
  have hzero' : (0 : Int).toNat = 0 := rfl
  have hlow := Interval.two_le_low hr
  have hpos := twoTo_pos r.shift
  unfold Within
  dsimp only
  rw [hzero, hzero', tenTo_zero, Nat.one_mul, Nat.mul_left_comm, hunits]
  -- the point is the middle of the interval, which is never one of its ends
  apply Interval.holds_of_lt
  · rw [Nat.mul_one]
    rw [Binary64.low_eq] at hlow ⊢
    split <;> omega
  · rw [Nat.mul_one, Interval.high_eq, Interval.mid_eq]
    omega

theorem isIntegral_of_units {r : Finite64} {n : Nat} (h : r.units = n * Finite64.unitsPerOne) :
    r.isIntegral = true := by
  unfold Finite64.isIntegral
  rw [h, Nat.mul_mod_left]
  rfl

/-- A number whose quantum is a whole number is integral. -/
theorem isIntegral_of_le_shift {r : Finite64} (h : 1074 ≤ r.shift) : r.isIntegral = true := by
  apply isIntegral_of_units (n := r.significand * twoTo (r.shift - 1074))
  unfold Finite64.units Finite64.unitsPerOne
  rw [Nat.mul_assoc, ← twoTo_add, Nat.sub_add_cancel h]

/-- A whole number and a number with a smaller quantum are both multiples of that quantum, so they
are equal when one lies in the interval of the other: that is half a quantum to either side. -/
theorem units_eq_of_within {n : Nat} {e : Int} {r : Finite64} (h : Within ⟨n, e⟩ r) (he : 0 ≤ e)
    (hs : r.shift ≤ 1074) : r.units = n * tenTo e.toNat * Finite64.unitsPerOne := by
  have hone : Finite64.unitsPerOne = twoTo (1074 - r.shift) * twoTo r.shift := by
    unfold Finite64.unitsPerOne
    rw [← twoTo_add, Nat.sub_add_cancel hs]
  have hscale : (-e).toNat = 0 := by omega
  have hpoint : n * (tenTo e.toNat * (4 * Finite64.unitsPerOne)) =
      4 * (n * tenTo e.toNat * twoTo (1074 - r.shift) * twoTo r.shift) := by
    rw [Nat.mul_left_comm (tenTo _), Nat.mul_left_comm n, hone, ← Nat.mul_assoc n,
      ← Nat.mul_assoc (n * _)]
  unfold Within at h
  dsimp only at h
  rw [hscale, tenTo_zero, hpoint] at h
  obtain ⟨hup, hdown, -⟩ := Binary64.bounds_of_holds h
  rw [hone, ← Nat.mul_assoc]
  unfold Finite64.units
  have hpos := twoTo_pos r.shift
  generalize n * tenTo e.toNat * twoTo (1074 - r.shift) = k at hup hdown ⊢
  rw [Nat.one_mul] at hup hdown
  have hle : 2 * k ≤ 2 * r.significand + 1 := by
    apply Nat.le_of_mul_le_mul_right _ hpos
    rw [Nat.add_mul, Nat.one_mul, Nat.mul_assoc, Nat.mul_assoc]
    exact hup
  have hge : 2 * r.significand ≤ 2 * k + 1 := by
    apply Nat.le_of_mul_le_mul_right _ hpos
    rw [Nat.add_mul, Nat.one_mul, Nat.mul_assoc, Nat.mul_assoc]
    exact hdown
  have heq : r.significand = k := by omega
  rw [heq]

/-- No whole number rounds to a number with a fraction. -/
theorem exponent_neg_of_within {n : Nat} {e : Int} {r : Finite64} (hr : r.isIntegral = false)
    (h : Within ⟨n, e⟩ r) : e < 0 := by
  refine Int.lt_of_not_ge fun he => ?_
  have hint : r.isIntegral = true := by
    rcases Nat.le_total 1074 r.shift with hs | hs
    · exact isIntegral_of_le_shift hs
    · exact isIntegral_of_units (units_eq_of_within h he hs)
  rw [hr] at hint
  cases hint

end Decimal

end Verdict
