import Verdict.Proofs.Binary64.Exact
import Verdict.Proofs.Binary64.Overflow

/-
  Integers widened to reals. `Finite64.IsNearest` says what the number nearest to an integer is,
  without the way in which it is found: no number is nearer, of two that are equally near it is
  the even one, and it has the sign of the integer. At most one number is nearest
  (`IsNearest.unique`), and nearest numbers are ordered as their integers are
  (`IsNearest.scaled_le_of_lt`). Rounding takes a multiple of the quantum, and numbers of a finer
  quantum lie below the quotients that are rounded in a coarser one (`units_on_grid`), so what is
  rounded is nearest (`ofInt_isNearest`). On integers that fit a word nothing overflows, and
  widening keeps their order (`rank_ofInt_le`).
-/
namespace Verdict

/-! ## Rounded quotients among the multiples of the divisor -/

/-- The distance of two whole numbers. -/
def gap (m n : Nat) : Nat := m - n + (n - m)

theorem gap_divideToEven_le {n d : Nat} (hd : 0 < d) (k : Nat) :
    gap (divideToEven n d * d) n ≤ gap (k * d) n := by
  obtain ⟨hhigh, hlow⟩ := divideToEven_near n d hd
  unfold gap
  rcases Nat.lt_trichotomy k (divideToEven n d) with h | h | h
  · have hmul : (k + 1) * d ≤ divideToEven n d * d := Nat.mul_le_mul_right d h
    rw [Nat.add_mul] at hmul
    omega
  · exact Nat.le_of_eq (by rw [h])
  · have hmul : (divideToEven n d + 1) * d ≤ k * d := Nat.mul_le_mul_right d h
    rw [Nat.add_mul] at hmul
    omega

/-- A quotient half way between two whole numbers is rounded to an even one. -/
theorem divideToEven_even_of_half {n d : Nat} (h : 2 * (n % d) = d) :
    divideToEven n d % 2 = 0 := by
  unfold divideToEven
  dsimp only
  rw [if_neg (by omega), if_neg (by omega)]
  omega

/-- Where another multiple is equally near, the quotient is half way. -/
theorem divideToEven_even {n d k : Nat} (hd : 0 < d) (hk : k ≠ divideToEven n d)
    (h : gap (k * d) n = gap (divideToEven n d * d) n) : divideToEven n d % 2 = 0 := by
  obtain ⟨hhigh, hlow⟩ := divideToEven_near n d hd
  have hhalf : 2 * gap (divideToEven n d * d) n = d := by
    unfold gap at h ⊢
    rcases Nat.lt_or_gt_of_ne hk with hlt | hlt
    · have hmul : (k + 1) * d ≤ divideToEven n d * d := Nat.mul_le_mul_right d hlt
      rw [Nat.add_mul] at hmul
      omega
    · have hmul : (divideToEven n d + 1) * d ≤ k * d := Nat.mul_le_mul_right d hlt
      rw [Nat.add_mul] at hmul
      omega
  have hn : n / d * d + n % d = n := by
    rw [Nat.mul_comm]
    exact Nat.div_add_mod n d
  have hr : n % d < d := Nat.mod_lt n hd
  apply divideToEven_even_of_half
  unfold gap divideToEven at hhalf
  dsimp only at hhalf
  split at hhalf
  · omega
  · split at hhalf <;> rw [Nat.add_mul] at hhalf
    · omega
    · omega

namespace Finite64

/-! ## The nearest number -/

/-- How far the number is from an integer, in units. -/
def distance (r : Finite64) (i : Int) : Nat := (r.scaled - i * unitsPerOne).natAbs

/-- The number is the nearest one to the integer, the even one of two, under the integer's sign. -/
structure IsNearest (r : Finite64) (i : Int) : Prop where
  nearest : ∀ q : Finite64, r.distance i ≤ q.distance i
  even : ∀ q : Finite64, q.distance i = r.distance i → q.scaled ≠ r.scaled →
    r.significand % 2 = 0
  sign : r.negative = decide (i < 0)

/-- Nearest numbers are ordered as their integers. -/
theorem IsNearest.scaled_le_of_lt {r q : Finite64} {i j : Int} (hr : r.IsNearest i)
    (hq : q.IsNearest j) (h : i < j) : r.scaled ≤ q.scaled := by
  have hpos : (0 : Int) < unitsPerOne := Int.ofNat_lt.2 unitsPerOne_pos
  have hunits : i * unitsPerOne < j * unitsPerOne := Int.mul_lt_mul_of_pos_right h hpos
  have h1 := hr.nearest q
  have h2 := hq.nearest r
  unfold distance at h1 h2
  omega

/-- Between two even magnitudes under one sign there is a third. -/
theorem exists_between {r q : Finite64} (hr : r.significand % 2 = 0)
    (hq : q.significand % 2 = 0) (h : r.units < q.units) :
    ∃ x : Finite64, x.negative = r.negative ∧ r.units < x.units ∧ x.units < q.units := by
  have hlt : r.index.val < q.index.val :=
    Nat.lt_of_not_le fun hle => Nat.not_lt.2 ((units_le_units_iff q r).2 hle) h
  have hreven := r.index_eq
  have hqeven := q.index_eq
  have hbetween : r.index.val + 1 < q.index.val := by omega
  refine ⟨⟨r.negative, ⟨r.index.val + 1, Nat.lt_trans hbetween q.index.isLt⟩⟩, rfl, ?_, ?_⟩
  · exact units_lt_units (Nat.lt_succ_self _)
  · exact units_lt_units hbetween

theorem IsNearest.units_le {r q : Finite64} {i : Int} (hr : r.IsNearest i)
    (hq : q.IsNearest i) : q.units ≤ r.units := by
  refine Nat.le_of_not_lt fun hlt => ?_
  have hsign : q.negative = r.negative := hq.sign.trans hr.sign.symm
  have hdistance : q.distance i = r.distance i :=
    Nat.le_antisymm (hq.nearest r) (hr.nearest q)
  have hne : q.scaled ≠ r.scaled := by
    intro heq
    rw [← natAbs_scaled, ← natAbs_scaled, heq] at hlt
    exact Nat.lt_irrefl _ hlt
  -- both are even, so a number between them is nearer than either
  obtain ⟨x, hx, hrx, hxq⟩ :=
    exists_between (hr.even q hdistance hne) (hq.even r hdistance.symm hne.symm) hlt
  have hnear := hr.nearest x
  unfold distance scaled at hnear hdistance
  rw [hsign] at hdistance
  rw [hx] at hnear
  cases hneg : r.negative with
  | true =>
    rw [hneg] at hnear hdistance
    simp only [if_true] at hnear hdistance
    omega
  | false =>
    rw [hneg] at hnear hdistance
    simp only [Bool.false_eq_true, if_false] at hnear hdistance
    omega

theorem IsNearest.unique {r q : Finite64} {i : Int} (hr : r.IsNearest i) (hq : q.IsNearest i) :
    r = q := by
  have hsign : r.negative = q.negative := hr.sign.trans hq.sign.symm
  have hunits : r.units = q.units := Nat.le_antisymm (hq.units_le hr) (hr.units_le hq)
  apply eq_of_scaled hsign
  unfold scaled
  rw [hsign, hunits]

/-! ## Rounded magnitudes -/

/-- A magnitude is a multiple of a quantum, or its own quantum is finer and it has less than all
places in the coarser one. -/
theorem units_on_grid (q : Finite64) (s : Nat) :
    (∃ k, q.units = k * twoTo s) ∨ s ≠ 0 ∧ q.units ≤ 0x10000000000000 * twoTo s := by
  rcases Nat.lt_or_ge q.shift s with h | h
  · refine Or.inr ⟨by omega, ?_⟩
    calc
      q.significand * twoTo q.shift ≤ 0x20000000000000 * twoTo q.shift :=
        Nat.mul_le_mul_right _ (Nat.le_of_lt q.significand_lt)
      _ = 0x10000000000000 * twoTo (q.shift + 1) := by
        rw [twoTo_succ]
        omega
      _ ≤ 0x10000000000000 * twoTo s := Nat.mul_le_mul_left _ (twoTo_le h)
  · refine Or.inl ⟨q.significand * twoTo (q.shift - s), ?_⟩
    rw [Nat.mul_assoc, ← twoTo_add, Nat.sub_add_cancel h]
    rfl

/-- What stands at an index that a rounded quotient leads to. -/
theorem units_of_index {r : Finite64} {s m : Nat}
    (hindex : r.index.val = s * 0x10000000000000 + m) (hhigh : m ≤ 0x20000000000000)
    (hlow : s = 0 ∨ 0x10000000000000 ≤ m) : r.units = m * twoTo s := by
  unfold units
  rcases Nat.lt_or_eq_of_le hhigh with hlt | heq
  · have hshift : r.shift = s := by
      unfold shift
      omega
    have hsig : r.significand = m := by
      unfold significand
      rw [hshift]
      omega
    rw [hshift, hsig]
  · -- rounded up to the next power of two
    have hshift : r.shift = s + 1 := by
      unfold shift
      omega
    have hsig : r.significand = 0x10000000000000 := by
      unfold significand
      rw [hshift]
      omega
    rw [hshift, hsig, heq, twoTo_succ]
    omega

/-- The quantum in which a whole number is rounded leaves it 53 places, and not fewer. -/
theorem places_in_quantum (n : Nat) :
    n ≤ 0x20000000000000 * twoTo (n.log2 - 52) ∧
      (n.log2 - 52 = 0 ∨ 0x10000000000000 * twoTo (n.log2 - 52) ≤ n) := by
  rcases Nat.eq_zero_or_pos n with h0 | h0
  · rw [h0]
    exact ⟨Nat.zero_le _, Or.inl rfl⟩
  · have hne : n ≠ 0 := Nat.ne_of_gt h0
    rw [← twoTo_add_eq_mul _ 53 0x20000000000000 rfl, ← twoTo_add_eq_mul _ 52 0x10000000000000 rfl]
    have hhigh : n < twoTo (n.log2 - 52 + 53) := (log2_lt_iff hne).1 (by omega)
    refine ⟨Nat.le_of_lt hhigh, ?_⟩
    rcases Nat.lt_or_ge n.log2 53 with hlog | hlog
    · exact Or.inl (by omega)
    · refine Or.inr (Nat.le_of_not_lt fun hlt => ?_)
      have := (log2_lt_iff hne).2 hlt
      omega

/-- The magnitude at the nearest index is nearest, and even if another one is equally near. -/
theorem gap_units_le {r : Finite64} {n : Nat} (hindex : r.index.val = Binary64.nearestIndex n 1)
    (q : Finite64) :
    gap r.units n ≤ gap q.units n ∧
      (gap q.units n = gap r.units n → q.units ≠ r.units → r.significand % 2 = 0) := by
  have hS : 0 < twoTo (n.log2 - 52) := twoTo_pos _
  obtain ⟨hplaces, hfull⟩ := places_in_quantum n
  unfold Binary64.nearestIndex at hindex
  dsimp only at hindex
  rw [Nat.div_one, Nat.one_mul] at hindex
  have hparity := r.index_eq
  have hunits : r.units = divideToEven n (twoTo (n.log2 - 52)) * twoTo (n.log2 - 52) :=
    units_of_index hindex (divideToEven_le hS hplaces) (hfull.imp id (le_divideToEven hS))
  have hmultiple : ∀ k, gap (k * twoTo (n.log2 - 52)) n = gap r.units n →
      k * twoTo (n.log2 - 52) ≠ r.units → r.significand % 2 = 0 := by
    intro k htie hne
    rw [hunits] at htie hne
    have hk : k ≠ divideToEven n (twoTo (n.log2 - 52)) := fun heq => hne (by rw [heq])
    have heven := divideToEven_even hS hk htie
    omega
  rcases units_on_grid q (n.log2 - 52) with ⟨k, hk⟩ | ⟨hs, hbelow⟩
  · rw [hk]
    refine ⟨?_, hmultiple k⟩
    rw [hunits]
    exact gap_divideToEven_le hS k
  · -- the power of two above `q` is a multiple of the quantum and does not exceed `n`
    have hpower := hfull.resolve_left hs
    have hle : gap r.units n ≤ gap (0x10000000000000 * twoTo (n.log2 - 52)) n := by
      rw [hunits]
      exact gap_divideToEven_le hS _
    have hgap : gap (0x10000000000000 * twoTo (n.log2 - 52)) n ≤ gap q.units n := by
      unfold gap
      omega
    refine ⟨Nat.le_trans hle hgap, fun htie hne => ?_⟩
    have heq : q.units = 0x10000000000000 * twoTo (n.log2 - 52) := by
      rw [htie] at hgap
      unfold gap at htie hle hgap
      omega
    rw [heq] at htie hne
    exact hmultiple _ htie hne

/-! ## Widened integers -/

variable {r : Finite64} {i : Int}

theorem natAbs_mul_units (i : Int) :
    i * unitsPerOne = if i < 0 then -((i.natAbs * unitsPerOne : Nat) : Int)
      else (i.natAbs * unitsPerOne : Nat) := by
  rw [Int.natCast_mul]
  split
  · have hi : (i.natAbs : Int) = -i := by omega
    rw [hi, Int.neg_mul, Int.neg_neg]
  · have hi : (i.natAbs : Int) = i := by omega
    rw [hi]

/-- Under the sign of the integer the distance is that of the magnitudes. -/
theorem distance_of_sign (h : r.negative = decide (i < 0)) :
    r.distance i = gap r.units (i.natAbs * unitsPerOne) := by
  unfold distance scaled gap
  rw [natAbs_mul_units, h]
  by_cases hi : i < 0
  · simp only [hi, decide_true, if_true]
    omega
  · simp only [hi, decide_false, if_false, Bool.false_eq_true]
    omega

/-- Under the other sign it is their sum. -/
theorem distance_of_other_sign (h : r.negative ≠ decide (i < 0)) :
    r.distance i = r.units + i.natAbs * unitsPerOne := by
  unfold distance scaled
  rw [natAbs_mul_units]
  by_cases hi : i < 0
  · have hr : r.negative = false := by simpa [hi] using h
    simp only [hi, hr, if_true, if_false, Bool.false_eq_true]
    omega
  · have hr : r.negative = true := by simpa [hi] using h
    simp only [hi, hr, if_true, if_false]
    omega

theorem isNearest_of_index
    (hindex : r.index.val = Binary64.nearestIndex (i.natAbs * unitsPerOne) 1)
    (hsign : r.negative = decide (i < 0)) : r.IsNearest i := by
  have hnear := gap_units_le hindex
  have hr := distance_of_sign hsign
  -- a number of the other sign is no nearer than zero
  have hzero := (hnear zero).1
  rw [units_zero] at hzero
  have hother : ∀ q : Finite64, q.negative ≠ decide (i < 0) →
      gap r.units (i.natAbs * unitsPerOne) ≤ q.distance i := by
    intro q hq
    rw [distance_of_other_sign hq]
    unfold gap at hzero ⊢
    omega
  refine ⟨fun q => ?_, fun q htie hne => ?_, hsign⟩
  · rw [hr]
    by_cases hq : q.negative = decide (i < 0)
    · rw [distance_of_sign hq]
      exact (hnear q).1
    · exact hother q hq
  · rw [hr] at htie
    by_cases hq : q.negative = decide (i < 0)
    · rw [distance_of_sign hq] at htie
      refine (hnear q).2 htie fun heq => hne ?_
      unfold scaled
      rw [heq, hq, hsign]
    · rw [distance_of_other_sign hq] at htie
      have hunits : q.units = 0 := by
        unfold gap at hzero htie
        omega
      refine (hnear q).2 ?_ fun heq => hne ?_
      · rw [hunits] at htie ⊢
        unfold gap at htie ⊢
        omega
      · have hq0 := natAbs_scaled q
        have hr0 := natAbs_scaled r
        omega

end Finite64

namespace Binary64

/-- Within the range of the format an integer is widened to the number nearest to it. -/
theorem ofInt_isNearest {i : Int} (h : ¬ Overflows i.natAbs 1) :
    ∃ r, ofInt i = .finite r ∧ r.IsNearest i := by
  have hindex : nearestIndex (i.natAbs * Finite64.unitsPerOne) 1 < magnitudeCount :=
    Nat.lt_of_not_le fun hle =>
      h (overflows_iff_units.2 ((magnitudeCount_le_nearestIndex Nat.one_pos).1 hle))
  refine ⟨⟨decide (i < 0), ⟨_, hindex⟩⟩, ?_, Finite64.isNearest_of_index rfl rfl⟩
  unfold ofInt nearest ofIndex
  exact dif_pos hindex

theorem not_overflows_of_word {n : Nat} (h : n ≤ 0x10000000000000000) : ¬ Overflows n 1 := by
  have hbound : 0x10000000000000000 < 0x3fffffffffffff * twoTo 970 := by decide +kernel
  unfold Overflows
  omega

theorem ofInt_int64 (i : Int64) : ∃ r, ofInt i.toInt = .finite r ∧ r.IsNearest i.toInt := by
  have hlow := Int64.le_toInt i
  have hhigh := Int64.toInt_lt i
  exact ofInt_isNearest (not_overflows_of_word (by omega))

/-- Widening keeps the order of integers, and widened integers stand on the number line. -/
theorem rank_ofInt_le {i j : Int64} (h : i.toInt ≤ j.toInt) :
    ∃ a b, (ofInt i.toInt).rank? = some a ∧ (ofInt j.toInt).rank? = some b ∧ a ≤ b := by
  obtain ⟨r, hr, hri⟩ := ofInt_int64 i
  obtain ⟨q, hq, hqj⟩ := ofInt_int64 j
  refine ⟨r.rank, q.rank, by rw [hr]; rfl, by rw [hq]; rfl, ?_⟩
  rcases Int.lt_or_eq_of_le h with hlt | heq
  · exact (Finite64.rank_le_rank_iff r q).2 (hri.scaled_le_of_lt hqj hlt)
  · rw [heq] at hri
    exact Int.le_of_eq (congrArg Finite64.rank (hri.unique hqj))

end Binary64

end Verdict

