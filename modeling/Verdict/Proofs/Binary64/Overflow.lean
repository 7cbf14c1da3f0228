import Verdict.Proofs.Decimal.Shortest

/-
  Ratios beyond the largest number. The middle between the largest finite number and the power of
  two behind it is a tie, which goes to the power of two, so it is the least ratio that is rounded
  to an infinity (`Overflows`). `magnitudeCount_le_nearestIndex` compares the binary places of a
  ratio with those of the largest number, and `ofDecimal_overflows` and `ofDecimal_fits` are the
  statements on decimals, however far their exponents lie beyond the format.
-/
namespace Verdict

/-! ## Rounded quotients against whole numbers -/

theorem divideToEven_le {n d m : Nat} (hd : 0 < d) (h : n ≤ m * d) : divideToEven n d ≤ m := by
  have hnear := (divideToEven_near n d hd).2
  refine Nat.le_of_not_lt fun hlt => ?_
  have hmul : (m + 1) * d ≤ divideToEven n d * d := Nat.mul_le_mul_right d hlt
  rw [Nat.add_mul] at hmul
  omega

theorem le_divideToEven {n d m : Nat} (hd : 0 < d) (h : m * d ≤ n) : m ≤ divideToEven n d := by
  have hnear := (divideToEven_near n d hd).1
  refine Nat.le_of_not_lt fun hlt => ?_
  have hmul : (divideToEven n d + 1) * d ≤ m * d := Nat.mul_le_mul_right d hlt
  rw [Nat.add_mul] at hmul
  omega

/-- An even number is reached from the half below it. -/
theorem le_divideToEven_iff {n d m : Nat} (hd : 0 < d) (hm : m % 2 = 0) :
    m ≤ divideToEven n d ↔ 2 * (m * d) ≤ 2 * n + d := by
  obtain ⟨hhigh, hlow⟩ := divideToEven_near n d hd
  constructor
  · intro h
    have hmul : m * d ≤ divideToEven n d * d := Nat.mul_le_mul_right d h
    omega
  · intro h
    rcases Nat.le_total (2 * n) (2 * (m * d) + d) with hn | hn
    · exact Nat.le_of_eq (divideToEven_eq hd hn h fun hodd => by omega).symm
    · exact le_divideToEven hd (by omega)

namespace Binary64

/-! ## Ratios -/

/-- The ratio is not below the middle between the largest number and the power of two behind
it. -/
def Overflows (n d : Nat) : Prop := 0x3fffffffffffff * twoTo 970 * d ≤ n

instance (n d : Nat) : Decidable (Overflows n d) := Nat.decLe _ _

theorem overflows_iff_units {n d : Nat} :
    Overflows n d ↔ 0x3fffffffffffff * twoTo 2044 * d ≤ n * Finite64.unitsPerOne := by
  have hsum : 2044 = 970 + 1074 := rfl
  unfold Finite64.unitsPerOne
  rw [hsum, twoTo_add, ← Nat.mul_assoc, Nat.mul_right_comm]
  exact (Nat.mul_le_mul_right_iff (twoTo_pos 1074)).symm

/-- The ratio has fewer binary places than the largest number. -/
theorem nearestIndex_of_short {n d : Nat} (hd : 0 < d) (h : n / d < twoTo 2097) :
    nearestIndex n d < magnitudeCount := by
  have hplaces : n / d < twoTo ((n / d).log2 - 52 + 53) := by
    rcases Nat.eq_zero_or_pos (n / d) with h0 | h0
    · rw [h0]
      exact twoTo_pos _
    · exact (log2_lt_iff (Nat.ne_of_gt h0)).1 (by omega)
  have hshift : (n / d).log2 - 52 ≤ 2044 := by
    rcases Nat.eq_zero_or_pos (n / d) with h0 | h0
    · rw [h0]
      decide
    · have := (log2_lt_iff (Nat.ne_of_gt h0)).2 h
      omega
  unfold nearestIndex
  generalize (n / d).log2 - 52 = shift at hplaces hshift
  have hE : 0 < d * twoTo shift := Nat.mul_pos hd (twoTo_pos _)
  have hn : n ≤ 0x20000000000000 * (d * twoTo shift) := by
    have hlt := (Nat.div_lt_iff_lt_mul hd).1 hplaces
    rw [twoTo_add_eq_mul shift 53 0x20000000000000 rfl, Nat.mul_assoc,
      Nat.mul_comm (twoTo shift)] at hlt
    exact Nat.le_of_lt hlt
  have hround := divideToEven_le hE hn
  unfold magnitudeCount
  dsimp only
  omega

/-- The ratio has more binary places than the largest number. -/
theorem nearestIndex_of_long {n d : Nat} (hd : 0 < d) (h : twoTo 2098 ≤ n / d) :
    magnitudeCount ≤ nearestIndex n d := by
  have h0 : n / d ≠ 0 := Nat.ne_of_gt (Nat.lt_of_lt_of_le (twoTo_pos _) h)
  have hshift : 2046 ≤ (n / d).log2 - 52 := by
    have hlog : ¬ (n / d).log2 < 2098 := fun hlt => Nat.not_lt.2 h ((log2_lt_iff h0).1 hlt)
    omega
  have hplaces : twoTo ((n / d).log2 - 52 + 52) ≤ n / d :=
    Nat.le_of_not_lt fun hlt => by
      have := (log2_lt_iff h0).2 hlt
      omega
  unfold nearestIndex
  generalize (n / d).log2 - 52 = shift at hplaces hshift
  have hE : 0 < d * twoTo shift := Nat.mul_pos hd (twoTo_pos _)
  have hn : 0x10000000000000 * (d * twoTo shift) ≤ n := by
    have hle := (Nat.le_div_iff_mul_le hd).1 hplaces
    rw [twoTo_add_eq_mul shift 52 0x10000000000000 rfl, Nat.mul_assoc,
      Nat.mul_comm (twoTo shift)] at hle
    exact hle
  have hround := le_divideToEven hE hn
  unfold magnitudeCount
  dsimp only
  omega

/-- A ratio with the places of the largest number is rounded past it from the middle on. -/
theorem nearestIndex_of_even {n d : Nat} (hd : 0 < d) (hlow : twoTo 2097 ≤ n / d)
    (hhigh : n / d < twoTo 2098) :
    magnitudeCount ≤ nearestIndex n d ↔ 0x3fffffffffffff * twoTo 2044 * d ≤ n := by
  have hE : 0 < d * twoTo 2045 := Nat.mul_pos hd (twoTo_pos _)
  have hround := le_divideToEven_iff (n := n) (m := 0x20000000000000) hE (by decide)
  have hdouble : d * twoTo 2045 = 2 * (twoTo 2044 * d) := by
    rw [twoTo_succ 2044, Nat.mul_comm, Nat.mul_assoc]
  unfold nearestIndex
  rw [log2_eq hlow hhigh]
  unfold magnitudeCount
  dsimp only
  rw [hdouble] at hround ⊢
  rw [Nat.mul_assoc]
  generalize twoTo 2044 * d = x at hround ⊢
  generalize divideToEven n (2 * x) = m at hround ⊢
  omega

theorem magnitudeCount_le_nearestIndex {n d : Nat} (hd : 0 < d) :
    magnitudeCount ≤ nearestIndex n d ↔ 0x3fffffffffffff * twoTo 2044 * d ≤ n := by
  have h53 : twoTo 2097 = 0x20000000000000 * twoTo 2044 :=
    twoTo_add_eq_mul 2044 53 _ rfl
  have h54 : twoTo 2098 = 2 * twoTo 2097 := twoTo_succ 2097
  rcases Nat.lt_or_ge (n / d) (twoTo 2097) with hshort | hshort
  · have hn := (Nat.div_lt_iff_lt_mul hd).1 hshort
    rw [h53, Nat.mul_assoc] at hn
    rw [Nat.mul_assoc]
    have := nearestIndex_of_short hd hshort
    omega
  · rcases Nat.lt_or_ge (n / d) (twoTo 2098) with hlong | hlong
    · exact nearestIndex_of_even hd hshort hlong
    · have hn := (Nat.le_div_iff_mul_le hd).1 hlong
      rw [h54, h53, Nat.mul_assoc, Nat.mul_assoc] at hn
      rw [Nat.mul_assoc]
      have := nearestIndex_of_long hd hlong
      omega

theorem nearest_overflows {n d : Nat} (negative : Bool) (hd : 0 < d) (h : Overflows n d) :
    nearest negative n d = .infinite negative := by
  have hindex := (magnitudeCount_le_nearestIndex hd).2 (overflows_iff_units.1 h)
  unfold nearest ofIndex
  exact dif_neg (Nat.not_lt.2 hindex)

theorem nearest_fits {n d : Nat} (negative : Bool) (hd : 0 < d) (h : ¬ Overflows n d) :
    ∃ r, nearest negative n d = .finite r := by
  have hindex : nearestIndex (n * Finite64.unitsPerOne) d < magnitudeCount :=
    Nat.lt_of_not_le fun hle =>
      h (overflows_iff_units.2 ((magnitudeCount_le_nearestIndex hd).1 hle))
  unfold nearest ofIndex
  exact ⟨_, dif_pos hindex⟩

/-! ## Decimals -/

/-- The ratio that a decimal is overflows. -/
def DecimalOverflows (digits : Nat) (exponent : Int) : Prop :=
  Overflows (digits * tenTo exponent.toNat) (tenTo (-exponent).toNat)

instance (digits : Nat) (exponent : Int) : Decidable (DecimalOverflows digits exponent) :=
  inferInstanceAs (Decidable (Overflows _ _))

theorem tenTo_309_overflows {n d : Nat} (h : tenTo 309 * d ≤ n) : Overflows n d := by
  have hbound : 0x3fffffffffffff * twoTo 970 ≤ tenTo 309 := by decide +kernel
  exact Nat.le_trans (Nat.mul_le_mul_right d hbound) h

/-- A decimal with places beyond those of the format overflows. -/
theorem overflows_of_places {digits : Nat} {exponent : Int} (hdigits : digits ≠ 0)
    (h : 310 < ((Nat.toDigits 10 digits).length : Int) + exponent) :
    DecimalOverflows digits exponent := by
  have hlen : 0 < (Nat.toDigits 10 digits).length := Nat.length_toDigits_pos
  apply tenTo_309_overflows
  calc
    tenTo 309 * tenTo (-exponent).toNat = tenTo (309 + (-exponent).toNat) := (tenTo_add _ _).symm
    _ ≤ tenTo ((Nat.toDigits 10 digits).length - 1 + exponent.toNat) := tenTo_le (by omega)
    _ = tenTo ((Nat.toDigits 10 digits).length - 1) * tenTo exponent.toNat := tenTo_add _ _
    _ ≤ digits * tenTo exponent.toNat :=
      Nat.mul_le_mul_right _ (Decimal.pow_le_of_places (Nat.pos_of_ne_zero hdigits))

/-- A decimal below one does not overflow. -/
theorem not_overflows_of_places {digits : Nat} {exponent : Int}
    (h : ((Nat.toDigits 10 digits).length : Int) + exponent ≤ 0) :
    ¬ DecimalOverflows digits exponent := by
  have hsmall : digits * tenTo exponent.toNat < tenTo (-exponent).toNat := by
    calc
      digits * tenTo exponent.toNat <
          tenTo (Nat.toDigits 10 digits).length * tenTo exponent.toNat :=
        Nat.mul_lt_mul_of_pos_right (Decimal.lt_pow_of_places digits) (tenTo_pos _)
      _ = tenTo ((Nat.toDigits 10 digits).length + exponent.toNat) := (tenTo_add _ _).symm
      _ ≤ tenTo (-exponent).toNat := tenTo_le (by omega)
  have hone : 1 ≤ 0x3fffffffffffff * twoTo 970 := Nat.mul_pos (by decide) (twoTo_pos 970)
  intro hover
  have hle : 1 * tenTo (-exponent).toNat ≤ 0x3fffffffffffff * twoTo 970 * tenTo (-exponent).toNat :=
    Nat.mul_le_mul_right _ hone
  unfold DecimalOverflows Overflows at hover
  omega

theorem ofDecimal_overflows {digits : Nat} {exponent : Int} (negative : Bool)
    (h : DecimalOverflows digits exponent) :
    ofDecimal negative digits exponent = .infinite negative := by
  have hdigits : digits ≠ 0 := by
    rintro rfl
    have hpos : 0 < 0x3fffffffffffff * twoTo 970 * tenTo (-exponent).toNat :=
      Nat.mul_pos (Nat.mul_pos (by decide) (twoTo_pos 970)) (tenTo_pos _)
    unfold DecimalOverflows Overflows at h
    omega
  have hplaces : 0 < ((Nat.toDigits 10 digits).length : Int) + exponent :=
    Int.lt_of_not_ge fun hle => not_overflows_of_places hle h
  by_cases hbeyond : 310 < ((Nat.toDigits 10 digits).length : Int) + exponent
  · unfold ofDecimal
    dsimp only
    rw [if_neg hdigits, if_pos hbeyond]
  · rw [ofDecimal_eq_nearest negative hdigits (by omega) (by omega)]
    exact nearest_overflows negative (tenTo_pos _) h

theorem ofDecimal_fits {digits : Nat} {exponent : Int} (negative : Bool)
    (h : ¬ DecimalOverflows digits exponent) :
    ∃ r, ofDecimal negative digits exponent = .finite r := by
  have hzero : ∃ r, ofIndex negative 0 = .finite r := ⟨_, dif_pos (by decide)⟩
  by_cases hdigits : digits = 0
  · unfold ofDecimal
    dsimp only
    rw [if_pos hdigits]
    exact hzero
  · have hplaces : ¬ 310 < ((Nat.toDigits 10 digits).length : Int) + exponent :=
      fun hbeyond => h (overflows_of_places hdigits hbeyond)
    by_cases hsmall : ((Nat.toDigits 10 digits).length : Int) + exponent < -330
    · unfold ofDecimal
      dsimp only
      rw [if_neg hdigits, if_neg hplaces, if_pos hsmall]
      exact hzero
    · rw [ofDecimal_eq_nearest negative hdigits (by omega) (by omega)]
      exact nearest_fits negative (tenTo_pos _) h

end Binary64

end Verdict
