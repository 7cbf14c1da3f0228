import Verdict.Proofs.Binary64.Exact
import Verdict.Value.Ordering

/-
  Sizes against bounds, without words. The size of a text or a sequence is a natural number
  (`HasSize`), and the bound that a number sets is an integer, however large (`Bounds`): a real
  is cut off toward zero. The evaluator works on signed words, to which it moves a bound that
  does not fit and from which it excludes sizes. Neither is seen in a verdict
  (`relates_clamp_iff`), so below the largest word sizes are compared exactly
  (`compareSize_exact`).
-/
namespace Verdict

/-- Sizes below the largest word stand to a bound as they stand to it moved into the words. -/
theorem relates_clamp_iff {n : Nat} (hn : n < 0x7fffffffffffffff) (q : Relation) (b : Int) :
    q.Relates n (clampInt64 b) ↔ q.Relates n b := by
  unfold clampInt64
  cases q <;> simp only [Relation.Relates] <;> omega

theorem clampInt64_toInt (i : Int64) : clampInt64 i.toInt = i.toInt := by
  have hlow := Int64.le_toInt i
  have hhigh := Int64.toInt_lt i
  unfold clampInt64
  omega

namespace Value

/-- The size of texts is the number of their characters, of sequences that of their items. -/
inductive HasSize : Value → Nat → Prop
  | text (s : String) : HasSize (text s) s.toList.length
  | sequence (items : List Value) : HasSize (sequence items) items.length

/-- The bound of an integer is the integer, of a real its quotient by one toward zero. -/
inductive Bounds : Value → Int → Prop
  | integer (i : Int64) : Bounds (integer i) i.toInt
  | real (r : Finite64) : Bounds (real (.finite r)) (r.scaled.tdiv Finite64.unitsPerOne)

variable {v w : Value} {n : Nat} {b : Int}

theorem HasSize.size? (h : v.HasSize n) : v.size? = some n := by
  cases h with
  | text s => exact congrArg some String.length_toList.symm
  | sequence items => rfl

theorem Bounds.sizeBound? (h : w.Bounds b) : w.sizeBound? = some (clampInt64 b) := by
  cases h with
  | integer i => exact congrArg some (clampInt64_toInt i).symm
  | real r => rw [Value.sizeBound?, Finite64.truncate_eq_tdiv]

theorem sizeBound?_eq_none
    (h : w.isNumeric = false ∨ ∃ x, w = real x ∧ x.isFinite = false) : w.sizeBound? = none := by
  rcases h with h | ⟨x, rfl, hx⟩
  · cases w <;> simp_all [Value.sizeBound?, isNumeric, kind, Kind.isNumeric]
  · cases x <;> simp_all [Value.sizeBound?, Binary64.isFinite]

/-! ## Verdicts -/

theorem compareSize_iff (hv : v.HasSize n) (hn : n < 0x7fffffffffffffff) (hw : w.Bounds b)
    (q : Relation) : compareSize q v w = true ↔ q.Relates n b := by
  have hword : sizeWord? n = some (n : Int) := if_pos (by omega)
  have horder : sizeOrdering v w = some (compare (n : Int) (clampInt64 b)) := by
    unfold sizeOrdering
    rw [hv.size?, hw.sizeBound?, Option.bind_some, hword]
  unfold compareSize
  rw [horder, Relation.holdsFor_some, Relation.holds_compare_iff]
  exact relates_clamp_iff hn q b

/-- Between minus one and one nothing is left of a real. -/
theorem sizeBound?_of_fraction {r : Finite64} (hlow : -(Finite64.unitsPerOne : Int) < r.scaled)
    (hhigh : r.scaled < Finite64.unitsPerOne) :
    (real (.finite r)).sizeBound? = (integer 0).sizeBound? := by
  have hzero : r.scaled.tdiv Finite64.unitsPerOne = 0 := by
    rw [← Int.natAbs_eq_zero, Int.natAbs_tdiv]
    exact Nat.div_eq_of_lt (by omega)
  rw [(Bounds.real r).sizeBound?, hzero]
  rfl

theorem compareSize_eq_false
    (h : v.kind.isSized = false ∨ w.isNumeric = false ∨ ∃ x, w = real x ∧ x.isFinite = false)
    (q : Relation) : compareSize q v w = false := by
  have horder : sizeOrdering v w = none := by
    rcases h with hv | hw
    · exact sizeOrdering_eq_none hv
    · unfold sizeOrdering
      rw [sizeBound?_eq_none hw]
      cases v.size?.bind sizeWord? <;> rfl
  unfold compareSize
  rw [horder, Relation.holdsFor_none]

/-- A size below the largest word stands in a relation to a bound exactly if the two integers do,
wherever the bound lies, and a real between minus one and one is the bound zero. No relation holds
of a left operand without a size, nor of a right one that is no finite number. -/
theorem compareSize_exact :
    (∀ (q : Relation) (v w : Value) (n : Nat) (b : Int), v.HasSize n → n < 0x7fffffffffffffff →
      w.Bounds b → (compareSize q v w = true ↔ q.Relates n b)) ∧
    (∀ (q : Relation) (v : Value) (r : Finite64), -(Finite64.unitsPerOne : Int) < r.scaled →
      r.scaled < Finite64.unitsPerOne →
      compareSize q v (real (.finite r)) = compareSize q v (integer 0)) ∧
    ∀ (q : Relation) (v w : Value),
      v.kind.isSized = false ∨ w.isNumeric = false ∨ (∃ x, w = real x ∧ x.isFinite = false) →
      compareSize q v w = false := by
  refine ⟨fun q v w n b hv hn hw => compareSize_iff hv hn hw q, fun q v r hlow hhigh => ?_,
    fun q v w h => compareSize_eq_false h q⟩
  unfold compareSize sizeOrdering
  rw [sizeBound?_of_fraction hlow hhigh]

/-- The least of all finite numbers, a negative half and the negative infinity as bounds. -/
theorem compareSize_exact_negative :
    let r : Finite64 := ⟨true, ⟨magnitudeCount - 1, by decide⟩⟩
    let half : Finite64 := ⟨true, ⟨1022 * 0x10000000000000, by decide⟩⟩
    (compareSize .greater (text "abc") (real (.finite r)) = true ↔
      Relation.greater.Relates 3 (r.scaled.tdiv Finite64.unitsPerOne)) ∧
    compareSize .equal (text "") (real (.finite half)) = compareSize .equal (text "") (integer 0) ∧
    compareSize .greaterOrEqual (text "abc") (real (.infinite true)) = false := by
  intro r half
  have hlow : -(Finite64.unitsPerOne : Int) < half.scaled := by decide +kernel
  have hhigh : half.scaled < Finite64.unitsPerOne := by decide +kernel
  exact ⟨compareSize_exact.1 _ _ _ _ _ (.text "abc") (by decide) (.real r),
    compareSize_exact.2.1 _ _ half hlow hhigh,
    compareSize_exact.2.2 _ _ _ (Or.inr (Or.inr ⟨_, rfl, rfl⟩))⟩

end Value

end Verdict
