/-
  Powers of two and of ten, which scale the places of binary and of decimal notation.
  `tenTo_le_twoTo` and `twoTo_le_tenTo` compare them by their exponents, and `log2_eq` reads the
  number of binary places off two powers of two.
-/
namespace Verdict

/-- `2 ^ n`. -/
def twoTo (n : Nat) : Nat := Nat.pow 2 n

/-- `10 ^ n`. -/
def tenTo (n : Nat) : Nat := Nat.pow 10 n

theorem twoTo_succ (n : Nat) : twoTo (n + 1) = 2 * twoTo n := Nat.mul_comm (Nat.pow 2 n) 2

theorem tenTo_zero : tenTo 0 = 1 := rfl

theorem tenTo_succ (n : Nat) : tenTo (n + 1) = 10 * tenTo n := Nat.mul_comm (Nat.pow 10 n) 10

theorem twoTo_pos (n : Nat) : 0 < twoTo n := by
  induction n with
  | zero => decide
  | succ n ih => rw [twoTo_succ]; omega

theorem tenTo_pos (n : Nat) : 0 < tenTo n := by
  induction n with
  | zero => decide
  | succ n ih => rw [tenTo_succ]; omega

theorem twoTo_add (m n : Nat) : twoTo (m + n) = twoTo m * twoTo n := Nat.pow_add 2 m n

/-- So many places more are a constant factor. -/
theorem twoTo_add_eq_mul (n k c : Nat) (h : twoTo k = c) : twoTo (n + k) = c * twoTo n := by
  rw [Nat.add_comm, twoTo_add, h]

theorem tenTo_add (m n : Nat) : tenTo (m + n) = tenTo m * tenTo n := Nat.pow_add 10 m n

theorem four_mul_twoTo (n : Nat) : 4 * twoTo n = twoTo (n + 2) := by
  rw [twoTo_succ, twoTo_succ, ← Nat.mul_assoc]

theorem twoTo_le {m n : Nat} (h : m ≤ n) : twoTo m ≤ twoTo n := Nat.pow_le_pow_right (by decide) h

theorem tenTo_le {m n : Nat} (h : m ≤ n) : tenTo m ≤ tenTo n := Nat.pow_le_pow_right (by decide) h

/-! ## Powers of two against powers of ten -/

/-- Ten binary places are more than three decimal ones. -/
theorem tenTo_le_twoTo {m n : Nat} (h : 10 * m ≤ 3 * n) : tenTo m ≤ twoTo n := by
  apply (Nat.pow_le_pow_iff_left (n := 3) (by decide)).1
  calc
    Nat.pow (tenTo m) 3 = tenTo (m * 3) := (Nat.pow_mul 10 m 3).symm
    _ = tenTo (3 * m) := by rw [Nat.mul_comm]
    _ = Nat.pow (tenTo 3) m := Nat.pow_mul 10 3 m
    _ ≤ Nat.pow (twoTo 10) m := Nat.pow_le_pow_left (by decide) m
    _ = twoTo (10 * m) := (Nat.pow_mul 2 10 m).symm
    _ ≤ twoTo (n * 3) := twoTo_le (by omega)
    _ = Nat.pow (twoTo n) 3 := Nat.pow_mul 2 n 3

/-- Ninety-three binary places are less than twenty-eight decimal ones. -/
theorem twoTo_le_tenTo {m n : Nat} (h : 28 * m ≤ 93 * n) : twoTo m ≤ tenTo n := by
  apply (Nat.pow_le_pow_iff_left (n := 28) (by decide)).1
  calc
    Nat.pow (twoTo m) 28 = twoTo (m * 28) := (Nat.pow_mul 2 m 28).symm
    _ ≤ twoTo (93 * n) := twoTo_le (by omega)
    _ = Nat.pow (twoTo 93) n := Nat.pow_mul 2 93 n
    _ ≤ Nat.pow (tenTo 28) n := Nat.pow_le_pow_left (by decide) n
    _ = tenTo (28 * n) := (Nat.pow_mul 10 28 n).symm
    _ = tenTo (n * 28) := by rw [Nat.mul_comm]
    _ = Nat.pow (tenTo n) 28 := Nat.pow_mul 10 n 28

/-! ## Binary places -/

theorem log2_lt_iff {n k : Nat} (h : n ≠ 0) : n.log2 < k ↔ n < twoTo k := Nat.log2_lt h

theorem log2_eq {n k : Nat} (hlow : twoTo k ≤ n) (hhigh : n < twoTo (k + 1)) : n.log2 = k := by
  have hn : n ≠ 0 := Nat.ne_of_gt (Nat.lt_of_lt_of_le (twoTo_pos k) hlow)
  have h1 : ¬ n.log2 < k := fun h => Nat.not_lt.2 hlow ((log2_lt_iff hn).1 h)
  have h2 : n.log2 < k + 1 := (log2_lt_iff hn).2 hhigh
  omega

end Verdict
