import Mathlib.Data.List.Chain
import Verdict.Proofs.Binary64.Widening
import Verdict.Registry.Resolve
import Verdict.Value.Ordering

/-
  Order among numbers of both kinds. Two operands have an order exactly if both are numbers
  (`exists_numericOrdering_iff`), and it is the same read from either side
  (`numericOrdering_swap`), so the five relations fit together (`order_consistent`).

  They are no total preorder: integers are compared exactly with each other but widened against a
  real, and integers that differ may stand at one place of the real line (`place?`). What holds
  across the kinds goes through that place. A number is less than another if its place is, or if
  both are integers of one place and it is the lesser of them (`below_iff`). Hence `less` is a
  strict order without cycles, and weak steps can be joined to it (`less_strict_order`).
-/
namespace Verdict

namespace Relation

/-- The relations of which one excludes the others. -/
def exclusive : List Relation := [less, equal, greater]

theorem exists_holds_iff (o : Ordering) :
    ∃ q ∈ exclusive, ∀ r ∈ exclusive, (r.holds o = true ↔ r = q) := by
  cases o <;> decide

end Relation

namespace Value

/-! ## Numbers -/

/-- The value is numeric and is not NaN. -/
def IsNumber (v : Value) : Prop := v.isNumeric = true ∧ v ≠ real .nan

/-- The place of a number on the real line, to which integers are widened. -/
def place? (v : Value) : Option Int := v.real?.bind Binary64.rank?

theorem place?_of_real? {v : Value} {x : Binary64} (h : v.real? = some x) :
    v.place? = x.rank? := by
  unfold place?
  rw [h, Option.bind_some]

theorem exists_place_iff (v : Value) : (∃ x, v.place? = some x) ↔ v.IsNumber := by
  unfold IsNumber
  cases hv : v.real? with
  | none =>
    have hplace : v.place? = none := by
      unfold place?
      rw [hv, Option.bind_none]
    simp [hplace, (real?_eq_none_iff v).1 hv]
  | some x =>
    have hnumeric : v.isNumeric = true := by
      rw [← Bool.not_eq_false, ← real?_eq_none_iff, hv]
      exact Option.some_ne_none x
    rw [place?_of_real? hv]
    obtain rfl | ⟨i, rfl, rfl⟩ := (real?_eq_some_iff v x).1 hv
    · cases x <;> simp [Binary64.rank?, hnumeric]
    · obtain ⟨r, hr, -⟩ := Binary64.ofInt_int64 i
      rw [hr]
      exact ⟨fun _ => ⟨rfl, Value.noConfusion⟩, fun _ => ⟨r.rank, rfl⟩⟩

variable {u v w : Value}

/-! ## The order of two operands -/

theorem integers_or_real (v w : Value) :
    (∃ i j, v = integer i ∧ w = integer j) ∨ v.integer? = none ∨ w.integer? = none := by
  cases v with
  | integer i => cases w <;> simp [integer?]
  | _ => exact Or.inr (Or.inl rfl)

/-- With a real among the operands they are compared as reals. -/
theorem numericOrdering_of_real (h : v.integer? = none ∨ w.integer? = none) :
    numericOrdering v w = v.real?.bind fun x => w.real?.bind fun y => x.compare? y := by
  cases hv : v.real? with
  | none => exact numericOrdering_eq_none (Or.inl ((real?_eq_none_iff v).1 hv))
  | some x =>
    cases hw : w.real? with
    | none => exact numericOrdering_eq_none (Or.inr ((real?_eq_none_iff w).1 hw))
    | some y =>
      rw [Option.bind_some, Option.bind_some]
      obtain rfl | ⟨i, rfl, rfl⟩ := (real?_eq_some_iff v x).1 hv
      · obtain rfl | ⟨j, rfl, rfl⟩ := (real?_eq_some_iff w y).1 hw
        · rfl
        · rfl
      · obtain rfl | ⟨j, rfl, rfl⟩ := (real?_eq_some_iff w y).1 hw
        · rfl
        · simp [integer?] at h

/-- Read from the other side the order is turned round. -/
theorem numericOrdering_swap (v w : Value) :
    numericOrdering w v = (numericOrdering v w).map Ordering.swap := by
  obtain ⟨i, j, rfl, rfl⟩ | h := integers_or_real v w
  · exact congrArg some (Int.compare_swap i.toInt j.toInt).symm
  · rw [numericOrdering_of_real h, numericOrdering_of_real h.symm]
    cases v.real? with
    | none => cases w.real? <;> rfl
    | some x =>
      cases w.real? with
      | none => rfl
      | some y => exact Binary64.compare?_swap x y

theorem numericOrdering_eq_some_iff (h : v.integer? = none ∨ w.integer? = none) (o : Ordering) :
    numericOrdering v w = some o ↔
      ∃ x y, v.place? = some x ∧ w.place? = some y ∧ compare x y = o := by
  rw [numericOrdering_of_real h]
  unfold place?
  cases v.real? with
  | none => simp
  | some x =>
    cases w.real? with
    | none => simp
    | some y => exact Binary64.compare?_eq_some_iff x y o

theorem exists_numericOrdering_iff (v w : Value) :
    (∃ o, numericOrdering v w = some o) ↔ v.IsNumber ∧ w.IsNumber := by
  obtain ⟨i, j, rfl, rfl⟩ | h := integers_or_real v w
  · exact ⟨fun _ => ⟨⟨rfl, Value.noConfusion⟩, ⟨rfl, Value.noConfusion⟩⟩, fun _ => ⟨_, rfl⟩⟩
  · rw [← exists_place_iff, ← exists_place_iff]
    constructor
    · intro ⟨o, ho⟩
      obtain ⟨x, y, hx, hy, -⟩ := (numericOrdering_eq_some_iff h o).1 ho
      exact ⟨⟨x, hx⟩, ⟨y, hy⟩⟩
    · intro ⟨⟨x, hx⟩, ⟨y, hy⟩⟩
      exact ⟨compare x y, (numericOrdering_eq_some_iff h _).2 ⟨x, y, hx, hy, rfl⟩⟩

/-! ## The five relations -/

theorem compareNumbers_of_not_numbers (h : ¬ (v.IsNumber ∧ w.IsNumber)) (q : Relation) :
    compareNumbers q v w = false := by
  rw [← Bool.not_eq_true, compareNumbers_eq_true_iff]
  intro ⟨o, ho, _⟩
  exact h ((exists_numericOrdering_iff v w).1 ⟨o, ho⟩)

theorem compareNumbers_swap (q : Relation) (v w : Value) :
    compareNumbers q.swap w v = compareNumbers q v w := by
  unfold compareNumbers
  rw [numericOrdering_swap v w]
  cases numericOrdering v w with
  | none => rfl
  | some o => exact Relation.holds_swap q o

/-- Between numbers the weak relation is that the strict one does not hold the other way. -/
theorem lessOrEqual_iff (v w : Value) :
    compareNumbers .lessOrEqual v w = true ↔
      (v.IsNumber ∧ w.IsNumber) ∧ ¬ compareNumbers .less w v = true := by
  by_cases h : v.IsNumber ∧ w.IsNumber
  · obtain ⟨o, ho⟩ := (exists_numericOrdering_iff v w).2 h
    have hswap := compareNumbers_swap .greater v w
    unfold Relation.swap at hswap
    rw [hswap, compareNumbers_of_ordering ho, compareNumbers_of_ordering ho]
    cases o <;> simp [h, Relation.holds]
  · simp [compareNumbers_of_not_numbers h, h]

/-- A relation and its opposite are each other's negation between numbers, and only there. -/
theorem not_compareNumbers_iff {q q' : Relation} (h : ∀ o, q'.holds o = !q.holds o)
    (v w : Value) :
    (!compareNumbers q v w) = compareNumbers q' v w ↔ v.IsNumber ∧ w.IsNumber := by
  by_cases hn : v.IsNumber ∧ w.IsNumber
  · obtain ⟨o, ho⟩ := (exists_numericOrdering_iff v w).2 hn
    rw [compareNumbers_of_ordering ho, compareNumbers_of_ordering ho, h]
    exact iff_of_true rfl hn
  · rw [compareNumbers_of_not_numbers hn, compareNumbers_of_not_numbers hn]
    exact iff_of_false Bool.noConfusion hn

theorem compareNumbers_integers_iff (q : Relation) (i j : Int64) :
    compareNumbers q (integer i) (integer j) = true ↔ q.Relates i.toInt j.toInt :=
  Relation.holds_compare_iff q i.toInt j.toInt

theorem equal_eq_equals (hkind : v.kind = w.kind) (hv : v.isNumeric = true) :
    compareNumbers .equal v w = v.equals w := by
  cases v with
  | integer i =>
    cases w with
    | integer j =>
      rw [Bool.eq_iff_iff, compareNumbers_integers_iff, equals, beq_iff_eq]
      exact Int64.toInt_inj
    | _ => cases hkind
  | real r =>
    cases w with
    | real q =>
      show Relation.equal.holdsFor (r.compare? q) = (r.compare? q == some .eq)
      cases r.compare? q with
      | none => rfl
      | some o => cases o <;> rfl
    | _ => cases hkind
  | _ => cases hv

/-! ## Operators as they are written -/

theorem resolveText_suffix (q : Relation) :
    Registry.standard.resolveText q.suffix = .ok (.order q) := by cases q <;> rfl

theorem resolveText_not_suffix (q : Relation) :
    Registry.standard.resolveText ("not:" ++ q.suffix) = .ok (.not (.order q)) := by
  have hsegments : Expr.segments ("not:" ++ q.suffix) = ("not", [q.suffix]) := by
    cases q <;> decide +kernel
  have hparse : Expr.parse ("not:" ++ q.suffix) = .ok (.not (.named q.suffix)) := by
    unfold Expr.parse
    rw [hsegments]
    cases q <;> rfl
  unfold Registry.resolveText
  rw [hparse]
  cases q <;> rfl

/-- Where a negated operator agrees with another one. -/
theorem evaluate_not_eq_iff {q q' : Relation} (h : ∀ o, q'.holds o = !q.holds o) (v w : Value) :
    Registry.standard.evaluate ("not:" ++ q.suffix) v w =
      Registry.standard.evaluate q'.suffix v w ↔ v.IsNumber ∧ w.IsNumber := by
  unfold Registry.evaluate
  rw [resolveText_not_suffix, resolveText_suffix, ← not_compareNumbers_iff h]
  show (.ok (!compareNumbers q v w) : Except RegistryError Bool) =
    .ok (compareNumbers q' v w) ↔ _
  rw [Except.ok.injEq]

/-- Both operands are numbers and one relation of three holds of them, from which the weak ones
follow, or no relation holds. Relations can be read from the other side, the operators that negate
a strict relation agree with the opposite one between numbers and nowhere else, and among numbers
of one kind `equal` is equality. -/
theorem order_consistent :
    (∀ v w : Value,
      (v.IsNumber ∧ w.IsNumber) ∧
        (∃ q ∈ Relation.exclusive, ∀ r ∈ Relation.exclusive,
          (compareNumbers r v w = true ↔ r = q)) ∧
        (compareNumbers .lessOrEqual v w = true ↔
          compareNumbers .less v w = true ∨ compareNumbers .equal v w = true) ∧
        (compareNumbers .greaterOrEqual v w = true ↔
          compareNumbers .greater v w = true ∨ compareNumbers .equal v w = true) ∨
      ¬ (v.IsNumber ∧ w.IsNumber) ∧ ∀ q, compareNumbers q v w = false) ∧
    (∀ (q : Relation) (v w : Value), compareNumbers q.swap w v = compareNumbers q v w) ∧
    (∀ v w : Value,
      (Registry.standard.evaluate "not:lt" v w = Registry.standard.evaluate "ge" v w ↔
        v.IsNumber ∧ w.IsNumber) ∧
      (Registry.standard.evaluate "not:gt" v w = Registry.standard.evaluate "le" v w ↔
        v.IsNumber ∧ w.IsNumber)) ∧
    ∀ v w : Value, v.kind = w.kind → v.isNumeric = true →
      compareNumbers .equal v w = v.equals w := by
  have hless : ∀ o, Relation.greaterOrEqual.holds o = !Relation.less.holds o := by decide
  have hgreater : ∀ o, Relation.lessOrEqual.holds o = !Relation.greater.holds o := by decide
  refine ⟨fun v w => ?_, compareNumbers_swap,
    fun v w => ⟨evaluate_not_eq_iff hless v w, evaluate_not_eq_iff hgreater v w⟩,
    fun _ _ => equal_eq_equals⟩
  by_cases h : v.IsNumber ∧ w.IsNumber
  · obtain ⟨o, ho⟩ := (exists_numericOrdering_iff v w).2 h
    obtain ⟨q, hq, honly⟩ := Relation.exists_holds_iff o
    refine Or.inl ⟨h, ⟨q, hq, fun r hr => ?_⟩, ?_, ?_⟩
    · rw [compareNumbers_of_ordering ho]
      exact honly r hr
    · simp only [compareNumbers_of_ordering ho]
      rw [Relation.lessOrEqual_holds, Bool.or_eq_true]
    · simp only [compareNumbers_of_ordering ho]
      rw [Relation.greaterOrEqual_holds, Bool.or_eq_true]
  · exact Or.inr ⟨h, compareNumbers_of_not_numbers h⟩

/-- The two zeros are equal as numbers and as values. -/
theorem order_consistent_zeros :
    (real .zero).kind = (real (.finite ⟨true, Finite64.zero.index⟩)).kind ∧
    (real .zero).isNumeric = true ∧
    compareNumbers .equal (real .zero) (real (.finite ⟨true, Finite64.zero.index⟩)) =
      (real .zero).equals (real (.finite ⟨true, Finite64.zero.index⟩)) ∧
    (real .zero).equals (real (.finite ⟨true, Finite64.zero.index⟩)) = true :=
  ⟨rfl, rfl, order_consistent.2.2.2 _ _ rfl rfl, by decide⟩

/-! ## The strict order -/

theorem compareNumbers_places_iff (h : v.integer? = none ∨ w.integer? = none) (q : Relation) :
    compareNumbers q v w = true ↔
      ∃ x y, v.place? = some x ∧ w.place? = some y ∧ q.Relates x y := by
  rw [compareNumbers_eq_true_iff]
  constructor
  · intro ⟨o, ho, hq⟩
    obtain ⟨x, y, hx, hy, rfl⟩ := (numericOrdering_eq_some_iff h o).1 ho
    exact ⟨x, y, hx, hy, (Relation.holds_compare_iff q x y).1 hq⟩
  · intro ⟨x, y, hx, hy, hq⟩
    exact ⟨compare x y, (numericOrdering_eq_some_iff h _).2 ⟨x, y, hx, hy, rfl⟩,
      (Relation.holds_compare_iff q x y).2 hq⟩

/-- Integers stand in their order, or at one place. -/
theorem places_of_integers {i j : Int64} (h : i.toInt ≤ j.toInt) :
    ∃ x y, (integer i).place? = some x ∧ (integer j).place? = some y ∧ x ≤ y := by
  rw [place?_of_real? (v := integer i) rfl, place?_of_real? (v := integer j) rfl]
  exact Binary64.rank_ofInt_le h

/-- The left operand is less than the right one. -/
def Below (v w : Value) : Prop := compareNumbers .less v w = true

instance (v w : Value) : Decidable (v.Below w) := inferInstanceAs (Decidable (_ = true))

/-- Places come first, and integers of one place second. -/
theorem below_iff (v w : Value) :
    v.Below w ↔ ∃ x y, v.place? = some x ∧ w.place? = some y ∧
      (x < y ∨ x = y ∧ ∃ i j, v = integer i ∧ w = integer j ∧ i.toInt < j.toInt) := by
  unfold Below
  obtain ⟨i, j, rfl, rfl⟩ | h := integers_or_real v w
  · rw [compareNumbers_integers_iff]
    constructor
    · intro hlt
      obtain ⟨x, y, hx, hy, hle⟩ := places_of_integers (Int.le_of_lt hlt)
      refine ⟨x, y, hx, hy, ?_⟩
      exact (Int.lt_or_eq_of_le hle).imp id fun heq => ⟨heq, i, j, rfl, rfl, hlt⟩
    · intro ⟨x, y, hx, hy, hxy⟩
      rcases hxy with hlt | ⟨-, i', j', hi, hj, hlt⟩
      · refine Int.lt_of_not_ge fun hge => ?_
        obtain ⟨y', x', hy', hx', hle⟩ := places_of_integers hge
        have hxx : x = x' := Option.some.inj (hx.symm.trans hx')
        have hyy : y = y' := Option.some.inj (hy.symm.trans hy')
        omega
      · cases hi
        cases hj
        exact hlt
  · rw [compareNumbers_places_iff h]
    constructor
    · intro ⟨x, y, hx, hy, hlt⟩
      exact ⟨x, y, hx, hy, Or.inl hlt⟩
    · intro ⟨x, y, hx, hy, hxy⟩
      rcases hxy with hlt | ⟨-, i, j, rfl, rfl, -⟩
      · exact ⟨x, y, hx, hy, hlt⟩
      · simp [integer?] at h

theorem below_irrefl (v : Value) : ¬ v.Below v := by
  rw [below_iff]
  intro ⟨x, y, hx, hy, hxy⟩
  have hplace : x = y := Option.some.inj (hx.symm.trans hy)
  rcases hxy with hlt | ⟨-, i, j, rfl, hj, hlt⟩
  · omega
  · cases hj
    omega

theorem below_trans (huv : u.Below v) (hvw : v.Below w) : u.Below w := by
  rw [below_iff] at huv hvw ⊢
  obtain ⟨x, y, hx, hy, hxy⟩ := huv
  obtain ⟨y', z, hy', hz, hyz⟩ := hvw
  have hplace : y = y' := Option.some.inj (hy.symm.trans hy')
  refine ⟨x, z, hx, hz, ?_⟩
  rcases hxy with hxy | ⟨hxy, i, j, rfl, rfl, hij⟩
  · have hlt : x < z := by
      rcases hyz with hyz | ⟨hyz, -⟩ <;> omega
    exact Or.inl hlt
  · rcases hyz with hyz | ⟨hyz, j', k, hj, rfl, hjk⟩
    · exact Or.inl (by omega)
    · cases hj
      exact Or.inr ⟨by omega, i, k, rfl, rfl, Int.lt_trans hij hjk⟩

instance : Trans Below Below Below := ⟨below_trans⟩

/-- However long, a chain does not come back to where it began. -/
theorem not_isChain_below (v : Value) (vs : List Value) :
    ¬ List.IsChain Below (v :: (vs ++ [v])) := by
  intro h
  have hall := (List.pairwise_cons.1 h.pairwise).1
  exact below_irrefl v (hall v (List.mem_append_right vs (List.mem_singleton_self v)))

theorem isNumber_of_below (h : v.Below w) : v.IsNumber ∧ w.IsNumber := by
  obtain ⟨o, ho, -⟩ := (compareNumbers_eq_true_iff .less v w).1 h
  exact (exists_numericOrdering_iff v w).1 ⟨o, ho⟩

/-- A weak step is not turned round by what lies below its left operand. -/
theorem lessOrEqual_of_below_left (huv : u.Below v)
    (hvw : compareNumbers .lessOrEqual v w = true) : compareNumbers .lessOrEqual u w = true := by
  rw [lessOrEqual_iff] at hvw ⊢
  obtain ⟨⟨-, hw⟩, hnot⟩ := hvw
  refine ⟨⟨(isNumber_of_below huv).1, hw⟩, fun hwu => hnot ?_⟩
  exact below_trans hwu huv

theorem lessOrEqual_of_below_right (huv : compareNumbers .lessOrEqual u v = true)
    (hvw : v.Below w) : compareNumbers .lessOrEqual u w = true := by
  rw [lessOrEqual_iff] at huv ⊢
  obtain ⟨⟨hu, -⟩, hnot⟩ := huv
  refine ⟨⟨hu, (isNumber_of_below hvw).2⟩, fun hwu => hnot ?_⟩
  exact below_trans hvw hwu

/-- `less` is irreflexive and transitive over all values, so no chain of it, of any length, is a
cycle. A strict step before or after a weak one makes a weak one, but two weak steps need not. -/
theorem less_strict_order :
    (∀ v : Value, ¬ v.Below v) ∧
    (∀ u v w : Value, u.Below v → v.Below w → u.Below w) ∧
    (∀ (v : Value) (vs : List Value), ¬ List.IsChain Below (v :: (vs ++ [v]))) ∧
    (∀ u v w : Value, u.Below v → compareNumbers .lessOrEqual v w = true →
      compareNumbers .lessOrEqual u w = true) ∧
    (∀ u v w : Value, compareNumbers .lessOrEqual u v = true → v.Below w →
      compareNumbers .lessOrEqual u w = true) ∧
    ∃ u v w : Value, compareNumbers .lessOrEqual u v = true ∧
      compareNumbers .lessOrEqual v w = true ∧ compareNumbers .lessOrEqual u w = false := by
  refine ⟨below_irrefl, fun _ _ _ => below_trans, not_isChain_below,
    fun _ _ _ => lessOrEqual_of_below_left, fun _ _ _ => lessOrEqual_of_below_right, ?_⟩
  exact ⟨integer 0x20000000000001, real (.finite ⟨false, ⟨1076 * 0x10000000000000, by decide⟩⟩),
    integer 0x20000000000000, by decide +kernel⟩

/-- Two integers at the place of the real `2 ^ 53`, which is not above or below either of them. -/
theorem less_strict_order_at_one_place :
    let i := integer 0x20000000000000
    let j := integer 0x20000000000001
    let r := real (.finite ⟨false, ⟨1076 * 0x10000000000000, by decide⟩⟩)
    let q := real (.finite ⟨false, ⟨1076 * 0x10000000000000 + 1, by decide⟩⟩)
    (i.Below j ∧ j.Below q ∧ i.Below q) ∧
    (compareNumbers .lessOrEqual j r = true ∧ compareNumbers .lessOrEqual i r = true) ∧
    compareNumbers .lessOrEqual r i = true ∧ compareNumbers .lessOrEqual r j = true := by
  intro i j r q
  have hij : i.Below j := by decide +kernel
  have hjq : j.Below q := by decide +kernel
  have hjr : compareNumbers .lessOrEqual j r = true := by decide +kernel
  have hri : compareNumbers .lessOrEqual r i = true := by decide +kernel
  obtain ⟨-, htrans, -, hleft, hright, -⟩ := less_strict_order
  exact ⟨⟨hij, hjq, htrans i j q hij hjq⟩, ⟨hjr, hleft i j r hij hjr⟩, hri,
    hright r i j hri hij⟩

end Value

end Verdict
