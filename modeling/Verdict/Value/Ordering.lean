import Verdict.Value.Basic
import Verdict.Relation

/-
  How two operands stand to each other. Numbers are ordered exactly among integers, and as reals
  if one of them is real, the integer widened. The size of a text or a sequence is ordered
  against a numeric bound, a real bound without its fraction. All other operands have no order.
  `orderings_disjoint` says that no two operands are ordered both ways.
-/
namespace Verdict

/-- The whole number nearest to `i` that fits a signed word. -/
def clampInt64 (i : Int) : Int := max (-0x8000000000000000) (min i (0x8000000000000000 - 1))

namespace Value

/-- The order of two numbers. -/
def numericOrdering : Value → Value → Option Ordering
  | integer i, integer j => some (compare i.toInt j.toInt)
  | integer i, real r => (Binary64.ofInt i.toInt).compare? r
  | real r, integer j => r.compare? (Binary64.ofInt j.toInt)
  | real r, real q => r.compare? q
  | _, _ => none

/-- The bound that a number sets for a size. -/
def sizeBound? : Value → Option Int
  | integer i => some i.toInt
  | real (.finite r) => some (clampInt64 r.truncate)
  | _ => none

/-- A size as a signed word, if it fits. -/
def sizeWord? (n : Nat) : Option Int := if n < 0x8000000000000000 then some n else none

/-- The order of the size of the left operand against the bound on the right. -/
def sizeOrdering (left right : Value) : Option Ordering :=
  match left.size?.bind sizeWord?, right.sizeBound? with
  | some n, some b => some (compare n b)
  | _, _ => none

theorem numericOrdering_eq_none {v w : Value} (h : v.isNumeric = false ∨ w.isNumeric = false) :
    numericOrdering v w = none := by
  cases v <;> cases w <;> simp_all [numericOrdering, isNumeric, kind, Kind.isNumeric]

theorem sizeOrdering_eq_none {v w : Value} (h : v.kind.isSized = false) :
    sizeOrdering v w = none := by
  rw [← size?_isSome, Option.isSome_eq_false_iff, Option.isNone_iff_eq_none] at h
  unfold sizeOrdering
  rw [h]
  rfl

theorem orderings_disjoint (v w : Value) :
    numericOrdering v w = none ∨ sizeOrdering v w = none := by
  cases v with
  | integer i => exact Or.inr (sizeOrdering_eq_none rfl)
  | real r => exact Or.inr (sizeOrdering_eq_none rfl)
  | text s => exact Or.inl (numericOrdering_eq_none (Or.inl rfl))
  | boolean b => exact Or.inl (numericOrdering_eq_none (Or.inl rfl))
  | sequence items => exact Or.inl (numericOrdering_eq_none (Or.inl rfl))
  | absent => exact Or.inl (numericOrdering_eq_none (Or.inl rfl))

/-- A relation between two numbers; it fails for all other operands. -/
def compareNumbers (r : Relation) (left right : Value) : Bool :=
  r.holdsFor (numericOrdering left right)

theorem compareNumbers_of_ordering {v w : Value} {o : Ordering}
    (h : numericOrdering v w = some o) (q : Relation) : compareNumbers q v w = q.holds o := by
  unfold compareNumbers
  rw [h, Relation.holdsFor_some]

theorem compareNumbers_eq_true_iff (q : Relation) (v w : Value) :
    compareNumbers q v w = true ↔ ∃ o, numericOrdering v w = some o ∧ q.holds o = true := by
  unfold compareNumbers
  cases numericOrdering v w with
  | none => simp [Relation.holdsFor_none]
  | some o => simp [Relation.holdsFor_some]

/-- A relation between a size and its bound; it fails for all other operands. -/
def compareSize (r : Relation) (left right : Value) : Bool :=
  r.holdsFor (sizeOrdering left right)

end Value

end Verdict
