/-
  The five relations that ask how one operand stands to another. `holds_swap` exchanges the
  operands, `lessOrEqual_holds` and `greaterOrEqual_holds` read the weak relations as a strict one
  or equality, and `holds_compare_iff` reads all of them on integers.
-/
namespace Verdict

/-- A relation between a left and a right operand. -/
inductive Relation
  | less
  | greater
  | lessOrEqual
  | greaterOrEqual
  | equal
deriving DecidableEq

namespace Relation

/-- The relations in the order of their operators. -/
def all : List Relation := [less, greater, lessOrEqual, greaterOrEqual, equal]

/-- The relation holds when the left operand stands so to the right one. -/
def holds : Relation → Ordering → Bool
  | less, o => o == .lt
  | greater, o => o == .gt
  | lessOrEqual, o => o != .gt
  | greaterOrEqual, o => o != .lt
  | equal, o => o == .eq

/-- The short name in operator identifiers. -/
def suffix : Relation → String
  | less => "lt"
  | greater => "gt"
  | lessOrEqual => "le"
  | greaterOrEqual => "ge"
  | equal => "eq"

def symbol : Relation → String
  | less => "<"
  | greater => ">"
  | lessOrEqual => "<="
  | greaterOrEqual => ">="
  | equal => "="

/-- The full name, as it is shown inside predicates. -/
def name : Relation → String
  | less => "Less"
  | greater => "Greater"
  | lessOrEqual => "LessOrEqual"
  | greaterOrEqual => "GreaterOrEqual"
  | equal => "Equal"

/-- The relation between the operands in the other order. -/
def swap : Relation → Relation
  | less => greater
  | greater => less
  | lessOrEqual => greaterOrEqual
  | greaterOrEqual => lessOrEqual
  | equal => equal

theorem holds_swap (r : Relation) (o : Ordering) : r.swap.holds o.swap = r.holds o := by
  cases r <;> cases o <;> rfl

theorem lessOrEqual_holds (o : Ordering) :
    lessOrEqual.holds o = (less.holds o || equal.holds o) := by cases o <;> rfl

theorem greaterOrEqual_holds (o : Ordering) :
    greaterOrEqual.holds o = (greater.holds o || equal.holds o) := by cases o <;> rfl

/-- The relation between two integers. -/
def Relates : Relation → Int → Int → Prop
  | less, a, b => a < b
  | greater, a, b => b < a
  | lessOrEqual, a, b => a ≤ b
  | greaterOrEqual, a, b => b ≤ a
  | equal, a, b => a = b

theorem holds_compare_iff (r : Relation) (a b : Int) :
    r.holds (compare a b) = true ↔ r.Relates a b := by
  cases r with
  | less => exact beq_iff_eq.trans Int.compare_eq_lt
  | greater => exact beq_iff_eq.trans Int.compare_eq_gt
  | lessOrEqual => exact bne_iff_ne.trans Int.compare_ne_gt
  | greaterOrEqual => exact bne_iff_ne.trans Int.compare_ne_lt
  | equal => exact beq_iff_eq.trans Int.compare_eq_eq

/-- The relation holds for an ordering that is there. -/
def holdsFor (r : Relation) (o : Option Ordering) : Bool :=
  match o with
  | some o => r.holds o
  | none => false

theorem holdsFor_none (r : Relation) : r.holdsFor none = false := rfl

theorem holdsFor_some (r : Relation) (o : Ordering) : r.holdsFor (some o) = r.holds o := rfl

end Relation

end Verdict
