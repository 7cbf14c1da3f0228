import Verdict.Value.Ordering
import Verdict.Text.Quoted

/-
  Predicates on pairs of operands: a relation between numbers, a relation between a size and a
  bound, their logical combinations, and evaluators given by callers under a name. A predicate
  never fails; operands outside its domain make a relation false. The `evaluate_` lemmas give
  each form its truth table.
-/
namespace Verdict

/-- A verdict on every pair of operands. -/
abbrev Evaluator := Value → Value → Bool

/-- A predicate, ready to be applied to pairs of operands. -/
inductive Predicate
  | order (r : Relation)
  | size (r : Relation)
  | not (p : Predicate)
  | and (p q : Predicate)
  | or (p q : Predicate)
  | custom (name : String) (evaluator : Evaluator)

namespace Predicate

instance : Inhabited Predicate := ⟨.order .equal⟩

/-- The verdict on a pair of operands. -/
def evaluate : Predicate → Value → Value → Bool
  | order r, v, w => Value.compareNumbers r v w
  | size r, v, w => Value.compareSize r v w
  | not p, v, w => !p.evaluate v w
  | and p q, v, w => p.evaluate v w && q.evaluate v w
  | or p q, v, w => p.evaluate v w || q.evaluate v w
  | custom _ f, v, w => f v w

theorem evaluate_not (p : Predicate) (v w : Value) :
    (not p).evaluate v w = !p.evaluate v w := rfl

theorem evaluate_and (p q : Predicate) (v w : Value) :
    (and p q).evaluate v w = (p.evaluate v w && q.evaluate v w) := rfl

theorem evaluate_or (p q : Predicate) (v w : Value) :
    (or p q).evaluate v w = (p.evaluate v w || q.evaluate v w) := rfl

/-- The predicate combines others. -/
def isCombinator : Predicate → Bool
  | not _ | and _ _ | or _ _ => true
  | order _ | size _ | custom _ _ => false

/-- No evaluator of a caller is part of the predicate. -/
def isStandard : Predicate → Bool
  | order _ | size _ => true
  | not p => p.isStandard
  | and p q | or p q => p.isStandard && q.isStandard
  | custom _ _ => false

/-- The predicate in the words of operator expressions. -/
def display : Predicate → String
  | order r => r.suffix
  | size r => "size_" ++ r.suffix
  | not p => "not:" ++ p.display
  | and p q => "and(" ++ p.display ++ ", " ++ q.display ++ ")"
  | or p q => "or(" ++ p.display ++ ", " ++ q.display ++ ")"
  | custom name _ => name

/-- The structure of the predicate. -/
def structureText : Predicate → String
  | order r => "Order(" ++ r.name ++ ")"
  | size r => "Size(" ++ r.name ++ ")"
  | not p => "Not(" ++ p.structureText ++ ")"
  | and p q => "And(" ++ p.structureText ++ ", " ++ q.structureText ++ ")"
  | or p q => "Or(" ++ p.structureText ++ ", " ++ q.structureText ++ ")"
  | custom name _ => "Custom \x7b name: " ++ Text.quote name ++ ", .. \x7d"

end Predicate

namespace Evaluator

/-- Both operands are of one kind. -/
def sameKind : Evaluator := fun v w => decide (v.kind = w.kind)

/-- Both operands are equal. -/
def sameValue : Evaluator := Value.equals

/-- The left operand is a sequence with an item equal to the right one. -/
def contains : Evaluator := fun v w =>
  match v with
  | .sequence items => items.any fun item => item.equals w
  | _ => false

/-- Both operands are texts, and the left one starts with the right one. -/
def startsWith : Evaluator := fun v w =>
  match v, w with
  | .text s, .text t => t.toList.isPrefixOf s.toList
  | _, _ => false

/-- The left operand is absent. -/
def isAbsent : Evaluator := fun v _ => v.isAbsent

end Evaluator

end Verdict
