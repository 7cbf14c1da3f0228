import Verdict.Value.Basic

/-
  Values from typed data. Every whole number that fits a signed word is an integer, every real is
  a real, a list is a sequence of the values of its items, and an option without content is
  absent.
-/
namespace Verdict

universe u

/-- Types whose members stand for values. -/
class Classify (α : Type u) where
  value : α → Value

/-- The value that a datum stands for. -/
def Value.of {α : Type u} [Classify α] (a : α) : Value := Classify.value a

instance : Classify Value := ⟨id⟩

instance : Classify Int64 := ⟨.integer⟩

instance : Classify Int32 := ⟨fun i => .integer i.toInt64⟩

instance : Classify UInt32 := ⟨fun n => .integer (Int64.ofInt n.toNat)⟩

instance : Classify Binary64 := ⟨.real⟩

instance : Classify Bool := ⟨.boolean⟩

instance : Classify String := ⟨.text⟩

instance {α : Type u} [Classify α] : Classify (List α) :=
  ⟨fun items => .sequence (items.map Value.of)⟩

instance {α : Type u} [Classify α] : Classify (Option α) :=
  ⟨fun a => match a with | some a => Value.of a | none => .absent⟩

end Verdict
