import Verdict.Value.Basic
import Verdict.Json.Record

/-
  Values as plain documents, and documents as values. Integers that fit a signed word stay
  integers and all other numbers are reals; objects and null have no comparable form and are
  absent. A document is looked at (`ofJson`) or given up for its value (`takeJson`), and
  `takeJson_eq_ofJson` says that the values are the same. Written back, absence is null, and so is
  a real that is not finite. `ofJson_integer` says that no integer is lost on the way.
-/
namespace Verdict

namespace Value

/-- The value of a number: an integer if it fits a signed word, else the nearest real. -/
def ofNumber : Json.Number → Value
  | .integer i =>
    if i.val < 0x8000000000000000 then .integer (Int64.ofInt i.val) else .real (.ofInt i.val)
  | .real r => .real (.finite r)

mutual
/-- The value that a document stands for. -/
def ofJson : Json → Value
  | .null => .absent
  | .boolean b => .boolean b
  | .number n => ofNumber n
  | .text s => .text s
  | .array items => .sequence (ofItems items)
  | .object _ => .absent

def ofItems : List Json → List Value
  | [] => []
  | j :: js => ofJson j :: ofItems js
end

mutual
/-- The value of a document that is given up for it. Texts and arrays are taken over; every other
document is looked at. -/
def takeJson : Json → Value
  | .text s => .text s
  | .array items => .sequence (takeItems items)
  | j => ofJson j

def takeItems : List Json → List Value
  | [] => []
  | j :: js => takeJson j :: takeItems js
end

mutual
theorem takeJson_eq_ofJson : (j : Json) → takeJson j = ofJson j
  | .null | .boolean _ | .number _ | .text _ | .object _ => rfl
  | .array items => by rw [takeJson, ofJson, takeItems_eq_ofItems items]

theorem takeItems_eq_ofItems : (js : List Json) → takeItems js = ofItems js
  | [] => rfl
  | j :: js => by rw [takeItems, ofItems, takeJson_eq_ofJson j, takeItems_eq_ofItems js]
end

mutual
/-- The plain document of a value. -/
def toJson : Value → Json
  | .integer i => .ofInt64 i
  | .real (.finite r) => .number (.real r)
  | .real .nan | .real (.infinite _) => .null
  | .text s => .text s
  | .boolean b => .boolean b
  | .sequence items => .array (toItems items)
  | .absent => .null

def toItems : List Value → List Json
  | [] => []
  | v :: vs => toJson v :: toItems vs
end

theorem ofJson_integer (i : Int64) : ofJson (toJson (.integer i)) = .integer i := by
  have h : i.toInt < 9223372036854775808 := Int64.toInt_lt i
  simp [toJson, Json.ofInt64, ofJson, ofNumber, h]

/-- The value at a place where a text holds a plain document. -/
def read (s : Json.Source) : Except Json.Fault Value :=
  match s.document? with
  | some j => .ok (takeJson j)
  | none => .error .malformed

theorem read_of_document? {s : Json.Source} {j : Json} (h : s.document? = some j) :
    read s = .ok (ofJson j) := by
  simp only [read, h, takeJson_eq_ofJson]

end Value

end Verdict
