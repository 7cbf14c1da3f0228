import Verdict.Binary64.Round

/-
  JSON documents. Numbers are integers that fit 64 bits, with or without a sign, or finite reals;
  objects list their members in order. `sorted` is the form in which documents are reported:
  members by name, and of equal names the last one.
-/
namespace Verdict

namespace Json

/-- An integer that fits a signed or an unsigned word of 64 bits. -/
structure Whole where
  val : Int
  low : -0x8000000000000000 ≤ val
  high : val < 0x10000000000000000
deriving DecidableEq

/-- A number of a document. -/
inductive Number
  | integer (i : Whole)
  | real (r : Finite64)
deriving DecidableEq

/-- An integer as a number, if it fits. -/
def Number.ofInt? (i : Int) : Option Number :=
  if h : -0x8000000000000000 ≤ i ∧ i < 0x10000000000000000 then some (.integer ⟨i, h.1, h.2⟩)
  else none

end Json

/-- A JSON document. -/
inductive Json
  | null
  | boolean (b : Bool)
  | number (n : Json.Number)
  | text (s : String)
  | array (items : List Json)
  | object (members : List (String × Json))

namespace Json

instance : Inhabited Json := ⟨.null⟩

/-- A signed word as a number. -/
def ofInt64 (i : Int64) : Json :=
  .number (.integer ⟨i.toInt, Int64.le_toInt i,
    Int.lt_trans (Int64.toInt_lt i) (by decide)⟩)

/-- A natural number below `2 ^ 64`; larger ones do not fit and are null. -/
def ofNat (n : Nat) : Json :=
  match Number.ofInt? n with
  | some i => .number i
  | none => .null

/-- Texts as an array. -/
def ofTexts (ss : List String) : Json := .array (ss.map .text)

/-! ## Nesting -/

mutual
/-- How deep arrays and objects are nested. -/
def depth : Json → Nat
  | .array items => depthItems items + 1
  | .object members => depthMembers members + 1
  | .null | .boolean _ | .number _ | .text _ => 0

def depthItems : List Json → Nat
  | [] => 0
  | j :: js => max (depth j) (depthItems js)

def depthMembers : List (String × Json) → Nat
  | [] => 0
  | (_, j) :: ms => max (depth j) (depthMembers ms)
end

/-! ## Sorted members -/

/-- Put a member in its place among sorted ones; one that is there already stays. -/
def insertMember (k : String) (j : Json) : List (String × Json) → List (String × Json)
  | [] => [(k, j)]
  | m :: ms =>
    if k < m.1 then (k, j) :: m :: ms
    else if k = m.1 then m :: ms
    else m :: insertMember k j ms

mutual
/-- The document with the members of every object sorted by name, the last of equal names. -/
def sorted : Json → Json
  | .array items => .array (sortedItems items)
  | .object members => .object (sortedMembers members)
  | .null => .null
  | .boolean b => .boolean b
  | .number n => .number n
  | .text s => .text s

def sortedItems : List Json → List Json
  | [] => []
  | j :: js => sorted j :: sortedItems js

def sortedMembers : List (String × Json) → List (String × Json)
  | [] => []
  | (k, j) :: ms => insertMember k (sorted j) (sortedMembers ms)
end

/-- The member of a name in an object. -/
def member? (k : String) : List (String × Json) → Option Json
  | [] => none
  | m :: ms => if m.1 = k then some m.2 else member? k ms

end Json

end Verdict
