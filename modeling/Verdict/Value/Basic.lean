import Verdict.Binary64.Round

/-
  The values that predicates compare: integers and reals, kept apart, texts, truth values,
  sequences, and the absence of a value. `equals` is equality as programs ask for it, under which
  NaN differs from itself and the two zeros agree.
-/
namespace Verdict

/-- The kinds of values. -/
inductive Kind
  | integer
  | real
  | text
  | boolean
  | sequence
  | absent
deriving DecidableEq

namespace Kind

/-- The name of a kind in reports and in tagged documents. -/
def name : Kind → String
  | integer => "Integer"
  | real => "Real"
  | text => "Text"
  | boolean => "Boolean"
  | sequence => "Sequence"
  | absent => "Absent"

def all : List Kind := [integer, real, text, boolean, sequence, absent]

/-- The kind of a name. -/
def ofName? (s : String) : Option Kind := all.find? fun k => k.name == s

theorem ofName?_name (k : Kind) : ofName? k.name = some k := by cases k <;> decide

/-- Numbers are ordered. -/
def isNumeric : Kind → Bool
  | integer | real => true
  | text | boolean | sequence | absent => false

/-- Texts and sequences have a size. -/
def isSized : Kind → Bool
  | text | sequence => true
  | integer | real | boolean | absent => false

end Kind

/-- A value. Absence is the value of what is not given and of what has no comparable form. -/
inductive Value
  | integer (i : Int64)
  | real (r : Binary64)
  | text (s : String)
  | boolean (b : Bool)
  | sequence (items : List Value)
  | absent

namespace Value

instance : Inhabited Value := ⟨.absent⟩

def kind : Value → Kind
  | integer _ => .integer
  | real _ => .real
  | text _ => .text
  | boolean _ => .boolean
  | sequence _ => .sequence
  | absent => .absent

def isAbsent : Value → Bool
  | absent => true
  | _ => false

def isNumeric (v : Value) : Bool := v.kind.isNumeric

/-! ## Parts of a value -/

def integer? : Value → Option Int64
  | integer i => some i
  | _ => none

/-- The real number of a numeric value, integers widened to the nearest real. -/
def real? : Value → Option Binary64
  | real r => some r
  | integer i => some (Binary64.ofInt i.toInt)
  | _ => none

theorem real?_eq_some_iff (v : Value) (x : Binary64) :
    v.real? = some x ↔ v = real x ∨ ∃ i, v = integer i ∧ Binary64.ofInt i.toInt = x := by
  cases v <;> simp [real?]

theorem real?_eq_none_iff (v : Value) : v.real? = none ↔ v.isNumeric = false := by
  cases v <;> simp [real?, isNumeric, kind, Kind.isNumeric]

def text? : Value → Option String
  | text s => some s
  | _ => none

def boolean? : Value → Option Bool
  | boolean b => some b
  | _ => none

def sequence? : Value → Option (List Value)
  | sequence items => some items
  | _ => none

/-- The number of characters of a text, or of items of a sequence. -/
def size? : Value → Option Nat
  | text s => some s.length
  | sequence items => some items.length
  | integer _ | real _ | boolean _ | absent => none

theorem size?_isSome (v : Value) : v.size?.isSome = v.kind.isSized := by cases v <;> rfl

/-! ## Equality -/

mutual
/-- Values of one kind are equal when their contents are, reals by numerical equality. -/
def equals : Value → Value → Bool
  | integer i, integer j => i == j
  | real r, real q => r.equals q
  | text s, text t => s == t
  | boolean b, boolean c => b == c
  | sequence vs, sequence ws => equalsItems vs ws
  | absent, absent => true
  | _, _ => false

def equalsItems : List Value → List Value → Bool
  | [], [] => true
  | v :: vs, w :: ws => equals v w && equalsItems vs ws
  | _, _ => false
end

mutual
/-- Identity of values can be decided; unlike `equals` it tells the two zeros apart. -/
def decEq : (v w : Value) → Decidable (v = w)
  | integer i, integer j => decidable_of_iff (i = j) (by simp)
  | real r, real q => decidable_of_iff (r = q) (by simp)
  | text s, text t => decidable_of_iff (s = t) (by simp)
  | boolean b, boolean c => decidable_of_iff (b = c) (by simp)
  | sequence vs, sequence ws =>
    have := decEqItems vs ws
    decidable_of_iff (vs = ws) (by simp)
  | absent, absent => isTrue rfl
  | integer _, real _ | integer _, text _ | integer _, boolean _ | integer _, sequence _
  | integer _, absent | real _, integer _ | real _, text _ | real _, boolean _
  | real _, sequence _ | real _, absent | text _, integer _ | text _, real _
  | text _, boolean _ | text _, sequence _ | text _, absent | boolean _, integer _
  | boolean _, real _ | boolean _, text _ | boolean _, sequence _ | boolean _, absent
  | sequence _, integer _ | sequence _, real _ | sequence _, text _ | sequence _, boolean _
  | sequence _, absent | absent, integer _ | absent, real _ | absent, text _
  | absent, boolean _ | absent, sequence _ => isFalse (by simp)

def decEqItems : (vs ws : List Value) → Decidable (vs = ws)
  | [], [] => isTrue rfl
  | v :: vs, w :: ws =>
    have := decEq v w
    have := decEqItems vs ws
    decidable_of_iff (v = w ∧ vs = ws) (by simp)
  | [], _ :: _ => isFalse (by simp)
  | _ :: _, [] => isFalse (by simp)
end

instance : DecidableEq Value := decEq

/-! ## Nesting -/

mutual
/-- How deep sequences are nested. -/
def depth : Value → Nat
  | sequence items => depthItems items + 1
  | integer _ | real _ | text _ | boolean _ | absent => 0

def depthItems : List Value → Nat
  | [] => 0
  | v :: vs => max (depth v) (depthItems vs)
end

mutual
/-- Every real in the value is finite. -/
def isFinite : Value → Bool
  | real r => r.isFinite
  | sequence items => isFiniteItems items
  | integer _ | text _ | boolean _ | absent => true

def isFiniteItems : List Value → Bool
  | [] => true
  | v :: vs => isFinite v && isFiniteItems vs
end

end Value

end Verdict
