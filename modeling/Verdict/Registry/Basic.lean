import Verdict.OrderedMap
import Verdict.Predicate
import Verdict.Registry.Error
import Verdict.Json.Record

/-
  Registries of operators: identifiers with what they are bound to, and aliases that stand for
  identifiers. Looking a name up asks the identifiers first, so an identifier hides an alias of
  its name. New names must be free; an alias is stored with the identifier that its target stands
  for; an operator leaves together with its aliases. `register_eq_ok_iff` and
  `addAlias_eq_ok_iff` say when a name is accepted and what the registry is then.
-/
namespace Verdict

/-- The families of operators. -/
inductive Category
  | comparison
  | size
  | logical
  | custom
deriving DecidableEq

namespace Category

def name : Category → String
  | comparison => "comparison"
  | size => "size"
  | logical => "logical"
  | custom => "custom"

def all : List Category := [comparison, size, logical, custom]

/-- The category of a name. -/
def ofName? (s : String) : Option Category := all.find? fun c => c.name == s

/-- A category in a text: its name, or its name as the only member of an object, with null. -/
def read : Json.Source → Except Json.Fault Category
  | .text s | .object [(s, .null)] => Json.required (ofName? s)
  | _ => .error .mismatch

end Category

/-- What an identifier is bound to: a predicate, or a way to combine predicates. -/
inductive Binding
  | primitive (p : Predicate)
  | unary (f : Predicate → Predicate)
  | binary (f : Predicate → Predicate → Predicate)

namespace Binding

/-- The number of operands. -/
def arity : Binding → Nat
  | primitive _ => 0
  | unary _ => 1
  | binary _ => 2

/-- The predicate for operands, if they are as many as the arity. -/
def combine? : Binding → List Predicate → Option Predicate
  | primitive p, [] => some p
  | unary f, [p] => some (f p)
  | binary f, [p, q] => some (f p q)
  | _, _ => none

theorem combine?_isSome_iff (b : Binding) (ps : List Predicate) :
    (b.combine? ps).isSome = true ↔ ps.length = b.arity := by
  match b, ps with
  | primitive _, [] | unary _, [_] | binary _, [_, _] => simp [combine?, arity]
  | primitive _, _ :: _ | unary _, [] | unary _, _ :: _ :: _ | binary _, [] | binary _, [_]
  | binary _, _ :: _ :: _ :: _ => simp [combine?, arity]

theorem combine?_nil_eq_some_iff (b : Binding) (p : Predicate) :
    b.combine? [] = some p ↔ b = primitive p := by cases b <;> simp [combine?]

theorem combine?_one_eq_some_iff (b : Binding) (q p : Predicate) :
    b.combine? [q] = some p ↔ ∃ f, b = unary f ∧ f q = p := by cases b <;> simp [combine?]

theorem combine?_two_eq_some_iff (b : Binding) (q₁ q₂ p : Predicate) :
    b.combine? [q₁, q₂] = some p ↔ ∃ f, b = binary f ∧ f q₁ q₂ = p := by
  cases b <;> simp [combine?]

theorem arity_le_two (b : Binding) : b.arity ≤ 2 := by cases b <;> simp [arity]

end Binding

/-- A registered operator. -/
structure Operator where
  category : Category
  description : String
  binding : Binding

/-- An operator as it is listed. -/
structure OperatorInfo where
  identifier : String
  category : Category
  arity : Nat
  description : String
  aliases : List String
deriving DecidableEq

namespace OperatorInfo

/-- The document of a listed operator. -/
def toJson (o : OperatorInfo) : Json :=
  .object [("identifier", .text o.identifier), ("category", .text o.category.name),
    ("arity", .ofNat o.arity), ("description", .text o.description),
    ("aliases", .ofTexts o.aliases)]

end OperatorInfo

/-- Operators by identifier, and the identifiers that aliases stand for, both in the order of
registration. -/
structure Registry where
  operators : OrderedMap Operator := .empty
  aliases : OrderedMap String := .empty

namespace Registry

instance : Inhabited Registry := ⟨{}⟩

/-- The registry without operators. -/
def empty : Registry := {}

/-! ## Looking up -/

/-- The name is an identifier. -/
def isOperator (r : Registry) (name : String) : Bool := r.operators.contains name

/-- The identifier that a name stands for. -/
def canonical? (r : Registry) (name : String) : Option String :=
  if r.isOperator name then some name else r.aliases.get? name

/-- The name stands for an identifier. -/
def contains (r : Registry) (name : String) : Bool := (r.canonical? name).isSome

/-- No identifier and no alias has the name. -/
def isFree (r : Registry) (name : String) : Bool :=
  !r.operators.contains name && !r.aliases.contains name

def size (r : Registry) : Nat := r.operators.size

def isEmpty (r : Registry) : Bool := r.operators.isEmpty

def identifiers (r : Registry) : List String := r.operators.keys

/-- The aliases that stand for an identifier. -/
def aliasesOf (r : Registry) (identifier : String) : List String :=
  (r.aliases.filter fun e => e.2 == identifier).keys

/-- All operators with their aliases. -/
def listing (r : Registry) : List OperatorInfo :=
  r.operators.entries.map fun e =>
    { identifier := e.1
      category := e.2.category
      arity := e.2.binding.arity
      description := e.2.description
      aliases := r.aliasesOf e.1 }

theorem contains_eq_not_isFree (r : Registry) (name : String) :
    r.contains name = !r.isFree name := by
  unfold contains canonical? isFree isOperator OrderedMap.contains
  by_cases h : (r.operators.get? name).isSome = true <;> simp [h]

/-! ## Changing a registry -/

/-- Register an operator under a free name. -/
def register (r : Registry) (identifier : String) (o : Operator) :
    Except RegistryError Registry :=
  if r.isFree identifier then .ok { r with operators := r.operators.insert identifier o }
  else .error (.duplicateOperator identifier)

/-- Register an evaluator of a caller under a free name, which is also the predicate's. -/
def registerEvaluator (r : Registry) (identifier description : String) (evaluator : Evaluator) :
    Except RegistryError Registry :=
  r.register identifier ⟨.custom, description, .primitive (.custom identifier evaluator)⟩

/-- Let a free name stand for what the target stands for. -/
def addAlias (r : Registry) (name target : String) : Except RegistryError Registry :=
  match r.canonical? target with
  | none => .error (.unknownAliasTarget name target)
  | some identifier =>
    if r.isFree name then .ok { r with aliases := r.aliases.insert name identifier }
    else .error (.duplicateOperator name)

/-- The registry without an operator and the aliases that stand for it. -/
def erase (r : Registry) (identifier : String) : Registry :=
  { operators := r.operators.erase identifier
    aliases := r.aliases.filter fun e => e.2 != identifier }

/-- Remove an operator and its aliases, if it is registered. -/
def unregister? (r : Registry) (identifier : String) : Option Registry :=
  if r.isOperator identifier then some (r.erase identifier) else none

/-- Bind identifiers, those that are there in their places; aliases do not count. -/
def bindAll (r : Registry) (os : List (String × Operator)) : Registry :=
  { r with operators := os.foldl (fun m e => m.insert e.1 e.2) r.operators }

theorem register_eq_ok_iff (r r' : Registry) (identifier : String) (o : Operator) :
    r.register identifier o = .ok r' ↔
      r.isFree identifier = true ∧
        r' = { r with operators := r.operators.insert identifier o } := by
  unfold register
  by_cases h : r.isFree identifier = true
  · simp [h, eq_comm]
  · simp [h]

theorem addAlias_eq_ok_iff (r r' : Registry) (name target : String) :
    r.addAlias name target = .ok r' ↔
      ∃ identifier, r.canonical? target = some identifier ∧ r.isFree name = true ∧
        r' = { r with aliases := r.aliases.insert name identifier } := by
  unfold addAlias
  cases r.canonical? target with
  | none => simp
  | some identifier =>
    by_cases h : r.isFree name = true
    · simp [h, eq_comm]
    · simp [h]

theorem unregister?_eq_some_iff (r r' : Registry) (identifier : String) :
    r.unregister? identifier = some r' ↔
      r.isOperator identifier = true ∧ r' = r.erase identifier := by
  unfold unregister?
  by_cases h : r.isOperator identifier = true
  · simp [h, eq_comm]
  · simp [h]

/-! ## The standard operators -/

/-- The operator of an order relation between numbers. -/
def orderOperator (r : Relation) : String × Operator :=
  (r.suffix, ⟨.comparison, "left " ++ r.symbol ++ " right, numeric operands",
    .primitive (.order r)⟩)

/-- The operator of a relation between a size and a bound. -/
def sizeOperator (r : Relation) : String × Operator :=
  ("size_" ++ r.suffix,
    ⟨.size, "size(left) " ++ r.symbol ++ " right, text or sequence left operand",
      .primitive (.size r)⟩)

/-- The logical operators. -/
def logicalOperators : List (String × Operator) :=
  [("not", ⟨.logical, "inverts the verdict of its operand", .unary .not⟩),
   ("and", ⟨.logical, "both operands hold", .binary .and⟩),
   ("or", ⟨.logical, "either operand holds", .binary .or⟩)]

/-- The operators of every standard registry. -/
def standardOperators : List (String × Operator) :=
  Relation.all.map orderOperator ++ Relation.all.map sizeOperator ++ logicalOperators

theorem forall_mem_standardOperators {P : String × Operator → Prop}
    (horder : ∀ r, P (orderOperator r)) (hsize : ∀ r, P (sizeOperator r))
    (hlogical : ∀ e ∈ logicalOperators, P e) : ∀ e ∈ standardOperators, P e := by
  unfold standardOperators
  simp only [List.forall_mem_append, List.forall_mem_map]
  exact ⟨⟨fun r _ => horder r, fun r _ => hsize r⟩, hlogical⟩

/-- Bind the standard identifiers. -/
def addStandard (r : Registry) : Registry := r.bindAll standardOperators

/-- The registry of the standard operators. -/
def standard : Registry := empty.addStandard

/-! ## Text -/

/-- Names and aliases of a registry in one line. -/
def outline (r : Registry) : String :=
  "OperatorRegistry \x7b operators: [" ++
    ", ".intercalate (r.identifiers.map Text.quote) ++ "], aliases: \x7b" ++
    ", ".intercalate (r.aliases.entries.map fun e => Text.quote e.1 ++ ": " ++ Text.quote e.2) ++
    "\x7d \x7d"

end Registry

end Verdict
