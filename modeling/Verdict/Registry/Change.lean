import Verdict.Registry.Basic

/-
  Changes of a registry as steps: each one leads from a registry to the next and says what came
  of it. A change that fails leads to the registry that was there before. `afterAll` takes changes
  in order, and `afterAll_append` says that their order can be cut anywhere.
-/
namespace Verdict

namespace Registry

/-- What a registry can be asked to change. -/
inductive Change
  | register (identifier : String) (o : Operator)
  | registerEvaluator (identifier description : String) (evaluator : Evaluator)
  | addAlias (name target : String)
  | unregister (identifier : String)
  | addStandard

/-- The name that a change brings in, if it is for one name. -/
def Change.name? : Change → Option String
  | register identifier _ | registerEvaluator identifier _ _ => some identifier
  | addAlias name _ => some name
  | unregister _ | addStandard => none

/-- The operator that a change registers, under its identifier. -/
def Change.operator? : Change → Option (String × Operator)
  | register identifier o => some (identifier, o)
  | registerEvaluator identifier description evaluator =>
    some (identifier, ⟨.custom, description, .primitive (.custom identifier evaluator)⟩)
  | addAlias _ _ | unregister _ | addStandard => none

/-- The name that a change needs to be there already. -/
def Change.target? : Change → Option String
  | addAlias _ target => some target
  | register _ _ | registerEvaluator _ _ _ | unregister _ | addStandard => none

/-- What came of a change. -/
inductive Report
  | done
  | removed (wasThere : Bool)
  | failed (error : RegistryError)
deriving DecidableEq

/-- The registry after a registration and what came of it: the one before if it failed. -/
def registered (r : Registry) : Except RegistryError Registry → Registry × Report
  | .ok r' => (r', .done)
  | .error e => (r, .failed e)

/-- Make one change: the registry after it, and what came of it. -/
def apply (r : Registry) : Change → Registry × Report
  | .register identifier o => r.registered (r.register identifier o)
  | .registerEvaluator identifier description evaluator =>
    r.registered (r.registerEvaluator identifier description evaluator)
  | .addAlias name target => r.registered (r.addAlias name target)
  | .unregister identifier =>
    match r.unregister? identifier with
    | some r' => (r', .removed true)
    | none => (r, .removed false)
  | .addStandard => (r.addStandard, .done)

/-- The registry after one change. -/
def after (r : Registry) (c : Change) : Registry := (r.apply c).1

/-- What came of one change. -/
def report (r : Registry) (c : Change) : Report := (r.apply c).2

/-- The registry after changes in order. -/
def afterAll (r : Registry) (cs : List Change) : Registry := cs.foldl after r

theorem afterAll_nil (r : Registry) : r.afterAll [] = r := rfl

theorem afterAll_cons (r : Registry) (c : Change) (cs : List Change) :
    r.afterAll (c :: cs) = (r.after c).afterAll cs := rfl

theorem afterAll_append (r : Registry) (cs ds : List Change) :
    r.afterAll (cs ++ ds) = (r.afterAll cs).afterAll ds := List.foldl_append

theorem afterAll_concat (r : Registry) (cs : List Change) (c : Change) :
    r.afterAll (cs ++ [c]) = (r.afterAll cs).after c := afterAll_append r cs [c]

/-- What every change preserves, changes in order preserve. -/
theorem afterAll_induction {P : Registry → Prop} (hstep : ∀ r c, P r → P (r.after c))
    {r : Registry} (h : P r) (cs : List Change) : P (r.afterAll cs) := by
  induction cs generalizing r with
  | nil =>
    rw [afterAll_nil]
    exact h
  | cons c cs ih =>
    rw [afterAll_cons]
    exact ih (hstep r c h)

theorem apply_of_operator? (r : Registry) {c : Change} {identifier : String} {o : Operator}
    (hc : c.operator? = some (identifier, o)) :
    r.apply c =
      if r.isFree identifier then
        ({ r with operators := r.operators.insert identifier o }, .done)
      else (r, .failed (.duplicateOperator identifier)) := by
  have h : r.apply c = r.registered (r.register identifier o) := by
    cases c with
    | register _ _ => cases hc; rfl
    | registerEvaluator _ _ _ => cases hc; rfl
    | addAlias _ _ => cases hc
    | unregister _ => cases hc
    | addStandard => cases hc
  rw [h]
  unfold register
  by_cases hf : r.isFree identifier = true
  · simp only [if_pos hf, registered]
  · simp only [if_neg hf, registered]

theorem apply_addAlias_unknown {r : Registry} {name target : String}
    (h : r.canonical? target = none) :
    r.apply (.addAlias name target) = (r, .failed (.unknownAliasTarget name target)) := by
  show r.registered (r.addAlias name target) = _
  unfold addAlias
  rw [h]
  rfl

theorem apply_addAlias_known {r : Registry} {name target identifier : String}
    (h : r.canonical? target = some identifier) :
    r.apply (.addAlias name target) =
      if r.isFree name then ({ r with aliases := r.aliases.insert name identifier }, .done)
      else (r, .failed (.duplicateOperator name)) := by
  show r.registered (r.addAlias name target) = _
  unfold addAlias
  rw [h]
  by_cases hn : r.isFree name = true
  · simp only [if_pos hn, registered]
  · simp only [if_neg hn, registered]

theorem apply_unregister (r : Registry) (identifier : String) :
    r.apply (.unregister identifier) =
      if r.isOperator identifier then (r.erase identifier, .removed true)
      else (r, .removed false) := by
  unfold apply unregister?
  by_cases h : r.isOperator identifier = true
  · simp only [if_pos h]
  · simp only [if_neg h]

theorem after_of_addAlias {r r' : Registry} {name target : String}
    (h : r.addAlias name target = .ok r') : r.after (.addAlias name target) = r' := by
  show (r.registered (r.addAlias name target)).1 = r'
  rw [h]
  rfl

theorem after_of_unregister? {r r' : Registry} {identifier : String}
    (h : r.unregister? identifier = some r') : r.after (.unregister identifier) = r' := by
  unfold after
  rw [apply_unregister, if_pos ((unregister?_eq_some_iff r r' identifier).1 h).1]
  exact ((unregister?_eq_some_iff r r' identifier).1 h).2.symm

theorem apply_addStandard (r : Registry) : r.apply .addStandard = (r.addStandard, .done) := rfl

end Registry

end Verdict
