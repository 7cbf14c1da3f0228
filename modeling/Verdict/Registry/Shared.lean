import Verdict.Registry.Config

/-
  A registry that several clients share. Every call is taken whole, one after the other, so what
  clients see is the run of their calls in some order. Registering calls change the table when
  they succeed, all others leave it. `run_append` says that a run can be cut anywhere.
-/
namespace Verdict

namespace Registry

/-- What a client asks of a shared registry. -/
inductive Call
  | registerEvaluator (identifier description : String) (evaluator : Evaluator)
  | addAlias (name target : String)
  | resolveName (name : String)
  | resolve (e : Expr)
  | snapshot

/-- What a client is told. -/
inductive Answer
  | done
  | failed (error : RegistryError)
  | predicate (p : Predicate)
  | table (r : Registry)

/-- The table after a registering call: the new one, or the one before if the call failed. -/
def settle (r : Registry) : Except RegistryError Registry → Registry × Answer
  | .ok r' => (r', .done)
  | .error e => (r, .failed e)

/-- The answer of a resolving call. -/
def Answer.ofPredicate : Except RegistryError Predicate → Answer
  | .ok p => .predicate p
  | .error e => .failed e

/-- Take one call: the table after it, and its answer. -/
def perform (r : Registry) : Call → Registry × Answer
  | .registerEvaluator identifier description evaluator =>
    r.settle (r.registerEvaluator identifier description evaluator)
  | .addAlias name target => r.settle (r.addAlias name target)
  | .resolveName name => (r, .ofPredicate (r.resolveName name))
  | .resolve e => (r, .ofPredicate (r.resolve e))
  | .snapshot => (r, .table r)

/-- Take calls in order. -/
def run (r : Registry) : List Call → Registry × List Answer
  | [] => (r, [])
  | c :: cs =>
    let (r, a) := r.perform c
    let (r, as) := r.run cs
    (r, a :: as)

theorem run_nil (r : Registry) : r.run [] = (r, []) := rfl

theorem run_cons (r : Registry) (c : Call) (cs : List Call) :
    r.run (c :: cs) =
      (((r.perform c).1.run cs).1, (r.perform c).2 :: ((r.perform c).1.run cs).2) := rfl

theorem run_append (r : Registry) (cs ds : List Call) :
    r.run (cs ++ ds) =
      (((r.run cs).1.run ds).1, (r.run cs).2 ++ ((r.run cs).1.run ds).2) := by
  induction cs generalizing r with
  | nil => simp [run_nil]
  | cons c cs ih => simp only [List.cons_append, run_cons, ih]

end Registry

end Verdict
