import Mathlib.Algebra.Ring.Parity
import Verdict.Proofs.Expr.Spelling
import Verdict.Proofs.Registry.Resolution
import Verdict.Registry.Change

/-
  Chains of negations. Every "not:" in front of a text wraps its expression once more
  (`parse_of_negates`), a wrapped expression fails as the one inside it does and else resolves to
  the negation of its predicate (`resolve_iterate_wrap`), and verdicts follow
  (`evaluate_iterate_not`). So nothing but the number of negations counts, and of it only whether
  it is even. `negation_exact` has all of it.
-/
namespace Verdict

namespace Expr

/-- `s` has so many times "not:" in front of `t`, with any blanks around each "not". -/
def Negates (n : Nat) (t s : String) : Prop :=
  ∃ ps : List (List Char), ps.length = n ∧ (∀ p ∈ ps, Padded "not" p) ∧
    s.toList = ps.flatMap (fun p => p ++ [':']) ++ t.toList

theorem isName_not : IsName "not" := by decide

theorem parse_of_negates {n : Nat} {t s : String} {e : Expr} (hs : Negates n t s)
    (ht : parse t = .ok e) : parse s = .ok ((wrap "not")^[n] e) := by
  obtain ⟨ps, rfl, hps, hs⟩ := hs
  induction ps generalizing s with
  | nil =>
    obtain rfl := String.toList_inj.1 hs
    exact ht
  | cons p ps ih =>
    obtain ⟨hp, hps⟩ := List.forall_mem_cons.1 hps
    have hrest := ih hps String.toList_ofList
    rw [List.length_cons, Function.iterate_succ_apply']
    refine parse_prefixed hp isName_not ?_ hrest
    rw [hs, String.toList_ofList, List.flatMap_cons, List.append_assoc, List.append_assoc,
      List.singleton_append]

end Expr

/-! ## Verdicts -/

theorem Predicate.evaluate_iterate_not (n : Nat) (p : Predicate) (v w : Value) :
    (Predicate.not^[n] p).evaluate v w = Bool.not^[n] (p.evaluate v w) :=
  Function.Semiconj.iterate_right (f := fun p => p.evaluate v w)
    (fun p => Predicate.evaluate_not p v w) n p

namespace Registry

/-- A combinator that wraps an expression over and over is applied to its predicate as often. -/
theorem resolve_iterate_wrap {r : Registry} {name : String} {f : Predicate → Predicate}
    (hb : r.binding name = .ok (.unary f)) (n : Nat) (e : Expr) :
    r.resolve ((Expr.wrap name)^[n] e) = (r.resolve e).map f^[n] := by
  induction n with
  | zero => cases h : r.resolve e <;> simp [h, Except.map]
  | succ n ih =>
    rw [Function.iterate_succ_apply', Function.iterate_succ']
    show r.resolve (.apply name [_]) = _
    rw [resolve_unary hb, ih]
    cases r.resolve e <;> rfl

theorem resolveText_of_negates {r : Registry} (hb : r.binding "not" = .ok (.unary .not))
    {t s : String} {e : Expr} {n : Nat} (ht : Expr.parse t = .ok e) (hs : Expr.Negates n t s) :
    r.resolveText s = (r.resolveText t).map Predicate.not^[n] := by
  unfold resolveText
  rw [Expr.parse_of_negates hs ht, ht]
  exact resolve_iterate_wrap hb n e

theorem evaluate_of_negates {r : Registry} (hb : r.binding "not" = .ok (.unary .not))
    {t s : String} {e : Expr} {n : Nat} (ht : Expr.parse t = .ok e) (hs : Expr.Negates n t s)
    (v w : Value) : r.evaluate s v w = (r.evaluate t v w).map Bool.not^[n] := by
  unfold evaluate
  rw [resolveText_of_negates hb ht hs]
  cases r.resolveText t with
  | error error => rfl
  | ok p => exact congrArg Except.ok (Predicate.evaluate_iterate_not n p v w)

/-- Negations in front of a text, in every registry whose "not" is the negation of predicates,
whatever the text names. What fails without them fails with them in the same way; and else the
verdict on every pair of operands is negated as often as they say, which is not at all when they
are even in number, and once when they are odd. -/
theorem negation_exact {r : Registry} (hb : r.binding "not" = .ok (.unary .not)) {t s : String}
    {e : Expr} {n : Nat} (ht : Expr.parse t = .ok e) (hs : Expr.Negates n t s) :
    (∀ error, r.resolveText s = .error error ↔ r.resolveText t = .error error) ∧
    (∀ p, r.resolveText t = .ok p →
      ∃ q, r.resolveText s = .ok q ∧
        ∀ v w, q.evaluate v w = Bool.not^[n] (p.evaluate v w)) ∧
    (∀ v w, (Even n → r.evaluate s v w = r.evaluate t v w) ∧
      (Odd n → r.evaluate s v w = (r.evaluate t v w).map Bool.not)) := by
  have htext := resolveText_of_negates hb ht hs
  refine ⟨fun error => ?_, fun p hp => ?_, fun v w => ⟨fun hn => ?_, fun hn => ?_⟩⟩
  · rw [htext]
    cases r.resolveText t <;> simp [Except.map]
  · rw [htext, hp]
    exact ⟨_, rfl, Predicate.evaluate_iterate_not n p⟩
  · rw [evaluate_of_negates hb ht hs, Bool.involutive_not.iterate_even hn]
    cases r.evaluate t v w <;> rfl
  · rw [evaluate_of_negates hb ht hs, Bool.involutive_not.iterate_odd hn]

/-- The standard registry with an evaluator of a caller and a sign for it. -/
def withPrefix : Registry :=
  (standard.after (.registerEvaluator "prefix" "starts with" Evaluator.startsWith)).after
    (.addAlias "^" "prefix")

/-- Three negations, with blanks here and there, of what an alias stands for. -/
theorem negation_of_alias :
    withPrefix.binding "not" = .ok (.unary .not) ∧ Expr.parse " ^" = .ok (.named "^") ∧
    Expr.Negates 3 " ^" "not: not :not: ^" ∧
    withPrefix.evaluate "not: not :not: ^" (.text "ab") (.text "a") =
      (withPrefix.evaluate " ^" (.text "ab") (.text "a")).map Bool.not ∧
    withPrefix.evaluate "not: not :not: ^" (.text "ab") (.text "a") = .ok false := by
  have hb : withPrefix.binding "not" = .ok (.unary .not) := rfl
  have ht : Expr.parse " ^" = .ok (.named "^") := rfl
  have hs : Expr.Negates 3 " ^" "not: not :not: ^" := by
    refine ⟨["not".toList, " not ".toList, "not".toList], rfl, ?_, by decide⟩
    simp only [List.forall_mem_cons]
    exact ⟨Expr.padded_self _, Expr.padded_of_all [' '] [' '] rfl rfl rfl, Expr.padded_self _,
      by simp⟩
  have hodd := ((negation_exact hb ht hs).2.2 (.text "ab") (.text "a")).2 (by decide)
  refine ⟨hb, ht, hs, hodd, ?_⟩
  rw [hodd]
  rfl

end Registry

end Verdict
