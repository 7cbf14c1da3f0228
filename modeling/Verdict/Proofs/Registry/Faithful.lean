import Verdict.Proofs.Registry.Sharing
import Verdict.Proofs.Registry.Transparency

/-
  What resolving keeps of an expression. A predicate is put together from named parts, so it can
  be read back as an expression (`Predicate.expr`), which is shown as the predicate is
  (`Predicate.display_expr`). In the standard registry and in all that evaluators and aliases of
  callers make of it, every binding makes predicates that read back as its own identifier
  (`Enriched.readable`, an invariant of single changes). Hence a predicate reads back as the
  expression that it was resolved from, but for aliases and empty operands
  (`canonicalForm_of_builds`), and every standard predicate can be resolved from what it reads as
  (`builds_expr`). `resolve_faithful` has both.
-/
namespace Verdict

/-! ## Predicates as expressions -/

theorem Expr.display_and (e f : Expr) :
    (e.and f).display = "and(" ++ e.display ++ ", " ++ f.display ++ ")" := by
  simp [Expr.and, display, displayRest, String.append_assoc]

theorem Expr.display_or (e f : Expr) :
    (e.or f).display = "or(" ++ e.display ++ ", " ++ f.display ++ ")" := by
  simp [Expr.or, display, displayRest, String.append_assoc]

namespace Predicate

/-- The expression, in identifiers, that the predicate reads as. -/
def expr : Predicate → Expr
  | order r => .named r.suffix
  | size r => .named ("size_" ++ r.suffix)
  | not p => p.expr.not
  | and p q => p.expr.and q.expr
  | or p q => p.expr.or q.expr
  | custom name _ => .named name

/-- Predicates of one structure, with the same relations and the same names of evaluators. The
evaluators themselves are not compared. -/
inductive SameForm : Predicate → Predicate → Prop
  | order (r : Relation) : SameForm (order r) (order r)
  | size (r : Relation) : SameForm (size r) (size r)
  | not {p p' : Predicate} (h : SameForm p p') : SameForm (not p) (not p')
  | and {p p' q q' : Predicate} (hp : SameForm p p') (hq : SameForm q q') :
      SameForm (and p q) (and p' q')
  | or {p p' q q' : Predicate} (hp : SameForm p p') (hq : SameForm q q') :
      SameForm (or p q) (or p' q')
  | custom (name : String) (f g : Evaluator) : SameForm (custom name f) (custom name g)

/-- A predicate and the expression that it reads as are shown alike. -/
theorem display_expr (p : Predicate) : p.expr.display = p.display := by
  induction p with
  | order r | size r | custom name f => simp [expr, display, Expr.display]
  | not p ih => rw [expr, Expr.display_not, ih, display]
  | and p q ihp ihq => rw [expr, Expr.display_and, ihp, ihq, display]
  | or p q ihp ihq => rw [expr, Expr.display_or, ihp, ihq, display]

theorem SameForm.expr_eq {p q : Predicate} (h : p.SameForm q) : p.expr = q.expr := by
  induction h with
  | order | size | custom => rfl
  | not _ ih => rw [expr, expr, ih]
  | and _ _ ihp ihq => rw [expr, expr, ihp, ihq]
  | or _ _ ihp ihq => rw [expr, expr, ihp, ihq]

end Predicate

/-! ## Applications without operands -/

namespace Expr

mutual
/-- The expression with plain names for the names that are applied to nothing. -/
def bare : Expr → Expr
  | named name => named name
  | apply name [] => named name
  | apply name (e :: es) => apply name (bare e :: bareAll es)

def bareAll : List Expr → List Expr
  | [] => []
  | e :: es => bare e :: bareAll es
end

theorem length_bareAll (es : List Expr) : (bareAll es).length = es.length := by
  induction es with
  | nil => simp [bareAll]
  | cons e es ih => rw [bareAll, List.length_cons, ih, List.length_cons]

end Expr

namespace Registry

mutual
theorem resolve_bare (r : Registry) : ∀ e : Expr, r.resolve e.bare = r.resolve e
  | .named name => by rw [Expr.bare]
  | .apply name [] => by rw [Expr.bare, resolve_apply_nil]
  | .apply name (e :: es) => by
      rw [Expr.bare, resolve_apply, resolve_apply, List.length_cons, Expr.length_bareAll,
        List.length_cons, resolveAll_cons, resolveAll_cons, resolve_bare r e,
        resolveAll_bareAll r es]

theorem resolveAll_bareAll (r : Registry) :
    ∀ es : List Expr, r.resolveAll (Expr.bareAll es) = r.resolveAll es
  | [] => by rw [Expr.bareAll]
  | e :: es => by
      rw [Expr.bareAll, resolveAll_cons, resolveAll_cons, resolve_bare r e,
        resolveAll_bareAll r es]
end

/-- The expression with the identifiers that its names stand for, and with plain names for those
that are applied to nothing. -/
def canonicalForm (r : Registry) (e : Expr) : Expr := (r.canonicalExpr e).bare

theorem canonicalForm_named (r : Registry) (name : String) :
    r.canonicalForm (.named name) = .named (r.canonicalName name) := by
  simp [canonicalForm, canonicalExpr, Expr.rename, Expr.bare]

theorem canonicalForm_nullary (r : Registry) (name : String) :
    r.canonicalForm (.apply name []) = .named (r.canonicalName name) := by
  simp [canonicalForm, canonicalExpr, Expr.rename, Expr.renameAll, Expr.bare]

theorem canonicalForm_unary (r : Registry) (name : String) (e : Expr) :
    r.canonicalForm (.apply name [e]) = .apply (r.canonicalName name) [r.canonicalForm e] := by
  simp [canonicalForm, canonicalExpr, Expr.rename, Expr.renameAll, Expr.bare, Expr.bareAll]

theorem canonicalForm_binary (r : Registry) (name : String) (e₁ e₂ : Expr) :
    r.canonicalForm (.apply name [e₁, e₂]) =
      .apply (r.canonicalName name) [r.canonicalForm e₁, r.canonicalForm e₂] := by
  simp [canonicalForm, canonicalExpr, Expr.rename, Expr.renameAll, Expr.bare, Expr.bareAll]

/-- In a sound registry the canonical form resolves to what the expression resolves to. -/
theorem Sound.resolve_canonicalForm {r : Registry} (h : r.Sound) {e : Expr} {p : Predicate}
    (hp : r.resolve e = .ok p) : r.resolve (r.canonicalForm e) = .ok p := by
  unfold canonicalForm
  rw [resolve_bare]
  exact (resolve_rename_eq_ok_iff h.operatorOf?_canonicalName e p).2 hp

end Registry

/-! ## Bindings that keep their names -/

/-- What the binding makes reads as its identifier, applied to what the operands read as. -/
def Binding.ReadsAs (identifier : String) : Binding → Prop
  | primitive p => p.expr = .named identifier
  | unary f => ∀ p, (f p).expr = .apply identifier [p.expr]
  | binary f => ∀ p q, (f p q).expr = .apply identifier [p.expr, q.expr]

namespace Registry

theorem readsAs_of_mem_standardOperators :
    ∀ e ∈ standardOperators, e.2.binding.ReadsAs e.1 := by
  refine forall_mem_standardOperators (fun _ => rfl) (fun _ => rfl) ?_
  unfold logicalOperators
  simp only [List.forall_mem_cons]
  exact ⟨fun _ => rfl, fun _ _ => rfl, fun _ _ => rfl, by simp⟩

/-- Every identifier is bound to what reads as it. -/
def Legible (r : Registry) : Prop :=
  ∀ identifier o, r.operators.get? identifier = some o → o.binding.ReadsAs identifier

theorem legible_standard : standard.Legible := fun identifier o ho =>
  readsAs_of_mem_standardOperators (identifier, o)
    (OrderedMap.mem_of_mem_ofList ((OrderedMap.mem_entries_iff _ identifier o).2 ho))

/-- A sound registry that can be read back, in which nothing that is standard is missing. -/
structure Readable (r : Registry) : Prop where
  sound : r.Sound
  legible : r.Legible
  retains : standard.Retains r

theorem readable_standard : standard.Readable where
  sound := (Reachable.initial .standard).sound
  legible := legible_standard
  retains := .refl standard

/-- A change that brings in one name keeps a registry readable, if what it binds the name to reads
as it. -/
theorem Readable.step {r : Registry} {c : Change} {x : Registry × Report} {name : String}
    (h : r.Readable) (hs : Step r c x) (hc : c.name? = some name)
    (ho : ∀ identifier o, c.operator? = some (identifier, o) → o.binding.ReadsAs identifier) :
    x.1.Readable where
  sound := h.sound.step hs
  legible := by
    cases hs with
    | unknownTarget | taken | notThere | addAlias => exact h.legible
    | bind hb _ _ => exact OrderedMap.forall_get?_insert h.legible (ho _ _ hb)
    | erase | addStandard => cases hc
  retains := h.retains.trans (retains_step hs hc)

/-- The registries that come from the standard one as callers register evaluators and add
aliases. -/
inductive Enriched : Registry → Prop
  | standard : Enriched standard
  | registerEvaluator {r r' : Registry} {identifier description : String} {evaluator : Evaluator}
      (h : Enriched r) (hr : r.registerEvaluator identifier description evaluator = .ok r') :
      Enriched r'
  | addAlias {r r' : Registry} {name target : String} (h : Enriched r)
      (hr : r.addAlias name target = .ok r') : Enriched r'

theorem step_of_registerEvaluator {r r' : Registry} {identifier description : String}
    {evaluator : Evaluator} (h : r.registerEvaluator identifier description evaluator = .ok r') :
    Step r (.registerEvaluator identifier description evaluator) (r', .done) := by
  obtain ⟨hfree, rfl⟩ := (register_eq_ok_iff r r' identifier _).1 h
  obtain ⟨hi, ha⟩ := (isFree_iff r identifier).1 hfree
  exact .bind rfl hi ha

theorem step_of_addAlias {r r' : Registry} {name target : String}
    (h : r.addAlias name target = .ok r') : Step r (.addAlias name target) (r', .done) := by
  obtain ⟨identifier, ht, hfree, rfl⟩ := (addAlias_eq_ok_iff r r' name target).1 h
  obtain ⟨hi, ha⟩ := (isFree_iff r name).1 hfree
  exact .addAlias ht hi ha

theorem Enriched.readable {r : Registry} (h : r.Enriched) : r.Readable := by
  induction h with
  | standard => exact readable_standard
  | registerEvaluator _ hr ih =>
    refine ih.step (step_of_registerEvaluator hr) rfl fun identifier o ho => ?_
    -- a caller's evaluator is named as the identifier that it is registered under
    cases ho
    rfl
  | addAlias _ hr ih => exact ih.step (step_of_addAlias hr) rfl fun _ _ ho => nomatch ho

theorem Legible.readsAs_binding {r : Registry} (h : r.Legible) {name : String} {b : Binding}
    (hb : r.binding name = .ok b) : b.ReadsAs (r.canonicalName name) := by
  obtain ⟨o, ho, rfl⟩ := (binding_eq_ok_iff r name b).1 hb
  obtain ⟨identifier, hc, hget⟩ := Option.bind_eq_some_iff.1 ho
  rw [canonicalName_of_canonical? hc]
  exact h identifier o hget

/-! ## There and back -/

/-- A predicate reads as the canonical form of what it is built from. -/
theorem Legible.canonicalForm_of_builds {r : Registry} (h : r.Legible) {e : Expr}
    {p : Predicate} (hp : r.Builds e p) : r.canonicalForm e = p.expr := by
  induction hp with
  | named hb =>
    rw [canonicalForm_named]
    exact (h.readsAs_binding hb).symm
  | nullary hb =>
    rw [canonicalForm_nullary]
    exact (h.readsAs_binding hb).symm
  | @unary name f e p hb _ ih =>
    have hf : (f p).expr = .apply (r.canonicalName name) [p.expr] := h.readsAs_binding hb p
    rw [canonicalForm_unary, ih, hf]
  | @binary name f e₁ e₂ p q hb _ _ ih₁ ih₂ =>
    have hf : (f p q).expr = .apply (r.canonicalName name) [p.expr, q.expr] :=
      h.readsAs_binding hb p q
    rw [canonicalForm_binary, ih₁, ih₂, hf]

theorem Legible.canonicalForm_of_resolve {r : Registry} (h : r.Legible) {e : Expr}
    {p : Predicate} (hp : r.resolve e = .ok p) : r.canonicalForm e = p.expr :=
  h.canonicalForm_of_builds (builds_of_resolve r e p hp)

theorem binding_order (r : Relation) :
    standard.binding r.suffix = .ok (.primitive (.order r)) := by cases r <;> rfl

theorem binding_size (r : Relation) :
    standard.binding ("size_" ++ r.suffix) = .ok (.primitive (.size r)) := by cases r <;> rfl

/-- The standard operators build every standard predicate from what it reads as. -/
theorem builds_expr {p : Predicate} (hp : p.isStandard = true) : standard.Builds p.expr p := by
  induction p with
  | order r => exact .named (binding_order r)
  | size r => exact .named (binding_size r)
  | not p ih => exact .unary rfl (ih hp)
  | and p q ihp ihq =>
    obtain ⟨hp, hq⟩ := Bool.and_eq_true_iff.1 hp
    exact .binary rfl (ihp hp) (ihq hq)
  | or p q ihp ihq =>
    obtain ⟨hp, hq⟩ := Bool.and_eq_true_iff.1 hp
    exact .binary rfl (ihp hp) (ihq hq)
  | custom name f => cases hp

/-- Resolving loses nothing but aliases and empty operands, whatever evaluators and aliases callers
have added to the standard registry. A predicate is shown as the canonical form of its expression
is; expressions with predicates of one form have one canonical form, and expressions with one
canonical form have one predicate; and every predicate without evaluators of callers is resolved,
in all these registries, from an expression that is shown as it is. -/
theorem resolve_faithful :
    (∀ r : Registry, r.Enriched → ∀ e p, r.resolve e = .ok p →
      p.display = (r.canonicalForm e).display) ∧
    (∀ r : Registry, r.Enriched → ∀ e f p q, r.resolve e = .ok p → r.resolve f = .ok q →
      (p.SameForm q → r.canonicalForm e = r.canonicalForm f) ∧
      (r.canonicalForm e = r.canonicalForm f → p = q)) ∧
    (∀ p : Predicate, p.isStandard = true → ∃ e : Expr, e.display = p.display ∧
      ∀ r : Registry, r.Enriched → r.resolve e = .ok p) := by
  refine ⟨fun r hr e p hp => ?_, fun r hr e f p q hp hq => ⟨fun hform => ?_, fun heq => ?_⟩,
    fun p hp => ⟨p.expr, p.display_expr, fun r hr => ?_⟩⟩
  · rw [hr.readable.legible.canonicalForm_of_resolve hp, p.display_expr]
  · rw [hr.readable.legible.canonicalForm_of_resolve hp,
      hr.readable.legible.canonicalForm_of_resolve hq, hform.expr_eq]
  · have hp' := hr.readable.sound.resolve_canonicalForm hp
    have hq' := hr.readable.sound.resolve_canonicalForm hq
    rw [heq, hq'] at hp'
    exact (Except.ok.inj hp').symm
  · exact hr.readable.retains.resolve (resolve_of_builds (builds_expr hp))

/-- The standard registry with an evaluator of a caller. -/
def withCustom : Registry := standard.after (.registerEvaluator "same_kind" "" Evaluator.sameKind)

/-- The same with an alias for the evaluator. -/
def withKind : Registry := withCustom.after (.addAlias "kind" "same_kind")

/-- An expression with an alias that is applied to nothing, the one in identifiers, and a predicate
to be resolved. -/
theorem faithful_of_kind :
    withKind.Enriched ∧
    withKind.resolve (.apply "not" [.apply "kind" []]) =
      .ok (.not (.custom "same_kind" Evaluator.sameKind)) ∧
    (withKind.canonicalForm (.apply "not" [.apply "kind" []])).display = "not:same_kind" ∧
    withKind.canonicalForm (.apply "not" [.apply "kind" []]) =
      withKind.canonicalForm (.apply "not" [.named "same_kind"]) ∧
    ∃ e : Expr, e.display = "not:and(size_le, gt)" ∧
      withKind.resolve e = .ok (.not (.and (.size .lessOrEqual) (.order .greater))) := by
  have hcustom : standard.registerEvaluator "same_kind" "" Evaluator.sameKind = .ok withCustom :=
    rfl
  have hkind : withCustom.addAlias "kind" "same_kind" = .ok withKind := rfl
  have hr : withKind.Enriched := .addAlias (.registerEvaluator .standard hcustom) hkind
  have hp : withKind.resolve (.apply "not" [.apply "kind" []]) =
      .ok (.not (.custom "same_kind" Evaluator.sameKind)) := rfl
  have hq : withKind.resolve (.apply "not" [.named "same_kind"]) =
      .ok (.not (.custom "same_kind" Evaluator.sameKind)) := rfl
  obtain ⟨hshown, hforms, hall⟩ := resolve_faithful
  refine ⟨hr, hp, ?_, (hforms _ hr _ _ _ _ hp hq).1 (.not (.custom _ _ _)), ?_⟩
  · rw [← hshown _ hr _ _ hp]
    rfl
  · obtain ⟨e, he, hresolve⟩ := hall (.not (.and (.size .lessOrEqual) (.order .greater))) rfl
    exact ⟨e, he, hresolve _ hr⟩

end Registry

end Verdict
