import Verdict.Proofs.Registry.Aliases

/-
  Aliases are transparent to resolving. An expression and the one with every name replaced by the
  identifier that it stands for have the same predicate, or fail at the same node in the same way.
  This holds of any change of names that leads to the same operators (`resolve_rename_eq_ok_iff`,
  `FailsAt.rename`); in a registry that is reached, going to the identifier is such a change
  (`Sound.operatorOf?_canonicalName`), because what an alias stands for is registered.
  `resolve_canonical_exact` has both outcomes, with what the two errors say.
-/
namespace Verdict

namespace Expr

mutual
/-- The expression with its names changed. -/
def rename (f : String → String) : Expr → Expr
  | named name => named (f name)
  | apply name es => apply (f name) (renameAll f es)

def renameAll (f : String → String) : List Expr → List Expr
  | [] => []
  | e :: es => rename f e :: renameAll f es
end

/-- A node with its name changed. -/
def renameNode (f : String → String) (node : String × Nat) : String × Nat := (f node.1, node.2)

variable (f : String → String)

theorem rename_named (name : String) : (named name).rename f = named (f name) := by
  simp [rename]

theorem rename_apply (name : String) (es : List Expr) :
    (apply name es).rename f = apply (f name) (renameAll f es) := by simp [rename]

theorem renameAll_eq_map (es : List Expr) : renameAll f es = es.map (rename f) := by
  induction es with
  | nil => simp [renameAll]
  | cons e es ih => rw [renameAll, ih, List.map_cons]

mutual
/-- A change of names keeps the nodes in their places. -/
theorem nodes_rename : ∀ e : Expr, (e.rename f).nodes = e.nodes.map (renameNode f)
  | named name => by
      rw [rename_named, nodes_named, nodes_named]
      rfl
  | apply name es => by
      have hlength : (renameAll f es).length = es.length := by
        rw [renameAll_eq_map, List.length_map]
      rw [rename_apply, nodes_apply, nodes_apply, nodesAll_renameAll es, hlength]
      rfl

theorem nodesAll_renameAll :
    ∀ es : List Expr, nodesAll (renameAll f es) = (nodesAll es).map (renameNode f)
  | [] => by
      rw [renameAll, nodesAll_nil]
      rfl
  | e :: es => by
      rw [renameAll, nodesAll_cons, nodesAll_cons, nodes_rename e, nodesAll_renameAll es,
        List.map_append]
end

end Expr

/-- The failure with the name of the operator changed. -/
def RegistryError.renameOperator (f : String → String) : RegistryError → RegistryError
  | unknownOperator name => unknownOperator (f name)
  | arityMismatch name expected found => arityMismatch (f name) expected found
  | duplicateOperator name => duplicateOperator name
  | unknownAliasTarget name target => unknownAliasTarget name target
  | emptyIdentifier expression => emptyIdentifier expression
  | keyCount count => keyCount count

namespace Registry

/-! ## Names that lead to the same operators -/

/-- The first faulty node of the expression is the one at this place in pre-order, with this
error. -/
def FailsAt (r : Registry) (e : Expr) (place : Nat) (node : String × Nat)
    (error : RegistryError) : Prop :=
  ∃ before after, e.nodes = before ++ node :: after ∧ before.length = place ∧
    (∀ earlier ∈ before, r.fault? earlier = none) ∧ r.fault? node = some error

theorem resolve_eq_error_iff_failsAt (r : Registry) (e : Expr) (error : RegistryError) :
    r.resolve e = .error error ↔ ∃ place node, r.FailsAt e place node error := by
  rw [resolve_eq_error_iff]
  constructor
  · rintro ⟨before, node, after, hnodes, hfault, hbefore⟩
    exact ⟨before.length, node, before, after, hnodes, rfl, hbefore, hfault⟩
  · rintro ⟨place, node, before, after, hnodes, -, hbefore, hfault⟩
    exact ⟨before, node, after, hnodes, hfault, hbefore⟩

section Rename

variable {r : Registry} {f : String → String}

theorem fault?_renameNode (hf : ∀ name, r.operatorOf? (f name) = r.operatorOf? name)
    (node : String × Nat) :
    r.fault? (Expr.renameNode f node) =
      (r.fault? node).map (RegistryError.renameOperator f) := by
  show r.fault? (f node.1, node.2) = _
  unfold fault?
  rw [hf]
  cases r.operatorOf? node.1 with
  | none => rfl
  | some o => by_cases hn : node.2 = o.binding.arity <;> simp [hn, RegistryError.renameOperator]

mutual
theorem resolve_rename_eq_ok_iff (hf : ∀ name, r.operatorOf? (f name) = r.operatorOf? name) :
    ∀ (e : Expr) (p : Predicate), r.resolve (e.rename f) = .ok p ↔ r.resolve e = .ok p
  | .named name, p => by
      rw [Expr.rename_named, ← resolve_apply_nil, ← resolve_apply_nil, resolve_apply_eq_ok_iff,
        resolve_apply_eq_ok_iff, hf]
  | .apply name es, p => by
      rw [Expr.rename_apply, resolve_apply_eq_ok_iff, resolve_apply_eq_ok_iff, hf]
      simp only [resolveAll_rename_eq_ok_iff hf es]

theorem resolveAll_rename_eq_ok_iff (hf : ∀ name, r.operatorOf? (f name) = r.operatorOf? name) :
    ∀ (es : List Expr) (ps : List Predicate),
      r.resolveAll (Expr.renameAll f es) = .ok ps ↔ r.resolveAll es = .ok ps
  | [], ps => by rw [Expr.renameAll]
  | e :: es, ps => by
      rw [Expr.renameAll, resolveAll_cons_eq_ok_iff, resolveAll_cons_eq_ok_iff]
      simp only [resolve_rename_eq_ok_iff hf e, resolveAll_rename_eq_ok_iff hf es]
end

/-- The renamed expression fails at the same place, with the name changed in the error. -/
theorem FailsAt.rename {e : Expr} {place : Nat} {node : String × Nat} {error : RegistryError}
    (h : r.FailsAt e place node error)
    (hf : ∀ name, r.operatorOf? (f name) = r.operatorOf? name) :
    r.FailsAt (e.rename f) place (Expr.renameNode f node) (error.renameOperator f) := by
  obtain ⟨before, after, hnodes, hplace, hbefore, hfault⟩ := h
  refine ⟨before.map (Expr.renameNode f), after.map (Expr.renameNode f), ?_, ?_, ?_, ?_⟩
  · rw [Expr.nodes_rename, hnodes, List.map_append, List.map_cons]
  · rw [List.length_map, hplace]
  · intro earlier hearlier
    obtain ⟨other, hother, rfl⟩ := List.mem_map.1 hearlier
    rw [fault?_renameNode hf, hbefore other hother]
    rfl
  · rw [fault?_renameNode hf, hfault]
    rfl

end Rename

/-! ## Identifiers for aliases -/

/-- The identifier that a name stands for; a name that stands for none is kept. -/
def canonicalName (r : Registry) (name : String) : String := (r.canonical? name).getD name

/-- The expression with the identifiers that its names stand for. -/
def canonicalExpr (r : Registry) (e : Expr) : Expr := e.rename r.canonicalName

theorem canonicalName_of_canonical? {r : Registry} {name identifier : String}
    (h : r.canonical? name = some identifier) : r.canonicalName name = identifier := by
  unfold canonicalName
  rw [h]
  rfl

theorem canonicalName_of_unknown {r : Registry} {name : String}
    (h : r.canonical? name = none) : r.canonicalName name = name := by
  unfold canonicalName
  rw [h]
  rfl

theorem Sound.operatorOf?_canonicalName {r : Registry} (h : r.Sound) (name : String) :
    r.operatorOf? (r.canonicalName name) = r.operatorOf? name := by
  cases hc : r.canonical? name with
  | none => rw [canonicalName_of_unknown hc]
  | some identifier =>
    have hidem : r.canonical? identifier = some identifier := h.canonical?_idem hc
    rw [canonicalName_of_canonical? hc]
    unfold operatorOf?
    rw [hidem, hc]

/-- What is wrong with a node and with its canonical form: both names are unknown, and then equal,
or the operator takes another number of operands. -/
theorem Sound.fault?_cases {r : Registry} (h : r.Sound) {name : String} {n : Nat}
    {error : RegistryError} (hfault : r.fault? (name, n) = some error) :
    (r.canonical? name = none ∧ error = .unknownOperator name ∧
      error.renameOperator r.canonicalName = .unknownOperator name) ∨
    ∃ identifier arity, r.canonical? name = some identifier ∧
      error = .arityMismatch name arity n ∧
      error.renameOperator r.canonicalName = .arityMismatch identifier arity n := by
  unfold fault? at hfault
  cases ho : r.operatorOf? name with
  | none =>
    simp only [ho, Option.some.injEq] at hfault
    have hunknown : r.canonical? name = none := by
      have hnot := (h.operatorOf?_eq_none_iff name).1 ho
      unfold contains at hnot
      exact Option.not_isSome_iff_eq_none.1 (by rw [hnot]; exact Bool.false_ne_true)
    refine Or.inl ⟨hunknown, hfault.symm, ?_⟩
    rw [← hfault]
    show RegistryError.unknownOperator (r.canonicalName name) = _
    rw [canonicalName_of_unknown hunknown]
  | some o =>
    obtain ⟨identifier, hc, -⟩ := Option.bind_eq_some_iff.1 ho
    simp only [ho] at hfault
    by_cases hn : n = o.binding.arity
    · rw [if_pos hn] at hfault
      cases hfault
    · rw [if_neg hn] at hfault
      have herror := Option.some.inj hfault
      refine Or.inr ⟨identifier, o.binding.arity, hc, herror.symm, ?_⟩
      rw [← herror]
      show RegistryError.arityMismatch (r.canonicalName name) o.binding.arity n = _
      rw [canonicalName_of_canonical? hc]

/-- In every registry that is reached, an expression and its canonical form resolve alike. They
have the same predicate; or they fail at the same node, both because its name is unknown, which
then is the same in both, or both because of the same numbers of operands, the one with the name
as it is written and the other with the identifier that it stands for. -/
theorem resolve_canonical_exact {r : Registry} (hr : r.Reachable) (e : Expr) :
    (∀ p, r.resolve (r.canonicalExpr e) = .ok p ↔ r.resolve e = .ok p) ∧
    (∀ error, r.resolve e = .error error →
      ∃ place name n error', r.FailsAt e place (name, n) error ∧
        r.FailsAt (r.canonicalExpr e) place (r.canonicalName name, n) error' ∧
        r.resolve (r.canonicalExpr e) = .error error' ∧
        ((r.canonical? name = none ∧
            error = .unknownOperator name ∧ error' = .unknownOperator name) ∨
          ∃ identifier arity, r.canonical? name = some identifier ∧
            error = .arityMismatch name arity n ∧ error' = .arityMismatch identifier arity n)) := by
  have hf := hr.sound.operatorOf?_canonicalName
  refine ⟨resolve_rename_eq_ok_iff hf e, fun error herror => ?_⟩
  obtain ⟨place, ⟨name, n⟩, hfails⟩ := (resolve_eq_error_iff_failsAt r e error).1 herror
  have hfails' := hfails.rename hf
  obtain ⟨-, -, -, -, -, hfault⟩ := id hfails
  exact ⟨place, name, n, error.renameOperator r.canonicalName, hfails, hfails',
    (resolve_eq_error_iff_failsAt r _ _).2 ⟨place, _, hfails'⟩, hr.sound.fault?_cases hfault⟩

/-- The standard registry with an alias for a combinator and one for a relation. -/
def withInverse : Registry :=
  (standard.after (.addAlias "inverse" "not")).after (.addAlias "less" "lt")

/-- An expression in aliases has the predicate of the one in identifiers, and an operand too many
is an operand too many in both, each under its own name. -/
theorem resolve_inverse :
    withInverse.Reachable ∧
    withInverse.canonicalExpr (.apply "inverse" [.named "less"]) = .apply "not" [.named "lt"] ∧
    withInverse.resolve (.apply "inverse" [.named "less"]) = .ok (.not (.order .less)) ∧
    withInverse.resolve (.apply "inverse" [.named "less", .named "eq"]) =
      .error (.arityMismatch "inverse" 1 2) ∧
    withInverse.resolve (withInverse.canonicalExpr
      (.apply "inverse" [.named "less", .named "eq"])) = .error (.arityMismatch "not" 1 2) := by
  have hr : withInverse.Reachable := ((Reachable.initial .standard).after _).after _
  have he : withInverse.canonicalExpr (.apply "inverse" [.named "less"]) =
      .apply "not" [.named "lt"] := by decide +kernel
  have hp : withInverse.resolve (.apply "not" [.named "lt"]) = .ok (.not (.order .less)) := rfl
  have hmany : withInverse.resolve (.apply "inverse" [.named "less", .named "eq"]) =
      .error (.arityMismatch "inverse" 1 2) := rfl
  have hinverse : withInverse.canonical? "inverse" = some "not" := rfl
  refine ⟨hr, he, ?_, hmany, ?_⟩
  · rw [← he] at hp
    exact ((resolve_canonical_exact hr (.apply "inverse" [.named "less"])).1 _).1 hp
  · obtain ⟨place, name, n, error', -, -, hother, hkind⟩ :=
      (resolve_canonical_exact hr _).2 _ hmany
    rcases hkind with ⟨-, herror, -⟩ | ⟨identifier, arity, hc, herror, rfl⟩
    · cases herror
    · cases herror
      rw [hinverse] at hc
      rw [hother, ← Option.some.inj hc]

end Registry

end Verdict
