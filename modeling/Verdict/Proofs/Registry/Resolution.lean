import Verdict.Registry.Resolve

/-
  Resolving as a walk over the nodes of an expression, in pre-order. A node is a name with the
  number of its operands; `fault?` says what is wrong with it, without looking at any other node.
  `findSome?_nodes`: the outcome of resolving is the fault of the first faulty node, if there is
  one. `resolve_eq_ok_iff_builds`: without a fault the predicate is put together from the bottom
  up, each binding applied to the predicates of its operands in their order (`Builds`).
  `resolve_exact` has both, and the verdicts of the logical combinators.
-/
namespace Verdict

namespace Expr

mutual
/-- The nodes of an expression in pre-order: names with the numbers of their operands. -/
def nodes : Expr → List (String × Nat)
  | named identifier => [(identifier, 0)]
  | apply operator operands => (operator, operands.length) :: nodesAll operands

def nodesAll : List Expr → List (String × Nat)
  | [] => []
  | e :: es => nodes e ++ nodesAll es
end

theorem nodes_named (name : String) : (named name).nodes = [(name, 0)] := by simp [nodes]

theorem nodes_apply (name : String) (es : List Expr) :
    (apply name es).nodes = (name, es.length) :: nodesAll es := by simp [nodes]

theorem nodesAll_nil : nodesAll [] = [] := by simp [nodesAll]

theorem nodesAll_cons (e : Expr) (es : List Expr) :
    nodesAll (e :: es) = e.nodes ++ nodesAll es := by simp [nodesAll]

mutual
/-- The nodes have the names of the expression, in the same order. -/
theorem map_fst_nodes : ∀ e : Expr, e.nodes.map Prod.fst = e.names
  | named name => by
      rw [nodes_named, names_named]
      rfl
  | apply name es => by
      rw [nodes_apply, names_apply, List.map_cons, map_fst_nodesAll es]

theorem map_fst_nodesAll : ∀ es : List Expr, (nodesAll es).map Prod.fst = namesAll es
  | [] => by
      rw [nodesAll_nil, namesAll]
      rfl
  | e :: es => by
      rw [nodesAll_cons, namesAll_cons, List.map_append, map_fst_nodes e, map_fst_nodesAll es]
end

end Expr

namespace Registry

/-! ## Faults of single nodes -/

/-- The operator that a name stands for. -/
def operatorOf? (r : Registry) (name : String) : Option Operator :=
  (r.canonical? name).bind r.operators.get?

/-- What is wrong with a node: its name stands for no operator, or for one that takes another
number of operands. -/
def fault? (r : Registry) (node : String × Nat) : Option RegistryError :=
  match r.operatorOf? node.1 with
  | none => some (.unknownOperator node.1)
  | some o =>
    if node.2 = o.binding.arity then none
    else some (.arityMismatch node.1 o.binding.arity node.2)

/-- The error of an outcome, if it is one. -/
def errorOf {α : Type} : Except RegistryError α → Option RegistryError
  | .ok _ => none
  | .error e => some e

theorem binding_of_operatorOf? {r : Registry} {name : String} {o : Operator}
    (h : r.operatorOf? name = some o) : r.binding name = .ok o.binding := by
  unfold operatorOf? at h
  unfold binding
  rw [h]

theorem binding_of_unknown {r : Registry} {name : String} (h : r.operatorOf? name = none) :
    r.binding name = .error (.unknownOperator name) := by
  unfold operatorOf? at h
  unfold binding
  rw [h]

theorem binding_eq_ok_iff (r : Registry) (name : String) (b : Binding) :
    r.binding name = .ok b ↔ ∃ o, r.operatorOf? name = some o ∧ o.binding = b := by
  cases h : r.operatorOf? name with
  | none => rw [binding_of_unknown h]; simp
  | some o => rw [binding_of_operatorOf? h]; simp

theorem errorOf_bindingFor (r : Registry) (name : String) (n : Nat) :
    errorOf (r.bindingFor name n) = r.fault? (name, n) := by
  unfold bindingFor fault?
  cases h : r.operatorOf? name with
  | none => rw [binding_of_unknown h]; rfl
  | some o =>
    rw [binding_of_operatorOf? h]
    by_cases hn : n = o.binding.arity
    · simp only [if_pos hn, errorOf]
    · simp only [if_neg hn, errorOf]

theorem fault?_eq_unknown_iff (r : Registry) (name other : String) (n : Nat) :
    r.fault? (name, n) = some (.unknownOperator other) ↔
      r.operatorOf? name = none ∧ name = other := by
  unfold fault?
  cases h : r.operatorOf? name with
  | none => simp
  | some o => by_cases hn : n = o.binding.arity <;> simp [hn]

theorem bindingFor_eq_ok_iff (r : Registry) (name : String) (n : Nat) (b : Binding) :
    r.bindingFor name n = .ok b ↔
      ∃ o, r.operatorOf? name = some o ∧ o.binding = b ∧ n = b.arity := by
  unfold bindingFor
  cases h : r.operatorOf? name with
  | none => rw [binding_of_unknown h]; simp
  | some o =>
    rw [binding_of_operatorOf? h]
    by_cases hn : n = o.binding.arity
    · simp only [if_pos hn, Except.ok.injEq, Option.some.injEq, exists_eq_left']
      exact ⟨fun hb => ⟨hb, hb ▸ hn⟩, And.left⟩
    · simp only [if_neg hn, Option.some.injEq, exists_eq_left', reduceCtorEq, false_iff]
      rintro ⟨rfl, h'⟩
      exact hn h'

/-! ## Operands -/

theorem resolveAll_nil (r : Registry) : r.resolveAll [] = .ok [] := by simp [resolveAll]

theorem resolveAll_cons (r : Registry) (e : Expr) (es : List Expr) :
    r.resolveAll (e :: es) =
      (r.resolve e).bind fun p => (r.resolveAll es).bind fun ps => .ok (p :: ps) := by
  rw [resolveAll]
  cases r.resolve e with
  | error err => rfl
  | ok p => cases h : r.resolveAll es <;> simp [Except.bind]

theorem resolveAll_cons_eq_ok_iff (r : Registry) (e : Expr) (es : List Expr)
    (qs : List Predicate) :
    r.resolveAll (e :: es) = .ok qs ↔
      ∃ p ps, r.resolve e = .ok p ∧ r.resolveAll es = .ok ps ∧ p :: ps = qs := by
  rw [resolveAll_cons]
  cases r.resolve e with
  | error err => simp [Except.bind]
  | ok p => cases r.resolveAll es <;> simp [Except.bind]

theorem length_of_resolveAll {r : Registry} {es : List Expr} {ps : List Predicate}
    (h : r.resolveAll es = .ok ps) : ps.length = es.length := by
  induction es generalizing ps with
  | nil =>
    rw [resolveAll_nil] at h
    rw [← Except.ok.inj h]
    rfl
  | cons e es ih =>
    obtain ⟨p, qs, -, hqs, rfl⟩ := (resolveAll_cons_eq_ok_iff r e es ps).1 h
    rw [List.length_cons, List.length_cons, ih hqs]

theorem combine_of_length (name : String) {b : Binding} {ps : List Predicate}
    (h : ps.length = b.arity) : ∃ p, b.combine? ps = some p ∧ combine name b ps = .ok p := by
  obtain ⟨p, hp⟩ := Option.isSome_iff_exists.1 ((b.combine?_isSome_iff ps).2 h)
  refine ⟨p, hp, ?_⟩
  unfold combine
  rw [hp]

/-- An application resolves when its name is known, its operands resolve, and the binding takes
as many. -/
theorem resolve_apply_eq_ok_iff (r : Registry) (name : String) (es : List Expr)
    (p : Predicate) :
    r.resolve (.apply name es) = .ok p ↔
      ∃ o ps, r.operatorOf? name = some o ∧ r.resolveAll es = .ok ps ∧
        o.binding.combine? ps = some p := by
  rw [resolve_apply]
  constructor
  · intro h
    cases hb : r.bindingFor name es.length with
    | error err => rw [hb] at h; cases h
    | ok b =>
      rw [hb] at h
      obtain ⟨o, ho, rfl, hn⟩ := (bindingFor_eq_ok_iff r name es.length b).1 hb
      cases hps : r.resolveAll es with
      | error err => rw [hps] at h; cases h
      | ok ps =>
        rw [hps] at h
        obtain ⟨q, hq, hc⟩ := combine_of_length name ((length_of_resolveAll hps).trans hn)
        have hqp : combine name o.binding ps = .ok p := h
        rw [hc] at hqp
        exact ⟨o, ps, ho, rfl, hq.trans (congrArg some (Except.ok.inj hqp))⟩
  · rintro ⟨o, ps, ho, hps, hp⟩
    have hn : ps.length = o.binding.arity :=
      (o.binding.combine?_isSome_iff ps).1 (Option.isSome_iff_exists.2 ⟨p, hp⟩)
    have hb : r.bindingFor name es.length = .ok o.binding :=
      (bindingFor_eq_ok_iff r name es.length o.binding).2
        ⟨o, ho, rfl, (length_of_resolveAll hps).symm.trans hn⟩
    rw [hb, hps]
    show combine name o.binding ps = .ok p
    unfold combine
    rw [hp]

/-! ## The first fault -/

theorem findSome?_nodes_apply {r : Registry} (name : String) {es : List Expr}
    (h : (Expr.nodesAll es).findSome? r.fault? = errorOf (r.resolveAll es)) :
    (Expr.apply name es).nodes.findSome? r.fault? = errorOf (r.resolve (.apply name es)) := by
  rw [Expr.nodes_apply, List.findSome?_cons, ← errorOf_bindingFor, resolve_apply]
  cases hb : r.bindingFor name es.length with
  | error err => rfl
  | ok b =>
    obtain ⟨o, -, -, hn⟩ := (bindingFor_eq_ok_iff r name es.length b).1 hb
    show (Expr.nodesAll es).findSome? r.fault? = _
    rw [h]
    cases hps : r.resolveAll es with
    | error err => rfl
    | ok ps =>
      obtain ⟨p, -, hc⟩ := combine_of_length name ((length_of_resolveAll hps).trans hn)
      have : errorOf (combine name b ps) = none := by rw [hc]; rfl
      exact this.symm

mutual
/-- The outcome of an expression is the fault of its first faulty node in pre-order. -/
theorem findSome?_nodes (r : Registry) :
    ∀ e : Expr, e.nodes.findSome? r.fault? = errorOf (r.resolve e)
  | .named name => by
      have hnil : (Expr.nodesAll []).findSome? r.fault? = errorOf (r.resolveAll []) := by
        rw [Expr.nodesAll_nil, resolveAll_nil]
        rfl
      have h := findSome?_nodes_apply name hnil
      rw [Expr.nodes_apply, Expr.nodesAll_nil, resolve_apply_nil] at h
      rw [Expr.nodes_named]
      exact h
  | .apply name es => findSome?_nodes_apply name (findSome?_nodesAll r es)

theorem findSome?_nodesAll (r : Registry) :
    ∀ es : List Expr, (Expr.nodesAll es).findSome? r.fault? = errorOf (r.resolveAll es)
  | [] => by
      rw [Expr.nodesAll_nil, resolveAll_nil]
      rfl
  | e :: es => by
      rw [Expr.nodesAll_cons, List.findSome?_append, findSome?_nodes r e,
        findSome?_nodesAll r es, resolveAll_cons]
      cases r.resolve e with
      | error err => rfl
      | ok p => cases r.resolveAll es <;> rfl
end

theorem errorOf_eq_none_iff {α : Type} (x : Except RegistryError α) :
    errorOf x = none ↔ ∃ a, x = .ok a := by
  cases x <;> simp [errorOf]

theorem errorOf_eq_some_iff {α : Type} (x : Except RegistryError α) (error : RegistryError) :
    errorOf x = some error ↔ x = .error error := by
  cases x <;> simp [errorOf]

/-- Of expressions that are resolved in order, the error is that of the first that does not
resolve. -/
theorem findSome?_resolve_eq_some_iff {α : Type} (r : Registry) (expr : α → Expr) (items : List α)
    (error : RegistryError) :
    (items.findSome? fun item => errorOf (r.resolve (expr item))) = some error ↔
      ∃ before item after, items = before ++ item :: after ∧
        (∀ earlier ∈ before, ∃ p, r.resolve (expr earlier) = .ok p) ∧
        r.resolve (expr item) = .error error := by
  simp only [List.findSome?_eq_some_iff, errorOf_eq_some_iff, errorOf_eq_none_iff]
  constructor
  · rintro ⟨before, item, after, hsplit, herror, hbefore⟩
    exact ⟨before, item, after, hsplit, hbefore, herror⟩
  · rintro ⟨before, item, after, hsplit, hbefore, herror⟩
    exact ⟨before, item, after, hsplit, herror, hbefore⟩

theorem findSome?_resolve_eq_none_iff {α : Type} (r : Registry) (expr : α → Expr)
    (items : List α) :
    (items.findSome? fun item => errorOf (r.resolve (expr item))) = none ↔
      ∀ item ∈ items, ∃ p, r.resolve (expr item) = .ok p := by
  simp only [List.findSome?_eq_none_iff, errorOf_eq_none_iff]

theorem resolve_isOk_iff (r : Registry) (e : Expr) :
    (∃ p, r.resolve e = .ok p) ↔ ∀ node ∈ e.nodes, r.fault? node = none := by
  rw [← errorOf_eq_none_iff, ← findSome?_nodes, List.findSome?_eq_none_iff]

theorem resolve_eq_error_iff (r : Registry) (e : Expr) (error : RegistryError) :
    r.resolve e = .error error ↔
      ∃ before node rest, e.nodes = before ++ node :: rest ∧ r.fault? node = some error ∧
        ∀ earlier ∈ before, r.fault? earlier = none := by
  rw [← errorOf_eq_some_iff, ← findSome?_nodes, List.findSome?_eq_some_iff]

/-- One name that stands for no operator is enough for an expression to fail. -/
theorem exists_error_of_mem_names {r : Registry} {e : Expr} {name : String}
    (hname : name ∈ e.names) (h : r.operatorOf? name = none) :
    ∃ error, r.resolve e = .error error := by
  rw [← Expr.map_fst_nodes] at hname
  obtain ⟨node, hnode, rfl⟩ := List.mem_map.1 hname
  have hfault : r.fault? node = some (.unknownOperator node.1) := by
    unfold fault?
    rw [h]
  cases hr : r.resolve e with
  | error error => exact ⟨error, rfl⟩
  | ok p =>
    have hnone := (resolve_isOk_iff r e).1 ⟨p, hr⟩ node hnode
    rw [hfault] at hnone
    cases hnone

/-- The operands are counted before any of them is looked up. -/
example : standard.resolve (.apply "and" [.named "like"]) =
    .error (.arityMismatch "and" 2 1) := rfl

theorem resolveName_eq_error_iff (r : Registry) (name : String) (error : RegistryError) :
    r.resolveName name = .error error ↔ r.fault? (name, 0) = some error := by
  rw [← resolve_named, ← errorOf_eq_some_iff, ← findSome?_nodes, Expr.nodes_named,
    List.findSome?_singleton]

theorem resolveText_of_parse {r : Registry} {s : String} {e : Expr} (h : Expr.parse s = .ok e) :
    r.resolveText s = r.resolve e := by
  unfold resolveText
  rw [h]

theorem resolveText_of_refused {r : Registry} {s : String} {error : RegistryError}
    (h : Expr.parse s = .error error) : r.resolveText s = .error error := by
  unfold resolveText
  rw [h]

/-! ## What an outcome depends on -/

theorem bindingFor_congr {r r' : Registry} {name : String} (h : r'.binding name = r.binding name)
    (n : Nat) : r'.bindingFor name n = r.bindingFor name n := by
  unfold bindingFor
  rw [h]

mutual
/-- Registries that bind the names of an expression alike resolve it alike. -/
theorem resolve_congr {r r' : Registry} :
    ∀ e : Expr, (∀ name ∈ e.names, r'.binding name = r.binding name) →
      r'.resolve e = r.resolve e
  | .named name, h => by
      rw [Expr.names_named] at h
      rw [resolve_named, resolve_named]
      unfold resolveName
      rw [bindingFor_congr (h name List.mem_cons_self)]
  | .apply name es, h => by
      rw [Expr.names_apply] at h
      rw [resolve_apply, resolve_apply, bindingFor_congr (h name List.mem_cons_self),
        resolveAll_congr es fun other ho => h other (List.mem_cons_of_mem name ho)]

theorem resolveAll_congr {r r' : Registry} :
    ∀ es : List Expr, (∀ name ∈ Expr.namesAll es, r'.binding name = r.binding name) →
      r'.resolveAll es = r.resolveAll es
  | [], _ => by rw [resolveAll_nil, resolveAll_nil]
  | e :: es, h => by
      rw [Expr.namesAll_cons] at h
      rw [resolveAll_cons, resolveAll_cons,
        resolve_congr e fun name hn => h name (List.mem_append_left _ hn),
        resolveAll_congr es fun name hn => h name (List.mem_append_right _ hn)]
end

/-! ## The predicate -/

/-- `r.Builds e p`: `p` is what the bindings of the nodes of `e` make of each other, from the
bottom up, the operands of a combinator in their order. -/
inductive Builds (r : Registry) : Expr → Predicate → Prop
  | named {name p} (h : r.binding name = .ok (.primitive p)) : Builds r (.named name) p
  | nullary {name p} (h : r.binding name = .ok (.primitive p)) : Builds r (.apply name []) p
  | unary {name f e p} (h : r.binding name = .ok (.unary f)) (he : Builds r e p) :
      Builds r (.apply name [e]) (f p)
  | binary {name f e₁ e₂ p q} (h : r.binding name = .ok (.binary f)) (he₁ : Builds r e₁ p)
      (he₂ : Builds r e₂ q) : Builds r (.apply name [e₁, e₂]) (f p q)

theorem resolve_nullary_eq_ok_iff (r : Registry) (name : String) (p : Predicate) :
    r.resolve (.apply name []) = .ok p ↔ r.binding name = .ok (.primitive p) := by
  rw [resolve_apply_eq_ok_iff, binding_eq_ok_iff]
  constructor
  · rintro ⟨o, ps, ho, hps, hp⟩
    rw [resolveAll_nil] at hps
    obtain rfl := Except.ok.inj hps
    exact ⟨o, ho, (o.binding.combine?_nil_eq_some_iff p).1 hp⟩
  · rintro ⟨o, ho, hb⟩
    exact ⟨o, [], ho, resolveAll_nil r, (o.binding.combine?_nil_eq_some_iff p).2 hb⟩

/-- A name that resolves alone stands for an identifier. -/
theorem exists_canonical?_of_named {r : Registry} {name : String} {p : Predicate}
    (h : r.resolve (.named name) = .ok p) : ∃ identifier, r.canonical? name = some identifier := by
  rw [← resolve_apply_nil] at h
  obtain ⟨o, ho, -⟩ := (binding_eq_ok_iff r name _).1 ((resolve_nullary_eq_ok_iff r name p).1 h)
  obtain ⟨identifier, hc, -⟩ := Option.bind_eq_some_iff.1 ho
  exact ⟨identifier, hc⟩

theorem resolveAll_one_eq_ok_iff (r : Registry) (e : Expr) (ps : List Predicate) :
    r.resolveAll [e] = .ok ps ↔ ∃ p, r.resolve e = .ok p ∧ [p] = ps := by
  rw [resolveAll_cons_eq_ok_iff, resolveAll_nil]
  simp

theorem resolveAll_two_eq_ok_iff (r : Registry) (e₁ e₂ : Expr) (ps : List Predicate) :
    r.resolveAll [e₁, e₂] = .ok ps ↔
      ∃ p q, r.resolve e₁ = .ok p ∧ r.resolve e₂ = .ok q ∧ [p, q] = ps := by
  rw [resolveAll_cons_eq_ok_iff]
  simp only [resolveAll_one_eq_ok_iff]
  constructor
  · rintro ⟨p, qs, hp, ⟨q, hq, rfl⟩, rfl⟩
    exact ⟨p, q, hp, hq, rfl⟩
  · rintro ⟨p, q, hp, hq, rfl⟩
    exact ⟨p, [q], hp, ⟨q, hq, rfl⟩, rfl⟩

theorem resolve_unary_eq_ok_iff (r : Registry) (name : String) (e : Expr) (p : Predicate) :
    r.resolve (.apply name [e]) = .ok p ↔
      ∃ f q, r.binding name = .ok (.unary f) ∧ r.resolve e = .ok q ∧ f q = p := by
  rw [resolve_apply_eq_ok_iff]
  simp only [binding_eq_ok_iff, resolveAll_one_eq_ok_iff]
  constructor
  · rintro ⟨o, ps, ho, ⟨q, hq, rfl⟩, hp⟩
    obtain ⟨f, hb, hf⟩ := (o.binding.combine?_one_eq_some_iff q p).1 hp
    exact ⟨f, q, ⟨o, ho, hb⟩, hq, hf⟩
  · rintro ⟨f, q, ⟨o, ho, hb⟩, hq, hf⟩
    exact ⟨o, [q], ho, ⟨q, hq, rfl⟩, (o.binding.combine?_one_eq_some_iff q p).2 ⟨f, hb, hf⟩⟩

/-- A combinator of one operand is applied to what its operand resolves to. -/
theorem resolve_unary {r : Registry} {name : String} {f : Predicate → Predicate}
    (hb : r.binding name = .ok (.unary f)) (e : Expr) :
    r.resolve (.apply name [e]) = (r.resolve e).map f := by
  have hone : r.bindingFor name 1 = .ok (.unary f) := by
    obtain ⟨o, ho, hf⟩ := (binding_eq_ok_iff r name _).1 hb
    exact (bindingFor_eq_ok_iff r name 1 _).2 ⟨o, ho, hf, rfl⟩
  rw [resolve_apply, List.length_singleton, hone, resolveAll_cons, resolveAll_nil]
  cases r.resolve e <;> rfl

theorem resolve_binary_eq_ok_iff (r : Registry) (name : String) (e₁ e₂ : Expr)
    (p : Predicate) :
    r.resolve (.apply name [e₁, e₂]) = .ok p ↔
      ∃ f q₁ q₂, r.binding name = .ok (.binary f) ∧ r.resolve e₁ = .ok q₁ ∧
        r.resolve e₂ = .ok q₂ ∧ f q₁ q₂ = p := by
  rw [resolve_apply_eq_ok_iff]
  simp only [binding_eq_ok_iff, resolveAll_two_eq_ok_iff]
  constructor
  · rintro ⟨o, ps, ho, ⟨q₁, q₂, hq₁, hq₂, rfl⟩, hp⟩
    obtain ⟨f, hb, hf⟩ := (o.binding.combine?_two_eq_some_iff q₁ q₂ p).1 hp
    exact ⟨f, q₁, q₂, ⟨o, ho, hb⟩, hq₁, hq₂, hf⟩
  · rintro ⟨f, q₁, q₂, ⟨o, ho, hb⟩, hq₁, hq₂, hf⟩
    exact ⟨o, [q₁, q₂], ho, ⟨q₁, q₂, hq₁, hq₂, rfl⟩,
      (o.binding.combine?_two_eq_some_iff q₁ q₂ p).2 ⟨f, hb, hf⟩⟩

/-- No binding takes more than two operands. -/
theorem resolve_apply_many_ne_ok (r : Registry) (name : String) (e₁ e₂ e₃ : Expr)
    (es : List Expr) (p : Predicate) : r.resolve (.apply name (e₁ :: e₂ :: e₃ :: es)) ≠ .ok p := by
  intro h
  obtain ⟨o, ps, -, hps, hp⟩ := (resolve_apply_eq_ok_iff r name _ p).1 h
  have hlen := length_of_resolveAll hps
  have har := (o.binding.combine?_isSome_iff ps).1 (Option.isSome_iff_exists.2 ⟨p, hp⟩)
  have hle := o.binding.arity_le_two
  simp only [List.length_cons] at hlen
  omega

theorem builds_of_resolve (r : Registry) :
    ∀ (e : Expr) (p : Predicate), r.resolve e = .ok p → r.Builds e p
  | .named name, p, h => by
      rw [← resolve_apply_nil] at h
      exact .named ((resolve_nullary_eq_ok_iff r name p).1 h)
  | .apply name [], p, h => .nullary ((resolve_nullary_eq_ok_iff r name p).1 h)
  | .apply name [e], p, h => by
      obtain ⟨f, q, hb, hq, rfl⟩ := (resolve_unary_eq_ok_iff r name e p).1 h
      exact .unary hb (builds_of_resolve r e q hq)
  | .apply name [e₁, e₂], p, h => by
      obtain ⟨f, q₁, q₂, hb, hq₁, hq₂, rfl⟩ := (resolve_binary_eq_ok_iff r name e₁ e₂ p).1 h
      exact .binary hb (builds_of_resolve r e₁ q₁ hq₁) (builds_of_resolve r e₂ q₂ hq₂)
  | .apply name (e₁ :: e₂ :: e₃ :: es), p, h =>
      absurd h (resolve_apply_many_ne_ok r name e₁ e₂ e₃ es p)

theorem resolve_of_builds {r : Registry} {e : Expr} {p : Predicate} (h : r.Builds e p) :
    r.resolve e = .ok p := by
  induction h with
  | named hb =>
    rw [← resolve_apply_nil]
    exact (resolve_nullary_eq_ok_iff _ _ _).2 hb
  | nullary hb => exact (resolve_nullary_eq_ok_iff _ _ _).2 hb
  | unary hb _ ih => exact (resolve_unary_eq_ok_iff _ _ _ _).2 ⟨_, _, hb, ih, rfl⟩
  | binary hb _ _ ih₁ ih₂ =>
    exact (resolve_binary_eq_ok_iff _ _ _ _ _).2 ⟨_, _, _, hb, ih₁, ih₂, rfl⟩

theorem resolve_eq_ok_iff_builds (r : Registry) (e : Expr) (p : Predicate) :
    r.resolve e = .ok p ↔ r.Builds e p := ⟨builds_of_resolve r e p, resolve_of_builds⟩

/-! ## Verdicts of the logical combinators -/

theorem evaluate_of_resolve_not {r : Registry} {name : String} {e : Expr} {p : Predicate}
    (hb : r.binding name = .ok (.unary .not)) (h : r.resolve (.apply name [e]) = .ok p) :
    ∃ q, r.resolve e = .ok q ∧ ∀ v w, p.evaluate v w = !q.evaluate v w := by
  obtain ⟨f, q, hf, hq, rfl⟩ := (resolve_unary_eq_ok_iff r name e p).1 h
  rw [hb] at hf
  obtain rfl := Binding.unary.inj (Except.ok.inj hf)
  exact ⟨q, hq, Predicate.evaluate_not q⟩

/-- A binary combinator that joins the verdicts of predicates joins those of its operands. -/
theorem evaluate_of_resolve_join {r : Registry} {name : String} {e₁ e₂ : Expr} {p : Predicate}
    {f : Predicate → Predicate → Predicate} (join : Bool → Bool → Bool)
    (hf : ∀ q₁ q₂ v w, (f q₁ q₂).evaluate v w = join (q₁.evaluate v w) (q₂.evaluate v w))
    (hb : r.binding name = .ok (.binary f)) (h : r.resolve (.apply name [e₁, e₂]) = .ok p) :
    ∃ q₁ q₂, r.resolve e₁ = .ok q₁ ∧ r.resolve e₂ = .ok q₂ ∧
      ∀ v w, p.evaluate v w = join (q₁.evaluate v w) (q₂.evaluate v w) := by
  obtain ⟨g, q₁, q₂, hg, hq₁, hq₂, rfl⟩ := (resolve_binary_eq_ok_iff r name e₁ e₂ p).1 h
  rw [hb] at hg
  obtain rfl := Binding.binary.inj (Except.ok.inj hg)
  exact ⟨q₁, q₂, hq₁, hq₂, hf q₁ q₂⟩

/-- Resolving, for every registry and every expression. It succeeds when no node is faulty, and
else fails as the first faulty node says; its predicate is the one that the bindings build; a
name resolves alone as it does without operands; and the logical combinators give the verdicts
of their operands on the same pair negated or joined. -/
theorem resolve_exact (r : Registry) (e : Expr) :
    ((∃ p, r.resolve e = .ok p) ↔ ∀ node ∈ e.nodes, r.fault? node = none) ∧
    (∀ error, r.resolve e = .error error ↔
      ∃ before node rest, e.nodes = before ++ node :: rest ∧ r.fault? node = some error ∧
        ∀ earlier ∈ before, r.fault? earlier = none) ∧
    (∀ p, r.resolve e = .ok p ↔ r.Builds e p) ∧
    (∀ name, r.resolve (.apply name []) = r.resolve (.named name) ∧
      r.resolve (.named name) = r.resolveName name) ∧
    (∀ name e₁ p, r.binding name = .ok (.unary .not) → r.resolve (.apply name [e₁]) = .ok p →
      ∃ q, r.resolve e₁ = .ok q ∧ ∀ v w, p.evaluate v w = !q.evaluate v w) ∧
    (∀ name e₁ e₂ p, r.binding name = .ok (.binary .and) →
      r.resolve (.apply name [e₁, e₂]) = .ok p →
        ∃ q₁ q₂, r.resolve e₁ = .ok q₁ ∧ r.resolve e₂ = .ok q₂ ∧
          ∀ v w, p.evaluate v w = (q₁.evaluate v w && q₂.evaluate v w)) ∧
    (∀ name e₁ e₂ p, r.binding name = .ok (.binary .or) →
      r.resolve (.apply name [e₁, e₂]) = .ok p →
        ∃ q₁ q₂, r.resolve e₁ = .ok q₁ ∧ r.resolve e₂ = .ok q₂ ∧
          ∀ v w, p.evaluate v w = (q₁.evaluate v w || q₂.evaluate v w)) := by
  refine ⟨resolve_isOk_iff r e, resolve_eq_error_iff r e, resolve_eq_ok_iff_builds r e,
    fun name => ⟨resolve_apply_nil r name, resolve_named r name⟩, ?_, ?_, ?_⟩
  · intro name e₁ p hb h
    exact evaluate_of_resolve_not hb h
  · intro name e₁ e₂ p hb h
    exact evaluate_of_resolve_join (· && ·) Predicate.evaluate_and hb h
  · intro name e₁ e₂ p hb h
    exact evaluate_of_resolve_join (· || ·) Predicate.evaluate_or hb h

end Registry

end Verdict
