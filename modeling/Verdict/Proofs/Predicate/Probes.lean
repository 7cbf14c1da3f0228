import Verdict.Proofs.Registry.Reachable
import Verdict.Proofs.Registry.Resolution

/-
  What standard predicates can tell apart. A predicate without evaluators of callers sees its
  operands only through their two orderings, as numbers and as a size against a bound
  (`evaluate_congr`), and of the two at most one is there. So pairs of operands fall into seven
  classes. `probes` has a pair of each (`exists_probe`), and standard predicates that agree on
  the probes agree everywhere. Configured registries resolve to standard predicates only
  (`isStandard_of_ofConfig`). `determined_by_probes` has all of it.
-/
namespace Verdict

namespace Value

/-- The order of two operands as numbers, and the order of the left one's size against the
right one. -/
def orderings (v w : Value) : Option Ordering × Option Ordering :=
  (numericOrdering v w, sizeOrdering v w)

/-- Pairs of operands: numbers in each order, sizes in each order to a bound, and neither. -/
def probes : List (Value × Value) :=
  [(integer 0, integer 1), (integer 0, integer 0), (integer 1, integer 0),
   (text "a", integer 2), (text "a", integer 1), (text "a", integer 0), (absent, absent)]

theorem orderings_probes :
    probes.map (fun o => orderings o.1 o.2) =
      [(some .lt, none), (some .eq, none), (some .gt, none),
       (none, some .lt), (none, some .eq), (none, some .gt), (none, none)] := by
  decide +kernel

/-- Every pair of operands stands to each other as one of the probes does. -/
theorem exists_probe (v w : Value) :
    ∃ o ∈ probes, orderings o.1 o.2 = orderings v w := by
  rw [← List.mem_map, orderings_probes]
  unfold orderings
  rcases orderings_disjoint v w with h | h
  · rw [h]
    cases sizeOrdering v w with
    | none => decide
    | some o => cases o <;> decide
  · rw [h]
    cases numericOrdering v w with
    | none => decide
    | some o => cases o <;> decide

end Value

namespace Predicate

/-- A standard predicate sees no more of its operands than their orderings. -/
theorem evaluate_congr {p : Predicate} (hp : p.isStandard = true) {v w v' w' : Value}
    (h : Value.orderings v w = Value.orderings v' w') : p.evaluate v w = p.evaluate v' w' := by
  obtain ⟨hn, hs⟩ := Prod.mk.inj h
  induction p with
  | order r =>
    unfold evaluate Value.compareNumbers
    rw [hn]
  | size r =>
    unfold evaluate Value.compareSize
    rw [hs]
  | not p ih => rw [evaluate_not, evaluate_not, ih hp]
  | and p q ihp ihq =>
    obtain ⟨hp, hq⟩ := Bool.and_eq_true_iff.1 hp
    rw [evaluate_and, evaluate_and, ihp hp, ihq hq]
  | or p q ihp ihq =>
    obtain ⟨hp, hq⟩ := Bool.and_eq_true_iff.1 hp
    rw [evaluate_or, evaluate_or, ihp hp, ihq hq]
  | custom name f => cases hp

/-- The predicates give the same verdict on every probe. -/
def AgreeOnProbes (p q : Predicate) : Prop :=
  ∀ o ∈ Value.probes, p.evaluate o.1 o.2 = q.evaluate o.1 o.2

instance (p q : Predicate) : Decidable (AgreeOnProbes p q) :=
  inferInstanceAs (Decidable (∀ o ∈ Value.probes, _ = _))

theorem AgreeOnProbes.evaluate_eq {p q : Predicate} (h : AgreeOnProbes p q)
    (hp : p.isStandard = true) (hq : q.isStandard = true) (v w : Value) :
    p.evaluate v w = q.evaluate v w := by
  obtain ⟨o, ho, he⟩ := Value.exists_probe v w
  calc
    p.evaluate v w = p.evaluate o.1 o.2 := (evaluate_congr hp he).symm
    _ = q.evaluate o.1 o.2 := h o ho
    _ = q.evaluate v w := evaluate_congr hq he

end Predicate

/-! ## Configured registries -/

/-- A binding that makes standard predicates of standard ones. -/
def Binding.Standard : Binding → Prop
  | primitive p => p.isStandard = true
  | unary f => ∀ p, p.isStandard = true → (f p).isStandard = true
  | binary f => ∀ p q, p.isStandard = true → q.isStandard = true → (f p q).isStandard = true

namespace Registry

/-- All operators have standard bindings. -/
def AllStandard (r : Registry) : Prop :=
  ∀ name o, r.operators.get? name = some o → o.binding.Standard

theorem standard_of_mem_standardOperators :
    ∀ e ∈ standardOperators, e.2.binding.Standard := by
  refine forall_mem_standardOperators (fun _ => rfl) (fun _ => rfl) ?_
  unfold logicalOperators
  simp only [List.forall_mem_cons]
  refine ⟨fun p hp => hp, fun p q hp hq => ?_, fun p q hp hq => ?_, by simp⟩
  · exact Bool.and_eq_true_iff.2 ⟨hp, hq⟩
  · exact Bool.and_eq_true_iff.2 ⟨hp, hq⟩

theorem AllStandard.insert {r : Registry} (h : r.AllStandard) {identifier : String}
    {o : Operator} (ho : o.binding.Standard) :
    { r with operators := r.operators.insert identifier o : Registry }.AllStandard :=
  OrderedMap.forall_get?_insert h ho

theorem AllStandard.bindAll {r : Registry} (h : r.AllStandard) {os : List (String × Operator)}
    (hos : ∀ e ∈ os, e.2.binding.Standard) : (r.bindAll os).AllStandard := by
  induction os generalizing r with
  | nil => exact h
  | cons e os ih =>
    exact ih (h.insert (hos e List.mem_cons_self)) fun e' he' =>
      hos e' (List.mem_cons_of_mem e he')

theorem AllStandard.step {r : Registry} {c : Change} {x : Registry × Report}
    (h : r.AllStandard) (hc : c.operator? = none) (hs : Step r c x) : x.1.AllStandard := by
  cases hs with
  | unknownTarget | taken | notThere | addAlias => exact h
  | bind hb =>
    rw [hc] at hb
    cases hb
  | @erase identifier hi =>
    intro name o ho
    change (r.operators.erase identifier).get? name = some o at ho
    rw [OrderedMap.get?_erase] at ho
    by_cases hn : identifier = name
    · rw [if_pos hn] at ho
      cases ho
    · rw [if_neg hn] at ho
      exact h name o ho
  | addStandard => exact h.bindAll standard_of_mem_standardOperators

theorem AllStandard.afterAll {r : Registry} (h : r.AllStandard) {cs : List Change}
    (hcs : ∀ c ∈ cs, c.operator? = none) : (r.afterAll cs).AllStandard := by
  induction cs generalizing r with
  | nil => exact h
  | cons c cs ih =>
    rw [afterAll_cons]
    exact ih (h.step (hcs c List.mem_cons_self) (step_apply r c)) fun d hd =>
      hcs d (List.mem_cons_of_mem c hd)

theorem allStandard_standard : standard.AllStandard := by
  have h : empty.AllStandard := fun _ _ ho => by cases ho
  exact h.bindAll standard_of_mem_standardOperators

theorem allStandard_of_ofConfig {c : Config} {r : Registry} (h : ofConfig c = .ok r) :
    r.AllStandard := by
  rw [← afterAll_of_ofConfig h]
  refine allStandard_standard.afterAll fun d hd => ?_
  rcases List.mem_append.1 hd with hd | hd
  · obtain ⟨identifier, -, rfl⟩ := List.mem_map.1 hd
    rfl
  · obtain ⟨e, -, rfl⟩ := List.mem_map.1 hd
    rfl

theorem AllStandard.binding {r : Registry} (h : r.AllStandard) {name : String} {b : Binding}
    (hb : r.binding name = .ok b) : b.Standard := by
  obtain ⟨o, ho, rfl⟩ := (binding_eq_ok_iff r name b).1 hb
  obtain ⟨c, -, hc⟩ := Option.bind_eq_some_iff.1 ho
  exact h c o hc

theorem AllStandard.isStandard {r : Registry} (h : r.AllStandard) {e : Expr} {p : Predicate}
    (hb : r.Builds e p) : p.isStandard = true := by
  induction hb with
  | named hb => exact h.binding hb
  | nullary hb => exact h.binding hb
  | unary hb _ ih => exact h.binding hb _ ih
  | binary hb _ _ ih₁ ih₂ => exact h.binding hb _ _ ih₁ ih₂

/-- What a configured registry resolves is standard. -/
theorem isStandard_of_ofConfig {c : Config} {r : Registry} (hr : ofConfig c = .ok r) {e : Expr}
    {p : Predicate} (hp : r.resolve e = .ok p) : p.isStandard = true :=
  (allStandard_of_ofConfig hr).isStandard ((resolve_eq_ok_iff_builds r e p).1 hp)

end Registry

/-- Numbers and sizes are never ordered at once, standard predicates depend on these orderings
alone, and so two of them, or two that configured registries resolve, are the same function when
they agree on the seven probes. -/
theorem Predicate.determined_by_probes :
    (∀ v w, Value.numericOrdering v w = none ∨ Value.sizeOrdering v w = none) ∧
    (∀ p : Predicate, p.isStandard = true → ∀ v w v' w',
      Value.numericOrdering v w = Value.numericOrdering v' w' →
      Value.sizeOrdering v w = Value.sizeOrdering v' w' → p.evaluate v w = p.evaluate v' w') ∧
    (∀ p q : Predicate, p.isStandard = true → q.isStandard = true → AgreeOnProbes p q →
      ∀ v w, p.evaluate v w = q.evaluate v w) ∧
    (∀ c d r s e f p q, Registry.ofConfig c = .ok r → Registry.ofConfig d = .ok s →
      r.resolve e = .ok p → s.resolve f = .ok q → AgreeOnProbes p q →
        ∀ v w, p.evaluate v w = q.evaluate v w) := by
  refine ⟨Value.orderings_disjoint, ?_, ?_, ?_⟩
  · intro p hp v w v' w' hn hs
    exact evaluate_congr hp (Prod.ext hn hs)
  · intro p q hp hq h
    exact h.evaluate_eq hp hq
  · intro c d r s e f p q hr hs hp hq h
    exact h.evaluate_eq (Registry.isStandard_of_ofConfig hr hp)
      (Registry.isStandard_of_ofConfig hs hq)

/-- The weak relation is the strict one or equality, for all operands. -/
theorem Predicate.lessOrEqual_evaluate :
    AgreeOnProbes (order .lessOrEqual) (or (order .less) (order .equal)) ∧
      ∀ v w, (order .lessOrEqual).evaluate v w = (or (order .less) (order .equal)).evaluate v w :=
  ⟨by decide +kernel, determined_by_probes.2.2.1 _ _ rfl rfl (by decide +kernel)⟩

/-- A negated relation is not the opposite one: they differ on operands without an order. -/
example : ¬ Predicate.AgreeOnProbes (.not (.order .less)) (.order .greaterOrEqual) := by
  decide +kernel

end Verdict
