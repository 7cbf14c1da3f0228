import Mathlib.Data.List.Forall2
import Verdict.Proofs.Registry.Sharing

/-
  Registrations that do not depend on each other. Calls are independent in a registry when each has
  a name of its own that is not there yet, and every target is there already (`Independent`). Then
  each of them succeeds wherever it stands among the others, and what it adds does not depend on
  its place: an operator, or an alias for what its target stands for in the first registry
  (`Independent.run_eq`). So any two orders end with the same entries in another order
  (`Rearranged`), and no look-up, no listing up to order and no expression can tell these apart
  (`Rearranged.alike`). `independent_run` has both.
-/
namespace Verdict

/-- Listed operators that differ at most in the order of their aliases. -/
structure OperatorInfo.Alike (o o' : OperatorInfo) : Prop where
  identifier_eq : o.identifier = o'.identifier
  category_eq : o.category = o'.category
  arity_eq : o.arity = o'.arity
  description_eq : o.description = o'.description
  aliases_perm : o.aliases.Perm o'.aliases

namespace Registry

/-! ## The order of entries -/

/-- The entries of two registries are the same in another order. -/
structure Rearranged (r r' : Registry) : Prop where
  operators_perm : r.operators.entries.Perm r'.operators.entries
  aliases_perm : r.aliases.entries.Perm r'.aliases.entries

/-- Registries that nobody can tell apart but by the order in which they list operators and
aliases. -/
structure Alike (r r' : Registry) : Prop where
  contains_eq : ∀ name, r.contains name = r'.contains name
  canonical?_eq : ∀ name, r.canonical? name = r'.canonical? name
  listing_alike : ∃ os, os.Perm r.listing ∧ List.Forall₂ OperatorInfo.Alike os r'.listing
  resolve_eq : ∀ e, r.resolve e = r'.resolve e

section Rearranged

variable {r r' : Registry} (h : r.Rearranged r')

include h

theorem Rearranged.canonical?_eq (name : String) : r.canonical? name = r'.canonical? name := by
  unfold canonical? isOperator OrderedMap.contains
  rw [OrderedMap.get?_eq_of_perm h.operators_perm, OrderedMap.get?_eq_of_perm h.aliases_perm]

theorem Rearranged.binding_eq (name : String) : r.binding name = r'.binding name := by
  have hget : r.operators.get? = r'.operators.get? :=
    funext (OrderedMap.get?_eq_of_perm h.operators_perm)
  unfold binding
  rw [h.canonical?_eq, hget]

theorem Rearranged.aliasesOf_perm (identifier : String) :
    (r.aliasesOf identifier).Perm (r'.aliasesOf identifier) :=
  (h.aliases_perm.filter _).map Prod.fst

/-- The order of entries shows in listings only. -/
theorem Rearranged.alike : r.Alike r' where
  contains_eq name := by
    unfold contains
    rw [h.canonical?_eq]
  canonical?_eq := h.canonical?_eq
  listing_alike := by
    refine ⟨r'.operators.entries.map fun e => ⟨e.1, e.2.category, e.2.binding.arity,
      e.2.description, r.aliasesOf e.1⟩, (h.operators_perm.map _).symm, ?_⟩
    unfold listing
    rw [List.forall₂_map_left_iff, List.forall₂_map_right_iff, List.forall₂_same]
    exact fun e _ => ⟨rfl, rfl, rfl, rfl, h.aliasesOf_perm e.1⟩
  resolve_eq e := (resolve_congr e fun name _ => (h.binding_eq name).symm).symm

end Rearranged

/-! ## What a call adds -/

/-- The operator that a call registers, under its identifier. -/
def Call.operator? (c : Call) : Option (String × Operator) := c.change?.bind Change.operator?

/-- The alias that a call adds, with what its target stands for. -/
def aliasOf? (r : Registry) : Call → Option (String × String)
  | .addAlias name target => (r.canonical? target).map fun identifier => (name, identifier)
  | .registerEvaluator _ _ _ | .resolveName _ | .resolve _ | .snapshot => none

/-- `r'` is `r` with what the calls add behind its entries, in their order. -/
structure Adds (r : Registry) (cs : List Call) (r' : Registry) : Prop where
  operators_eq : r'.operators.entries = r.operators.entries ++ cs.filterMap Call.operator?
  aliases_eq : r'.aliases.entries = r.aliases.entries ++ cs.filterMap r.aliasOf?

theorem adds_nil (r : Registry) : r.Adds [] r :=
  ⟨(List.append_nil _).symm, (List.append_nil _).symm⟩

theorem Adds.cons {r s t : Registry} {c : Call} {cs : List Call} (h : r.Adds [c] s)
    (h' : s.Adds cs t) (heq : ∀ d ∈ cs, s.aliasOf? d = r.aliasOf? d) : r.Adds (c :: cs) t := by
  refine ⟨?_, ?_⟩
  · rw [h'.operators_eq, h.operators_eq, List.append_assoc, ← List.filterMap_append]
    rfl
  · rw [h'.aliases_eq, h.aliases_eq, List.append_assoc, List.filterMap_congr heq,
      ← List.filterMap_append]
    rfl

theorem adds_bind {r : Registry} {c : Call} {identifier : String} {o : Operator}
    (hc : c.operator? = some (identifier, o)) (hi : identifier ∉ r.identifiers) :
    r.Adds [c] { r with operators := r.operators.insert identifier o } := by
  have halias : r.aliasOf? c = none := by
    cases c with
    | registerEvaluator _ _ _ => rfl
    | addAlias _ _ | resolveName _ | resolve _ | snapshot => cases hc
  refine ⟨?_, ?_⟩
  · rw [List.filterMap_cons_some hc, List.filterMap_nil]
    exact OrderedMap.entries_insert_of_not_mem _ _ _ hi
  · rw [List.filterMap_cons_none halias, List.filterMap_nil, List.append_nil]

theorem adds_alias {r : Registry} {name target identifier : String}
    (ht : r.canonical? target = some identifier) (ha : name ∉ r.aliasNames) :
    r.Adds [.addAlias name target]
      { r with aliases := r.aliases.insert name identifier } := by
  have halias : r.aliasOf? (.addAlias name target) = some (name, identifier) := by
    show (r.canonical? target).map _ = _
    rw [ht, Option.map_some]
  refine ⟨?_, ?_⟩
  · rw [List.filterMap_cons_none rfl, List.filterMap_nil, List.append_nil]
  · rw [List.filterMap_cons_some halias, List.filterMap_nil]
    exact OrderedMap.entries_insert_of_not_mem _ _ _ ha

theorem adds_of_step {r : Registry} {c : Call} {d : Change} {y : Registry × Report}
    (h : Step r d y) (hc : c.change? = some d) (hy : y.2 = .done) : r.Adds [c] y.1 := by
  cases h with
  | unknownTarget | taken => cases hy
  | bind ho hi _ =>
    refine adds_bind ?_ hi
    unfold Call.operator?
    rw [hc]
    exact ho
  | addAlias ht _ ha =>
    cases c with
    | addAlias _ _ =>
      cases hc
      exact adds_alias ht ha
    | registerEvaluator _ _ _ | resolveName _ | resolve _ | snapshot => cases hc
  | notThere | erase | addStandard => cases c <;> cases hc

/-- A registration adds its entry. -/
theorem Taken.adds {r : Registry} {c : Call} {x : Registry × Answer} (h : Taken r c x)
    (hx : x.2 = .done) : r.Adds [c] x.1 := by
  cases h with
  | @done _ d hc hd => exact adds_of_step (step_apply r d) hc hd
  | refused | predicate | unresolved | snapshot => cases hx

/-! ## Independent calls -/

/-- Every call registers a name of its own that is not contained yet, and needs only targets that
are contained already. -/
structure Independent (r : Registry) (cs : List Call) : Prop where
  names_nodup : (cs.map Call.name?).Nodup
  name_new : ∀ c ∈ cs, ∃ name, c.name? = some name ∧ r.contains name = false
  target_known : ∀ c ∈ cs, ∀ target, c.target? = some target → r.contains target = true

theorem Independent.perm {r : Registry} {cs ds : List Call} (h : r.Independent cs)
    (hds : ds.Perm cs) : r.Independent ds where
  names_nodup := (hds.map Call.name?).nodup_iff.2 h.names_nodup
  name_new c hc := h.name_new c (hds.mem_iff.1 hc)
  target_known c hc := h.target_known c (hds.mem_iff.1 hc)

/-- What a contained name stands for, it stands for later on. -/
theorem Retains.aliasOf?_eq {r r' : Registry} (h : r.Retains r') {c : Call}
    (hc : ∀ target, c.target? = some target → r.contains target = true) :
    r'.aliasOf? c = r.aliasOf? c := by
  cases c with
  | addAlias name target =>
    obtain ⟨identifier, hi⟩ := Option.isSome_iff_exists.1 (hc target rfl)
    show (r'.canonical? target).map _ = (r.canonical? target).map _
    rw [hi, h.canonical? target identifier hi]
  | registerEvaluator _ _ _ | resolveName _ | resolve _ | snapshot => rfl

/-- The first of independent calls succeeds, and the others are independent after it. -/
theorem Independent.head {r : Registry} {c : Call} {cs : List Call}
    (h : r.Independent (c :: cs)) :
    (r.perform c).2 = .done ∧ (r.perform c).1.Independent cs := by
  obtain ⟨name, hname, hnew⟩ := h.name_new c List.mem_cons_self
  have htaken := taken_perform r c
  have hdone := (htaken.done_iff hname).2 ⟨hnew, h.target_known c List.mem_cons_self⟩
  refine ⟨hdone, (List.nodup_cons.1 h.names_nodup).2, fun d hd => ?_, fun d hd target ht => ?_⟩
  · obtain ⟨other, hother, hfree⟩ := h.name_new d (List.mem_cons_of_mem c hd)
    refine ⟨other, hother, ?_⟩
    rw [← Bool.not_eq_true, htaken.contains_iff_of_done hname hdone other]
    rintro (rfl | hcontains)
    · apply (List.nodup_cons.1 h.names_nodup).1
      rw [hname, ← hother]
      exact List.mem_map_of_mem hd
    · rw [hfree] at hcontains
      cases hcontains
  · exact htaken.retains.contains (h.target_known d (List.mem_cons_of_mem c hd) target ht)

/-- Independent calls all succeed, and each adds what it would add alone. -/
theorem Independent.run_eq {r : Registry} {cs : List Call} (h : r.Independent cs) :
    (r.run cs).2 = List.replicate cs.length .done ∧ r.Adds cs (r.run cs).1 := by
  -- after the first call the others are independent, and their targets stand for what they did
  induction cs generalizing r with
  | nil => exact ⟨rfl, adds_nil r⟩
  | cons c cs ih =>
    obtain ⟨hdone, hrest⟩ := h.head
    obtain ⟨hanswers, hadds⟩ := ih hrest
    have htaken := taken_perform r c
    rw [run_cons]
    refine ⟨?_, (htaken.adds hdone).cons hadds fun d hd => ?_⟩
    · rw [hdone, hanswers, List.length_cons, List.replicate_succ]
    · exact htaken.retains.aliasOf?_eq (h.target_known d (List.mem_cons_of_mem c hd))

/-- Entries that are added in another order are the same in another order. -/
theorem Adds.rearranged {r s t : Registry} {cs ds : List Call} (h : r.Adds cs s)
    (h' : r.Adds ds t) (hcs : cs.Perm ds) : s.Rearranged t := by
  refine ⟨?_, ?_⟩
  · rw [h.operators_eq, h'.operators_eq]
    exact (hcs.filterMap _).append_left _
  · rw [h.aliases_eq, h'.aliases_eq]
    exact (hcs.filterMap _).append_left _

/-- Independent registrations in any registry: in whatever order they are made, all of them
succeed, and any two orders end in registries that nobody can tell apart but by the order in which
they list operators and aliases. -/
theorem independent_run {r : Registry} {cs : List Call} (h : r.Independent cs) :
    (∀ ds, ds.Perm cs → (r.run ds).2 = List.replicate ds.length .done) ∧
    ∀ ds es, ds.Perm cs → es.Perm cs → (r.run ds).1.Alike (r.run es).1 := by
  refine ⟨fun ds hds => (h.perm hds).run_eq.1, fun ds es hds hes => ?_⟩
  have hds' := (h.perm hds).run_eq.2
  have hes' := (h.perm hes).run_eq.2
  exact (hds'.rearranged hes' (hds.trans hes.symm)).alike

/-- An evaluator and two signs for one operator. -/
def signing : List Call :=
  [.registerEvaluator "same_kind" "operands of one kind" fun v w => v.kind == w.kind,
    .addAlias "<" "lt", .addAlias "less" "lt"]

/-- The two signs are listed in the order in which they were added, and everything else is the
same. -/
theorem independent_signing :
    standard.Independent signing ∧
    (standard.run signing.reverse).2 = [.done, .done, .done] ∧
    (standard.run signing).1.Alike (standard.run signing.reverse).1 ∧
    (standard.run signing).1.aliasesOf "lt" = ["<", "less"] ∧
    (standard.run signing.reverse).1.aliasesOf "lt" = ["less", "<"] := by
  have h : standard.Independent signing := by
    refine ⟨by decide, fun c hc => ?_, fun c hc => ?_⟩
    · simp only [signing, List.mem_cons, List.not_mem_nil, or_false] at hc
      rcases hc with rfl | rfl | rfl <;> exact ⟨_, rfl, by decide +kernel⟩
    · simp only [signing, List.mem_cons, List.not_mem_nil, or_false] at hc
      rcases hc with rfl | rfl | rfl <;> intro target ht <;> cases ht <;> decide +kernel
  obtain ⟨hdone, halike⟩ := independent_run h
  have hreverse := List.reverse_perm signing
  exact ⟨h, hdone _ hreverse, halike _ _ (.refl _) hreverse, by decide +kernel,
    by decide +kernel⟩

end Registry

end Verdict
