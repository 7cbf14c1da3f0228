import Verdict.Registry.Shared
import Verdict.Proofs.Registry.Registration

/-
  Registries that clients share. Every call is taken whole, so whatever any number of clients do,
  the registry takes their calls in some order, and a statement on every list of calls is one on
  every interleaving. `taken_perform` says all that one call can do: a registering call makes a
  change (`Call.change?`), every other one reads. What one call preserves is `Retains`: a name
  that is contained stays, with what it is bound to; so a run of calls preserves it
  (`retains_run`). The other half is that a name is registered only where it is not contained, and
  is contained from there on (`Answered.not_lt`). `reliable_run` has both, for every registry and
  every run.
-/
namespace Verdict

namespace Registry

/-! ## One call -/

/-- The change that a registering call asks for. -/
def Call.change? : Call → Option Change
  | registerEvaluator identifier description evaluator =>
    some (.registerEvaluator identifier description evaluator)
  | addAlias name target => some (.addAlias name target)
  | resolveName _ | resolve _ | snapshot => none

/-- The name that a call registers. -/
def Call.name? (c : Call) : Option String := c.change?.bind Change.name?

/-- The name that a registering call needs to be there already. -/
def Call.target? (c : Call) : Option String := c.change?.bind Change.target?

/-- The expression that a call resolves. -/
def Call.expr? : Call → Option Expr
  | resolveName name => some (.named name)
  | resolve e => some e
  | registerEvaluator _ _ _ | addAlias _ _ | snapshot => none

/-- All that a call can do: the table after it, and the answer. -/
inductive Taken (r : Registry) : Call → Registry × Answer → Prop
  | done {c : Call} {d : Change} (hc : c.change? = some d) (hd : r.report d = .done) :
      Taken r c (r.after d, .done)
  | refused {c : Call} {d : Change} {error : RegistryError} (hc : c.change? = some d)
      (hd : r.report d = .failed error) : Taken r c (r, .failed error)
  | predicate {c : Call} {e : Expr} {p : Predicate} (hc : c.expr? = some e)
      (hp : r.resolve e = .ok p) : Taken r c (r, .predicate p)
  | unresolved {c : Call} {e : Expr} {error : RegistryError} (hc : c.expr? = some e)
      (hp : r.resolve e = .error error) : Taken r c (r, .failed error)
  | snapshot : Taken r .snapshot (r, .table r)

theorem taken_settle {r : Registry} {c : Call} {d : Change} (hc : c.change? = some d)
    {x : Except RegistryError Registry} (hx : r.apply d = r.registered x) :
    Taken r c (r.settle x) := by
  cases x with
  | ok r' =>
    have hafter : r.after d = r' := congrArg Prod.fst hx
    have h := Taken.done hc (congrArg Prod.snd hx)
    rwa [hafter] at h
  | error error => exact .refused hc (congrArg Prod.snd hx)

theorem taken_ofPredicate {r : Registry} {c : Call} {e : Expr} (hc : c.expr? = some e) :
    Taken r c (r, .ofPredicate (r.resolve e)) := by
  cases hp : r.resolve e with
  | ok p => exact .predicate hc hp
  | error error => exact .unresolved hc hp

theorem taken_perform (r : Registry) (c : Call) : Taken r c (r.perform c) := by
  cases c with
  | registerEvaluator _ _ _ | addAlias _ _ => exact taken_settle rfl rfl
  | resolveName name =>
    have h : Taken r (.resolveName name) _ := taken_ofPredicate rfl
    rwa [resolve_named] at h
  | resolve e => exact taken_ofPredicate rfl
  | snapshot => exact .snapshot

theorem change?_of_name? {c : Call} {d : Change} {name : String} (hc : c.change? = some d)
    (hn : c.name? = some name) : d.name? = some name := by
  unfold Call.name? at hn
  rwa [hc] at hn

theorem target?_of_change? {c : Call} {d : Change} (hc : c.change? = some d) :
    d.target? = c.target? := by
  unfold Call.target?
  rw [hc, Option.bind_some]

theorem exists_name?_of_change? {c : Call} {d : Change} (hc : c.change? = some d) :
    ∃ name, c.name? = some name ∧ d.name? = some name := by
  cases c with
  | registerEvaluator _ _ _ | addAlias _ _ =>
    cases hc
    exact ⟨_, rfl, rfl⟩
  | resolveName _ | resolve _ | snapshot => cases hc

/-- A call that resolves an expression asks for no change. -/
theorem change?_of_expr? {c : Call} {e : Expr} (hc : c.expr? = some e) : c.change? = none := by
  cases c with
  | registerEvaluator _ _ _ | addAlias _ _ | snapshot => cases hc
  | resolveName _ | resolve _ => rfl

theorem name?_of_expr? {c : Call} {e : Expr} (hc : c.expr? = some e) : c.name? = none := by
  unfold Call.name?
  rw [change?_of_expr? hc, Option.bind_none]

section Taken

variable {r : Registry} {c : Call} {x : Registry × Answer} {name : String}

/-- A registering call succeeds when its name is free and its target is there. -/
theorem Taken.done_iff (h : Taken r c x) (hn : c.name? = some name) :
    x.2 = .done ↔ r.contains name = false ∧
      ∀ target, c.target? = some target → r.contains target = true := by
  have hiff : ∀ d, c.change? = some d → (r.report d = .done ↔ r.contains name = false ∧
      ∀ target, c.target? = some target → r.contains target = true) := by
    intro d hc
    rw [contains_eq_false_iff, and_assoc, ← target?_of_change? hc]
    exact report_eq_done_iff (step_apply r d) (change?_of_name? hc hn)
  cases h with
  | done hc hd => exact iff_of_true rfl ((hiff _ hc).1 hd)
  | refused hc hd =>
    rw [← hiff _ hc, hd]
    exact iff_of_false (by simp) (by simp)
  | predicate hc _ | unresolved hc _ =>
    rw [name?_of_expr? hc] at hn
    cases hn
  | snapshot => cases hn

/-- Only a registration changes the table. -/
theorem Taken.eq_of_ne_done (h : Taken r c x) (hx : x.2 ≠ .done) : x.1 = r := by
  cases h with
  | done => exact absurd rfl hx
  | refused | predicate | unresolved | snapshot => rfl

theorem Taken.ne_done_of_reading (h : Taken r c x) (hn : c.name? = none) : x.2 ≠ .done := by
  cases h with
  | done hc _ =>
    obtain ⟨name, hname, -⟩ := exists_name?_of_change? hc
    rw [hn] at hname
    cases hname
  | refused | predicate | unresolved | snapshot => simp

theorem contains_step_iff {d : Change} {y : Registry × Report} (h : Step r d y)
    (hn : d.name? = some name) (hy : y.2 = .done) (other : String) :
    y.1.contains other = true ↔ other = name ∨ r.contains other = true := by
  rw [contains_iff, contains_iff]
  cases h with
  | unknownTarget | taken => cases hy
  | bind ho _ _ =>
    rw [(Change.name?_of_operator? ho).1] at hn
    cases hn
    rw [mem_identifiers_insert, or_assoc]
    exact Iff.rfl
  | addAlias _ _ _ =>
    cases hn
    rw [mem_aliasNames_insert, or_left_comm]
    exact Iff.rfl
  | notThere | erase | addStandard => cases hn

/-- A registration brings in its name and no other. -/
theorem Taken.contains_iff_of_done (h : Taken r c x) (hn : c.name? = some name)
    (hx : x.2 = .done) (other : String) :
    x.1.contains other = true ↔ other = name ∨ r.contains other = true := by
  cases h with
  | @done _ d hc hd => exact contains_step_iff (step_apply r d) (change?_of_name? hc hn) hd other
  | refused | predicate | unresolved | snapshot => cases hx

theorem Taken.table_eq {s : Registry} (h : Taken r c x) (hx : x.2 = .table s) : s = r := by
  cases h with
  | done | refused | predicate | unresolved => cases hx
  | snapshot => exact (Answer.table.inj hx).symm

theorem Taken.resolve_eq {p : Predicate} (h : Taken r c x) (hx : x.2 = .predicate p) :
    ∃ e, c.expr? = some e ∧ r.resolve e = .ok p := by
  cases h with
  | done | refused | unresolved | snapshot => cases hx
  | predicate hc hp =>
    cases hx
    exact ⟨_, hc, hp⟩

theorem Taken.eq_predicate {e : Expr} {p : Predicate} (h : Taken r c x) (hc : c.expr? = some e)
    (hp : r.resolve e = .ok p) : x.2 = .predicate p := by
  cases h with
  | done hd _ | refused hd _ =>
    rw [change?_of_expr? hc] at hd
    cases hd
  | predicate hc' hp' =>
    obtain rfl := Option.some.inj (hc.symm.trans hc')
    exact congrArg Answer.predicate (Except.ok.inj (hp'.symm.trans hp))
  | unresolved hc' hp' =>
    obtain rfl := Option.some.inj (hc.symm.trans hc')
    rw [hp] at hp'
    cases hp'
  | snapshot => cases hc

end Taken

/-! ## What one call preserves -/

/-- Every name that stands for an identifier in `r` stands for the same one in `r'`, and every name
that is bound in `r` is bound alike in `r'`. -/
structure Retains (r r' : Registry) : Prop where
  canonical? : ∀ name c, r.canonical? name = some c → r'.canonical? name = some c
  binding : ∀ name b, r.binding name = .ok b → r'.binding name = .ok b

theorem Retains.refl (r : Registry) : r.Retains r := ⟨fun _ _ h => h, fun _ _ h => h⟩

theorem Retains.trans {r s t : Registry} (h : r.Retains s) (h' : s.Retains t) : r.Retains t :=
  ⟨fun name c hc => h'.canonical? name c (h.canonical? name c hc),
    fun name b hb => h'.binding name b (h.binding name b hb)⟩

theorem Retains.contains {r r' : Registry} (h : r.Retains r') {name : String}
    (hn : r.contains name = true) : r'.contains name = true := by
  obtain ⟨c, hc⟩ := Option.isSome_iff_exists.1 hn
  exact Option.isSome_iff_exists.2 ⟨c, h.canonical? name c hc⟩

/-- What builds a predicate in `r` builds it in `r'`. -/
theorem Retains.builds {r r' : Registry} (h : r.Retains r') {e : Expr} {p : Predicate}
    (hp : r.Builds e p) : r'.Builds e p := by
  induction hp with
  | named hb => exact .named (h.binding _ _ hb)
  | nullary hb => exact .nullary (h.binding _ _ hb)
  | unary hb _ ih => exact .unary (h.binding _ _ hb) ih
  | binary hb _ _ ih₁ ih₂ => exact .binary (h.binding _ _ hb) ih₁ ih₂

/-- What resolves in `r` resolves to the same predicate in `r'`. -/
theorem Retains.resolve {r r' : Registry} (h : r.Retains r') {e : Expr} {p : Predicate}
    (hp : r.resolve e = .ok p) : r'.resolve e = .ok p :=
  resolve_of_builds (h.builds (builds_of_resolve r e p hp))

section Insert

variable {r : Registry} {name : String} (hi : name ∉ r.identifiers) (ha : name ∉ r.aliasNames)

include hi ha

theorem ne_of_canonical? {other c : String} (h : r.canonical? other = some c) : other ≠ name := by
  rintro rfl
  rw [canonical?_of_not_isOperator hi] at h
  exact ha ((mem_aliasNames_iff r other).2 ⟨c, h⟩)

theorem retains_insert_operator (o : Operator) :
    r.Retains { r with operators := r.operators.insert name o } := by
  refine ⟨fun other c h => ?_, fun other b h => ?_⟩
  · rw [canonical?_insert_operator o (ne_of_canonical? hi ha h)]
    exact h
  · obtain ⟨p, hp, hb⟩ := (binding_eq_ok_iff r other b).1 h
    obtain ⟨c, hc, hget⟩ := Option.bind_eq_some_iff.1 hp
    -- what the name stands for is an operator already, so it is not the new one
    have hnew : name ≠ c := by
      rintro rfl
      exact hi ((r.operators.mem_keys_iff name).2 ⟨p, hget⟩)
    refine (binding_eq_ok_iff _ other b).2 ⟨p, ?_, hb⟩
    unfold operatorOf?
    rw [canonical?_insert_operator o (ne_of_canonical? hi ha hc), hc, Option.bind_some,
      OrderedMap.get?_insert, if_neg hnew, hget]

theorem retains_insert_alias (c : String) :
    r.Retains { r with aliases := r.aliases.insert name c } := by
  refine ⟨fun other d h => ?_, fun other b h => ?_⟩
  · rw [canonical?_insert_alias c (ne_of_canonical? hi ha h)]
    exact h
  · obtain ⟨p, hp, -⟩ := (binding_eq_ok_iff r other b).1 h
    obtain ⟨d, hd, -⟩ := Option.bind_eq_some_iff.1 hp
    rw [binding_insert_alias c (ne_of_canonical? hi ha hd)]
    exact h

end Insert

theorem retains_step {r : Registry} {d : Change} {y : Registry × Report} {name : String}
    (h : Step r d y) (hn : d.name? = some name) : r.Retains y.1 := by
  cases h with
  | unknownTarget | taken => exact .refl r
  | bind _ hi ha => exact retains_insert_operator hi ha _
  | addAlias _ hi ha => exact retains_insert_alias hi ha _
  | notThere | erase | addStandard => cases hn

/-- No call takes anything away. -/
theorem Taken.retains {r : Registry} {c : Call} {x : Registry × Answer} (h : Taken r c x) :
    r.Retains x.1 := by
  cases h with
  | @done _ d hc _ =>
    obtain ⟨name, -, hn⟩ := exists_name?_of_change? hc
    exact retains_step (step_apply r d) hn
  | refused | predicate | unresolved | snapshot => exact .refl r

/-! ## Runs -/

/-- The table that the call at a place of a run finds. -/
def tableAt (r : Registry) (cs : List Call) (i : Nat) : Registry := (r.run (cs.take i)).1

theorem retains_run (r : Registry) (cs : List Call) : r.Retains (r.run cs).1 := by
  induction cs generalizing r with
  | nil => exact .refl r
  | cons c cs ih =>
    rw [run_cons]
    exact (taken_perform r c).retains.trans (ih (r.perform c).1)

theorem retains_tableAt (r : Registry) (cs : List Call) {i j : Nat} (h : i ≤ j) :
    (r.tableAt cs i).Retains (r.tableAt cs j) := by
  obtain ⟨n, rfl⟩ := Nat.exists_eq_add_of_le h
  unfold tableAt
  rw [List.take_add, run_append]
  exact retains_run _ _

theorem tableAt_succ (r : Registry) {cs : List Call} {i : Nat} {c : Call} (h : cs[i]? = some c) :
    r.tableAt cs (i + 1) = ((r.tableAt cs i).perform c).1 := by
  unfold tableAt
  rw [List.take_add_one, h, run_append]
  rfl

theorem length_answers (r : Registry) (cs : List Call) : (r.run cs).2.length = cs.length := by
  induction cs generalizing r with
  | nil => rfl
  | cons c cs ih => rw [run_cons, List.length_cons, ih, List.length_cons]

theorem getElem?_answers (r : Registry) (cs : List Call) (i : Nat) :
    (r.run cs).2[i]? = cs[i]?.map fun c => ((r.tableAt cs i).perform c).2 := by
  induction cs generalizing r i with
  | nil => rfl
  | cons c cs ih =>
    rw [run_cons]
    cases i with
    | zero => rfl
    | succ i =>
      rw [List.getElem?_cons_succ, ih, List.getElem?_cons_succ]
      rfl

/-- The call at a place of a run, and what the client is told. -/
structure Answered (r : Registry) (cs : List Call) (i : Nat) (c : Call) (a : Answer) : Prop where
  call_eq : cs[i]? = some c
  answer_eq : (r.run cs).2[i]? = some a

section Answered

variable {r : Registry} {cs : List Call} {i j : Nat} {c d : Call} {a : Answer} {name : String}

/-- A call is taken by the table that it finds, which leads to the next one. -/
theorem Answered.taken (h : r.Answered cs i c a) :
    Taken (r.tableAt cs i) c (r.tableAt cs (i + 1), a) := by
  obtain ⟨hc, ha⟩ := h
  rw [getElem?_answers, hc, Option.map_some] at ha
  rw [tableAt_succ r hc, ← Option.some.inj ha]
  exact taken_perform _ c

theorem answered_perform (hc : cs[i]? = some c) :
    r.Answered cs i c ((r.tableAt cs i).perform c).2 := by
  refine ⟨hc, ?_⟩
  rw [getElem?_answers, hc, Option.map_some]

theorem Answered.unique {b : Answer} (h : r.Answered cs i c a) (h' : r.Answered cs i c b) :
    a = b := Option.some.inj (h.answer_eq.symm.trans h'.answer_eq)

/-- A registering call succeeds when its name is free and its target is there. -/
theorem answered_done_iff (hc : cs[i]? = some c) (hn : c.name? = some name) :
    r.Answered cs i c .done ↔ (r.tableAt cs i).contains name = false ∧
      ∀ target, c.target? = some target → (r.tableAt cs i).contains target = true := by
  have hanswered := answered_perform (r := r) hc
  rw [← (taken_perform (r.tableAt cs i) c).done_iff hn]
  constructor
  · exact hanswered.unique
  · intro hdone
    rwa [hdone] at hanswered

/-- A name is registered where it is not contained, and is contained from the next call on. -/
theorem Answered.not_lt (h : r.Answered cs i c .done) (h' : r.Answered cs j d .done)
    (hc : c.name? = some name) (hd : d.name? = some name) : ¬ i < j := by
  intro hij
  have hcontains := (retains_tableAt r cs hij).contains
    ((h.taken.contains_iff_of_done hc rfl name).2 (Or.inl rfl))
  rw [((h'.taken.done_iff hd).1 rfl).1] at hcontains
  cases hcontains

end Answered

/-! ## What clients can rely on -/

/-- What clients of a shared registry can rely on in a run of their calls. -/
structure Reliable (r : Registry) (cs : List Call) : Prop where
  /-- Every call is answered. -/
  length_answers : (r.run cs).2.length = cs.length
  /-- A registering call succeeds when its name is free and its target is there. -/
  done_iff : ∀ i c name, cs[i]? = some c → c.name? = some name →
    (r.Answered cs i c .done ↔ (r.tableAt cs i).contains name = false ∧
      ∀ target, c.target? = some target → (r.tableAt cs i).contains target = true)
  /-- No name is registered twice. -/
  done_once : ∀ i j c d name, c.name? = some name → d.name? = some name →
    r.Answered cs i c .done → r.Answered cs j d .done → i = j
  /-- No name is registered that was there before the run. -/
  not_done_of_contains : ∀ i c name, c.name? = some name → r.contains name = true →
    ¬ r.Answered cs i c .done
  /-- An evaluator is refused only when its name is there already. -/
  contains_of_refused : ∀ i identifier description evaluator error,
    r.Answered cs i (.registerEvaluator identifier description evaluator) (.failed error) →
      (r.tableAt cs i).contains identifier = true
  /-- A call that fails leaves the table as it was. -/
  table_of_failed : ∀ i c error, r.Answered cs i c (.failed error) →
    r.tableAt cs (i + 1) = r.tableAt cs i
  /-- A call that reads leaves the table as it was. -/
  table_of_reading : ∀ i c a, c.name? = none → r.Answered cs i c a →
    r.tableAt cs (i + 1) = r.tableAt cs i
  /-- What resolves at some point resolves to the same predicate from there on. -/
  resolve_later : ∀ i j, i ≤ j → ∀ e p, (r.tableAt cs i).resolve e = .ok p →
    (r.tableAt cs j).resolve e = .ok p
  /-- A client that is told a predicate is told the same one from there on. -/
  predicate_later : ∀ i j c p a, i ≤ j → r.Answered cs i c (.predicate p) →
    r.Answered cs j c a → a = .predicate p
  /-- A snapshot is the table that the call finds. -/
  snapshot_eq : ∀ i c s, r.Answered cs i c (.table s) → s = r.tableAt cs i
  /-- What resolves in a snapshot resolves to the same predicate from there on. -/
  snapshot_later : ∀ i j c s, i ≤ j → r.Answered cs i c (.table s) → ∀ e p,
    s.resolve e = .ok p → (r.tableAt cs j).resolve e = .ok p

/-- Whatever calls of whatever clients a shared registry takes, and in whatever order: a name is
registered once at most, a call that fails or reads changes nothing, and what resolves keeps
resolving to the same predicate, in the table and in snapshots of it. -/
theorem reliable_run (r : Registry) (cs : List Call) : r.Reliable cs where
  length_answers := length_answers r cs
  done_iff _ _ _ hc hn := answered_done_iff hc hn
  done_once i j c d name hc hd h h' := by
    rcases Nat.lt_trichotomy i j with hij | hij | hij
    · exact absurd hij (h.not_lt h' hc hd)
    · exact hij
    · exact absurd hij (h'.not_lt h hd hc)
  not_done_of_contains i c name hn hr h := by
    have hcontains := (retains_tableAt r cs (Nat.zero_le i)).contains hr
    rw [((h.taken.done_iff hn).1 rfl).1] at hcontains
    cases hcontains
  contains_of_refused i identifier description evaluator error h := by
    rw [← Bool.not_eq_false]
    intro hfree
    have hdone := (answered_done_iff h.call_eq rfl).2 ⟨hfree, fun _ htarget => nomatch htarget⟩
    cases h.unique hdone
  table_of_failed _ _ _ h := h.taken.eq_of_ne_done (by simp)
  table_of_reading _ _ _ hn h := h.taken.eq_of_ne_done (h.taken.ne_done_of_reading hn)
  resolve_later _ _ hij _ _ hp := (retains_tableAt r cs hij).resolve hp
  predicate_later i j c p a hij h h' := by
    obtain ⟨e, hc, hp⟩ := h.taken.resolve_eq rfl
    exact h'.taken.eq_predicate hc ((retains_tableAt r cs hij).resolve hp)
  snapshot_eq _ _ _ h := h.taken.table_eq rfl
  snapshot_later _ _ _ _ hij h _ _ hp := by
    rw [h.taken.table_eq rfl] at hp
    exact (retains_tableAt r cs hij).resolve hp

/-- Of two clients that want a name the first gets it. -/
example : (standard.run [.addAlias "<" "lt", .addAlias "<" "gt", .resolveName "<"]).2 =
    [.done, .failed (.duplicateOperator "<"), .predicate (.order .less)] := rfl

end Registry

end Verdict
