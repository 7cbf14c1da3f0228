import Verdict.Proofs.Registry.Resolution
import Verdict.Selection.Selector

/-
  Compiled queries against queries that are evaluated one by one. Compiling succeeds when every
  operator resolves, and else fails as the first that does not (`errorOf_clausesOf`). What is
  compiled are the queries themselves, each with its own predicate (`clausesOf_eq_ok_iff`), so a
  selector says of a candidate what the queries say of it (`Agrees`), in any order and in any
  number of steps (`filter_filter_of_perm`). `selection_exact` has all of it.
-/
namespace Verdict

namespace Selector

open Registry (standard errorOf errorOf_eq_none_iff errorOf_eq_some_iff)

/-! ## Compiling -/

theorem clausesOf_cons_eq_ok_iff (r : Registry) (q : Query) (qs : List Query)
    (clauses : List (Query × Predicate)) :
    clausesOf r (q :: qs) = .ok clauses ↔
      ∃ p rest, r.resolve q.operator = .ok p ∧ clausesOf r qs = .ok rest ∧
        (q, p) :: rest = clauses := by
  rw [clausesOf]
  cases r.resolve q.operator with
  | error error => simp
  | ok p => cases clausesOf r qs <;> simp

/-- The clauses are the queries in their order, each with the predicate of its operator. -/
theorem clausesOf_eq_ok_iff (r : Registry) (qs : List Query)
    (clauses : List (Query × Predicate)) :
    clausesOf r qs = .ok clauses ↔
      clauses.map Prod.fst = qs ∧ ∀ e ∈ clauses, r.resolve e.1.operator = .ok e.2 := by
  induction qs generalizing clauses with
  | nil =>
    rw [clausesOf, List.map_eq_nil_iff]
    constructor
    · intro h
      rw [← Except.ok.inj h]
      exact ⟨rfl, fun e he => absurd he List.not_mem_nil⟩
    · rintro ⟨rfl, -⟩
      rfl
  | cons q qs ih =>
    rw [clausesOf_cons_eq_ok_iff]
    simp only [ih]
    constructor
    · rintro ⟨p, rest, hp, ⟨hqueries, hrest⟩, rfl⟩
      refine ⟨by rw [List.map_cons, hqueries], fun e he => ?_⟩
      rcases List.mem_cons.1 he with rfl | he
      · exact hp
      · exact hrest e he
    · rintro ⟨hqueries, hclauses⟩
      obtain ⟨⟨q', p⟩, rest, rfl, hq, hrest⟩ := List.map_eq_cons_iff.1 hqueries
      obtain rfl : q' = q := hq
      exact ⟨p, rest, hclauses (q', p) List.mem_cons_self,
        ⟨hrest, fun e he => hclauses e (List.mem_cons_of_mem _ he)⟩, rfl⟩

theorem errorOf_clausesOf (r : Registry) (qs : List Query) :
    errorOf (clausesOf r qs) = qs.findSome? fun q => errorOf (r.resolve q.operator) := by
  induction qs with
  | nil => rfl
  | cons q qs ih =>
    rw [clausesOf, List.findSome?_cons, ← ih]
    cases r.resolve q.operator with
    | error error => rfl
    | ok p => cases clausesOf r qs <;> rfl

theorem errorOf_compile (r : Registry) (qs : List Query) :
    errorOf (compile r qs) = qs.findSome? fun q => errorOf (r.resolve q.operator) := by
  rw [← errorOf_clausesOf]
  unfold compile
  cases clausesOf r qs <;> rfl

theorem compile_eq_error_iff (r : Registry) (qs : List Query) (error : RegistryError) :
    compile r qs = .error error ↔
      ∃ before q after, qs = before ++ q :: after ∧
        (∀ earlier ∈ before, ∃ p, r.resolve earlier.operator = .ok p) ∧
        r.resolve q.operator = .error error := by
  rw [← errorOf_eq_some_iff, errorOf_compile]
  exact r.findSome?_resolve_eq_some_iff Query.operator qs error

theorem compile_isOk_iff (r : Registry) (qs : List Query) :
    (∃ s, compile r qs = .ok s) ↔ ∀ q ∈ qs, ∃ p, r.resolve q.operator = .ok p := by
  rw [← errorOf_eq_none_iff, errorOf_compile]
  exact r.findSome?_resolve_eq_none_iff Query.operator qs

theorem compile_eq_ok_iff (r : Registry) (qs : List Query) (s : Selector) :
    compile r qs = .ok s ↔ clausesOf r qs = .ok s.clauses := by
  unfold compile
  cases clausesOf r qs with
  | error error => constructor <;> intro h <;> cases h
  | ok clauses =>
    constructor
    · intro h
      rw [← Except.ok.inj h]
    · intro h
      rw [Except.ok.inj h]
      rfl

/-! ## Verdicts -/

/-- The verdict of a query on a candidate, if its operator resolves. -/
def verdict? (r : Registry) (c : Candidate) (q : Query) : Option Bool := (q.holds r c).toOption

theorem verdict?_eq_some_iff (r : Registry) (c : Candidate) (q : Query) (b : Bool) :
    verdict? r c q = some b ↔ q.holds r c = .ok b := by
  unfold verdict?
  cases q.holds r c <;> simp [Except.toOption]

/-- The verdict of a clause is that of its query. -/
theorem verdict?_of_mem {r : Registry} {qs : List Query} {s : Selector}
    (h : compile r qs = .ok s) {e : Query × Predicate} (he : e ∈ s.clauses) (c : Candidate) :
    verdict? r c e.1 = some (e.1.check e.2 c) := by
  have hclauses := (clausesOf_eq_ok_iff r qs s.clauses).1 ((compile_eq_ok_iff r qs s).1 h)
  rw [verdict?_eq_some_iff]
  unfold Query.holds
  rw [hclauses.2 e he]
  rfl

theorem queries_of_compile {r : Registry} {qs : List Query} {s : Selector}
    (h : compile r qs = .ok s) : s.queries = qs :=
  ((clausesOf_eq_ok_iff r qs s.clauses).1 ((compile_eq_ok_iff r qs s).1 h)).1

/-- A selector says of every candidate what the queries say of it one by one, and selects the
candidates for which all of them hold, in their order. -/
structure Agrees (s : Selector) (r : Registry) (qs : List Query) : Prop where
  selects_iff : ∀ c, s.selects c = true ↔ ∀ q ∈ qs, q.holds r c = .ok true
  mismatches_eq : ∀ c, s.mismatches c = qs.filter fun q => verdict? r c q == some false
  selects_iff_mismatches : ∀ c, s.selects c = true ↔ s.mismatches c = []
  filter_eq : ∀ cs, s.filter cs =
    cs.filter fun c => qs.all fun q => verdict? r c q == some true
  select_eq : ∀ cs, select r qs cs = .ok (s.filter cs)

section Compiled

variable {r : Registry} {qs : List Query} {s : Selector}

theorem selects_eq_all (h : compile r qs = .ok s) (c : Candidate) :
    s.selects c = qs.all fun q => verdict? r c q == some true := by
  have hverdict : ∀ e ∈ s.clauses,
      e.1.check e.2 c = true ↔ (verdict? r c e.1 == some true) = true := by
    intro e he
    rw [verdict?_of_mem h he, beq_iff_eq, Option.some.injEq]
  have hqueries : s.clauses.map Prod.fst = qs := queries_of_compile h
  unfold selects
  rw [← hqueries, List.all_map, Bool.eq_iff_iff, List.all_eq_true, List.all_eq_true]
  exact forall₂_congr hverdict

theorem mismatches_eq_filter (h : compile r qs = .ok s) (c : Candidate) :
    s.mismatches c = qs.filter fun q => verdict? r c q == some false := by
  have hverdict : ∀ e ∈ s.clauses, (!e.1.check e.2 c) = (verdict? r c e.1 == some false) := by
    intro e he
    rw [verdict?_of_mem h he]
    cases e.1.check e.2 c <;> rfl
  have hqueries : s.clauses.map Prod.fst = qs := queries_of_compile h
  unfold mismatches
  rw [← hqueries, List.filter_map, List.filter_congr hverdict]
  rfl

theorem select_of_compile (h : compile r qs = .ok s) (cs : List Candidate) :
    select r qs cs = .ok (s.filter cs) := by
  unfold select
  rw [h]
  rfl

theorem agrees_of_compile (h : compile r qs = .ok s) : s.Agrees r qs where
  selects_iff c := by
    rw [selects_eq_all h, List.all_eq_true]
    simp only [beq_iff_eq, verdict?_eq_some_iff]
  mismatches_eq := mismatches_eq_filter h
  selects_iff_mismatches := s.selects_iff_mismatches
  filter_eq cs := List.filter_congr fun c _ => selects_eq_all h c
  select_eq := select_of_compile h

/-- Queries that are put in another order and cut in two compile, and filtering with the first and
then with the second part selects the same. -/
theorem filter_filter_of_perm (h : compile r qs = .ok s) {qs₁ qs₂ : List Query}
    (hperm : (qs₁ ++ qs₂).Perm qs) :
    ∃ s₁ s₂, compile r qs₁ = .ok s₁ ∧ compile r qs₂ = .ok s₂ ∧
      ∀ cs, s₂.filter (s₁.filter cs) = s.filter cs := by
  have hall := (compile_isOk_iff r qs).1 ⟨s, h⟩
  obtain ⟨s₁, h₁⟩ := (compile_isOk_iff r qs₁).2 fun q hq =>
    hall q (hperm.mem_iff.1 (List.mem_append_left qs₂ hq))
  obtain ⟨s₂, h₂⟩ := (compile_isOk_iff r qs₂).2 fun q hq =>
    hall q (hperm.mem_iff.1 (List.mem_append_right qs₁ hq))
  refine ⟨s₁, s₂, h₁, h₂, fun cs => ?_⟩
  have hselects : ∀ c, (s₂.selects c && s₁.selects c) = s.selects c := by
    intro c
    rw [selects_eq_all h₁, selects_eq_all h₂, selects_eq_all h, ← hperm.all_eq, List.all_append,
      Bool.and_comm]
  show (cs.filter s₁.selects).filter s₂.selects = cs.filter s.selects
  rw [List.filter_filter]
  exact List.filter_congr fun c _ => hselects c

theorem select_of_perm (h : compile r qs = .ok s) {qs' : List Query} (hperm : qs'.Perm qs)
    (cs : List Candidate) : select r qs' cs = select r qs cs := by
  have hall := (compile_isOk_iff r qs).1 ⟨s, h⟩
  obtain ⟨s', h'⟩ := (compile_isOk_iff r qs').2 fun q hq => hall q (hperm.mem_iff.1 hq)
  rw [select_of_compile h', select_of_compile h]
  congr 1
  refine List.filter_congr fun c _ => ?_
  rw [selects_eq_all h', selects_eq_all h, hperm.all_eq]

end Compiled

/-- Compiling and selecting, for every registry and all queries. Compiling fails exactly when some
operator does not resolve, with the error of the first such query; a selector that is compiled
agrees with its queries; and the order of the queries, or selecting in two steps, changes
nothing. -/
theorem selection_exact (r : Registry) (qs : List Query) :
    (∀ error, compile r qs = .error error ↔
      ∃ before q after, qs = before ++ q :: after ∧
        (∀ earlier ∈ before, ∃ p, r.resolve earlier.operator = .ok p) ∧
        r.resolve q.operator = .error error) ∧
    ((∃ s, compile r qs = .ok s) ↔ ∀ q ∈ qs, ∃ p, r.resolve q.operator = .ok p) ∧
    (∀ s, compile r qs = .ok s →
      s.Agrees r qs ∧
      (∀ qs', qs'.Perm qs → ∀ cs, select r qs' cs = select r qs cs) ∧
      ∀ qs₁ qs₂, (qs₁ ++ qs₂).Perm qs →
        ∃ s₁ s₂, compile r qs₁ = .ok s₁ ∧ compile r qs₂ = .ok s₂ ∧
          ∀ cs, s₂.filter (s₁.filter cs) = s.filter cs) :=
  ⟨compile_eq_error_iff r qs, compile_isOk_iff r qs, fun _ h =>
    ⟨agrees_of_compile h, fun _ hperm => select_of_perm h hperm,
      fun _ _ hperm => filter_filter_of_perm h hperm⟩⟩

/-- The load is not above a bound, which is so of an unknown load. -/
def notLoaded : Query := ⟨"load", .not (.named "gt"), .integer 3⟩

def manyCores : Query := ⟨"cores", .named "ge", .integer 2⟩

def idle : Candidate where
  metadata := .ofList [("cores", .integer 4), ("load", .integer 0)]

def silent : Candidate where
  metadata := .ofList [("cores", .integer 4)]

def busy : Candidate where
  metadata := .ofList [("cores", .integer 4), ("load", .integer 7)]

/-- A candidate without the attribute is selected by the negation, and a query that is given twice
mismatches twice. -/
theorem select_notLoaded :
    (∃ s, compile standard [notLoaded, manyCores, notLoaded] = .ok s ∧
      s.filter [busy, silent, idle, silent] = [silent, idle, silent] ∧
      s.mismatches busy = [notLoaded, notLoaded]) ∧
    compile standard [manyCores, ⟨"load", .named "none", .absent⟩, notLoaded] =
      .error (.unknownOperator "none") := by
  have hge : ∃ p, standard.resolve manyCores.operator = .ok p := ⟨_, rfl⟩
  have hnot : ∃ p, standard.resolve notLoaded.operator = .ok p := ⟨_, rfl⟩
  obtain ⟨-, hcompiles, hok⟩ := selection_exact standard [notLoaded, manyCores, notLoaded]
  obtain ⟨s, hs⟩ := hcompiles.2 (by simp [hge, hnot])
  obtain ⟨hagrees, -, -⟩ := hok s hs
  refine ⟨⟨s, hs, ?_, ?_⟩, ?_⟩
  · rw [hagrees.filter_eq]
    decide +kernel
  · rw [hagrees.mismatches_eq]
    rfl
  · refine ((selection_exact standard _).1 _).2 ⟨[manyCores], _, _, rfl, ?_, rfl⟩
    intro q hq
    rw [List.mem_singleton.1 hq]
    exact hge

end Selector

end Verdict
