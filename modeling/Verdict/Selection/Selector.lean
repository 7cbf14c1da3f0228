import Verdict.Selection.Query
import Verdict.Journal

/-
  Selectors: queries with their operators resolved once, for any number of candidates. A
  candidate is selected when every query holds for it. `selects_iff_mismatches` says that a
  candidate is selected exactly when no query fails for it.
-/
namespace Verdict

/-- Queries with their predicates. -/
structure Selector where
  clauses : List (Query × Predicate) := []

namespace Selector

/-- Resolve queries in order; the first that does not resolve gives the error. -/
def clausesOf (r : Registry) : List Query → Except RegistryError (List (Query × Predicate))
  | [] => .ok []
  | q :: qs =>
    match r.resolve q.operator with
    | .error e => .error e
    | .ok p =>
      match clausesOf r qs with
      | .error e => .error e
      | .ok cs => .ok ((q, p) :: cs)

/-- The selector of queries. -/
def compile (r : Registry) (qs : List Query) : Except RegistryError Selector :=
  (clausesOf r qs).map fun cs => ⟨cs⟩

def size (s : Selector) : Nat := s.clauses.length

def isEmpty (s : Selector) : Bool := s.clauses.isEmpty

def queries (s : Selector) : List Query := s.clauses.map Prod.fst

/-- Every query holds. -/
def selects (s : Selector) (c : Candidate) : Bool := s.clauses.all fun e => e.1.check e.2 c

/-- The queries that do not hold. -/
def mismatches (s : Selector) (c : Candidate) : List Query :=
  (s.clauses.filter fun e => !e.1.check e.2 c).map Prod.fst

/-- The candidates for which every query holds, in their order. -/
def filter (s : Selector) (cs : List Candidate) : List Candidate := cs.filter s.selects

theorem selects_iff_mismatches (s : Selector) (c : Candidate) :
    s.selects c = true ↔ s.mismatches c = [] := by
  simp [selects, mismatches, List.filter_eq_nil_iff]

/-- The candidates that queries select in a registry. -/
def select (r : Registry) (qs : List Query) (cs : List Candidate) :
    Except RegistryError (List Candidate) :=
  (compile r qs).map fun s => s.filter cs

end Selector

/-- What compiling queries leaves. -/
def Journal.compile (r : Registry) (qs : List Query) : List Event :=
  match Selector.compile r qs with
  | .ok s => [.compiled s.size]
  | .error e => Journal.lookup (.error e : Except RegistryError Selector)

end Verdict
