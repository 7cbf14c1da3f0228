import Verdict.Proofs.Registry.Resolution
import Verdict.Proofs.Scan
import Verdict.Validation.Validator

/-
  Validators against the constraints that they are built from. The constraints are read in order
  into one validator for each type key; after some of them a validator has the clauses of the
  constraints of its key, in their order (`Grouped`, kept by every constraint: `Grouped.insert`).
  So validating a value is taking the constraints of its key one by one (`judge`,
  `validate_eq_judge`), however the constraints of different keys are mixed.
  `ofConstraints_exact` has that, the type keys in their order, and the errors.
-/
namespace Verdict

namespace Constraint

/-- The verdict of the constraint on a value. -/
def holds (c : Constraint) (r : Registry) (value : Value) : Except RegistryError Bool :=
  (r.resolve c.operator).map fun p => p.evaluate value c.bound

/-- The constraint does not hold for the value. -/
def isViolated (r : Registry) (value : Value) (c : Constraint) : Bool :=
  (c.holds r value).toOption == some false

/-- The resolved constraint, if its operator resolves. -/
def clause? (r : Registry) (c : Constraint) : Option Clause :=
  (Clause.compile r c.operator c.bound).toOption

/-- The constraints of a type key. -/
def ofKey (typeKey : String) (cs : List Constraint) : List Constraint :=
  cs.filter fun c => c.typeKey == typeKey

theorem holds_of_resolve {r : Registry} {c : Constraint} {p : Predicate}
    (h : r.resolve c.operator = .ok p) (value : Value) :
    c.holds r value = .ok (p.evaluate value c.bound) := by
  unfold holds
  rw [h]
  rfl

theorem clause?_of_resolve {r : Registry} {c : Constraint} {p : Predicate}
    (h : r.resolve c.operator = .ok p) :
    c.clause? r = some ⟨label c.operator c.bound, p, c.bound⟩ := by
  unfold clause? Clause.compile
  rw [h]
  rfl

theorem isViolated_iff (r : Registry) (value : Value) (c : Constraint) :
    c.isViolated r value = true ↔ c.holds r value = .ok false := by
  unfold isViolated
  cases c.holds r value <;> simp [Except.toOption]

/-- A constraint that resolves holds or is violated. -/
theorem not_isViolated_iff {r : Registry} {c : Constraint} {p : Predicate}
    (h : r.resolve c.operator = .ok p) (value : Value) :
    ¬ c.isViolated r value = true ↔ c.holds r value = .ok true := by
  rw [isViolated_iff, holds_of_resolve h]
  cases p.evaluate value c.bound <;> simp

/-- A clause fails where its constraint is violated. -/
theorem not_holds_clause {r : Registry} {c : Constraint} {p : Predicate}
    (h : r.resolve c.operator = .ok p) (value : Value) :
    (!(Clause.mk (label c.operator c.bound) p c.bound).holds value) = c.isViolated r value := by
  unfold isViolated
  rw [holds_of_resolve h]
  show (!p.evaluate value c.bound) = (some (p.evaluate value c.bound) == some false)
  cases p.evaluate value c.bound <;> rfl

theorem ofKey_concat (typeKey : String) (cs : List Constraint) (c : Constraint) :
    ofKey typeKey (cs ++ [c]) =
      if c.typeKey = typeKey then ofKey typeKey cs ++ [c] else ofKey typeKey cs := by
  unfold ofKey
  rw [List.filter_append]
  by_cases h : c.typeKey = typeKey <;> simp [h]

theorem ofKey_eq_nil_iff (typeKey : String) (cs : List Constraint) :
    ofKey typeKey cs = [] ↔ ∀ c ∈ cs, c.typeKey ≠ typeKey := by
  unfold ofKey
  rw [List.filter_eq_nil_iff]
  simp only [beq_iff_eq, ne_eq]

theorem ofKey_ne_nil_iff (typeKey : String) (cs : List Constraint) :
    ofKey typeKey cs ≠ [] ↔ ∃ c ∈ cs, c.typeKey = typeKey := by
  rw [ne_eq, ofKey_eq_nil_iff]
  simp

theorem mem_ofKey_iff (typeKey : String) (cs : List Constraint) (c : Constraint) :
    c ∈ ofKey typeKey cs ↔ c ∈ cs ∧ c.typeKey = typeKey := by
  unfold ofKey
  rw [List.mem_filter, beq_iff_eq]

end Constraint

namespace Validators

open Constraint (ofKey clause? isViolated)
open Registry (standard errorOf errorOf_eq_none_iff errorOf_eq_some_iff)

/-! ## Reading the constraints -/

/-- The validators with one constraint more. -/
def extend (r : Registry) (m : OrderedMap Validator) (c : Constraint) :
    Except RegistryError (OrderedMap Validator) :=
  (((m.get? c.typeKey).getD {}).withClause r c.operator c.bound).map fun v =>
    m.insert c.typeKey v

theorem group_eq_foldlM (r : Registry) (m : OrderedMap Validator) (cs : List Constraint) :
    group r m cs = cs.foldlM (extend r) m := by
  induction cs generalizing m with
  | nil => rfl
  | cons c cs ih =>
    rw [List.foldlM_cons, group, extend]
    cases ((m.get? c.typeKey).getD {}).withClause r c.operator c.bound with
    | error error => rfl
    | ok v => exact ih (m.insert c.typeKey v)

/-- The clauses that are kept for a type key. -/
def clausesAt (m : OrderedMap Validator) (typeKey : String) : List Clause :=
  ((m.get? typeKey).getD {}).clauses

/-- After these constraints there is a validator for each of their type keys, in the order in which
the keys first appear, with the clauses of the constraints of its key. -/
structure Grouped (r : Registry) (cs : List Constraint) (m : OrderedMap Validator) : Prop where
  keys_eq : m.keys = (cs.map Constraint.typeKey).eraseDups
  clauses_eq : ∀ typeKey, clausesAt m typeKey = (ofKey typeKey cs).filterMap (clause? r)

theorem grouped_nil (r : Registry) : Grouped r [] .empty where
  keys_eq := rfl
  clauses_eq _ := rfl

theorem clausesAt_insert (m : OrderedMap Validator) (k typeKey : String) (v : Validator) :
    clausesAt (m.insert k v) typeKey = if k = typeKey then v.clauses else clausesAt m typeKey := by
  unfold clausesAt
  rw [OrderedMap.get?_insert]
  by_cases h : k = typeKey
  · rw [if_pos h, if_pos h, Option.getD_some]
  · rw [if_neg h, if_neg h]

theorem eraseDups_concat (keys : List String) (k : String) :
    (keys ++ [k]).eraseDups = if k ∈ keys then keys.eraseDups else keys.eraseDups ++ [k] := by
  rw [List.eraseDups_append]
  by_cases h : k ∈ keys <;> simp [List.removeAll, List.eraseDups_cons, h]

theorem Grouped.insert {r : Registry} {cs : List Constraint} {m : OrderedMap Validator}
    (h : Grouped r cs m) {c : Constraint} {clause : Clause} (hc : c.clause? r = some clause) :
    Grouped r (cs ++ [c]) (m.insert c.typeKey ⟨clausesAt m c.typeKey ++ [clause]⟩) where
  keys_eq := by
    rw [OrderedMap.keys_insert, h.keys_eq, List.map_append]
    show _ = (cs.map Constraint.typeKey ++ [c.typeKey]).eraseDups
    rw [eraseDups_concat]
    simp only [List.mem_eraseDups]
  clauses_eq typeKey := by
    rw [clausesAt_insert, Constraint.ofKey_concat]
    by_cases hk : c.typeKey = typeKey
    · rw [if_pos hk, if_pos hk, List.filterMap_append, List.filterMap_cons_some hc,
        List.filterMap_nil, hk, h.clauses_eq typeKey]
    · rw [if_neg hk, if_neg hk, h.clauses_eq typeKey]

theorem keeps_extend (r : Registry) (cs : List Constraint) :
    Scan.Keeps (fun _ c => errorOf (r.resolve c.operator)) (Grouped r) (extend r) cs where
  stop := by
    intro before c after m error _ _ hfault
    have herror := (errorOf_eq_some_iff _ error).1 hfault
    unfold extend Validator.withClause Clause.compile
    rw [herror]
    rfl
  next := by
    intro before c after m _ h hfault
    obtain ⟨p, hp⟩ := (errorOf_eq_none_iff _).1 hfault
    refine ⟨_, ?_, h.insert (Constraint.clause?_of_resolve hp)⟩
    unfold extend Validator.withClause Clause.compile
    rw [hp]
    rfl

/-! ## Building -/

theorem ofConstraints_eq_ok_iff (r : Registry) (cs : List Constraint) (vs : Validators) :
    ofConstraints r cs = .ok vs ↔ ∃ m, group r .empty cs = .ok m ∧ ofGroups m = vs := by
  unfold ofConstraints
  cases group r .empty cs <;> simp [Except.map]

theorem errorOf_ofConstraints (r : Registry) (cs : List Constraint) :
    errorOf (ofConstraints r cs) = cs.findSome? fun c => errorOf (r.resolve c.operator) := by
  unfold ofConstraints
  rw [group_eq_foldlM]
  rcases (keeps_extend r cs).foldlM (grouped_nil r) with
    ⟨m, hm, -, hclean⟩ | ⟨error, herror, hfails⟩
  · rw [hm, (Scan.clean_iff_findSome? _ cs).1 hclean]
    rfl
  · rw [herror, (Scan.failsWith_iff_findSome? _ cs error).1 hfails]
    rfl

theorem ofConstraints_eq_error_iff (r : Registry) (cs : List Constraint) (error : RegistryError) :
    ofConstraints r cs = .error error ↔
      ∃ before c after, cs = before ++ c :: after ∧
        (∀ earlier ∈ before, ∃ p, r.resolve earlier.operator = .ok p) ∧
        r.resolve c.operator = .error error := by
  rw [← errorOf_eq_some_iff, errorOf_ofConstraints]
  exact r.findSome?_resolve_eq_some_iff Constraint.operator cs error

theorem ofConstraints_isOk_iff (r : Registry) (cs : List Constraint) :
    (∃ vs, ofConstraints r cs = .ok vs) ↔ ∀ c ∈ cs, ∃ p, r.resolve c.operator = .ok p := by
  rw [← errorOf_eq_none_iff, errorOf_ofConstraints]
  exact r.findSome?_resolve_eq_none_iff Constraint.operator cs

theorem grouped_of_ofConstraints {r : Registry} {cs : List Constraint} {vs : Validators}
    (h : ofConstraints r cs = .ok vs) : ∃ m, Grouped r cs m ∧ ofGroups m = vs := by
  obtain ⟨m, hm, hvs⟩ := (ofConstraints_eq_ok_iff r cs vs).1 h
  rw [group_eq_foldlM] at hm
  exact ⟨m, (keeps_extend r cs).invariant (grouped_nil r) hm, hvs⟩

/-! ## Validating -/

/-- The outcome for a value under a type key that has these constraints, taken one by one: without
any there is no validator, and else the first that is violated is reported. -/
def judge (r : Registry) (typeKey : String) (value : Value) (own : List Constraint) :
    Except ValidationError Unit :=
  if own = [] then .error (.unknownValidator typeKey)
  else match own.find? (isViolated r value) with
    | some c => .error (.constraintViolated (Constraint.label c.operator c.bound) value)
    | none => .ok ()

section Judge

variable {r : Registry} {value : Value} {own : List Constraint}

/-- The first clause that fails is the one of the first constraint that is violated. -/
theorem find?_filterMap_clause? (hown : ∀ c ∈ own, ∃ p, r.resolve c.operator = .ok p) :
    ((own.filterMap (clause? r)).find? fun clause => !clause.holds value) =
      (own.find? (isViolated r value)).bind (clause? r) := by
  induction own with
  | nil => rfl
  | cons c own ih =>
    obtain ⟨p, hp⟩ := hown c List.mem_cons_self
    have hc := Constraint.clause?_of_resolve hp
    have hrest := ih fun other hother => hown other (List.mem_cons_of_mem c hother)
    rw [List.filterMap_cons_some hc, List.find?_cons, List.find?_cons,
      Constraint.not_holds_clause hp, hrest]
    cases isViolated r value c with
    | false => rfl
    | true => exact hc.symm

theorem check_filterMap (hne : own ≠ []) (typeKey : String)
    (hown : ∀ c ∈ own, ∃ p, r.resolve c.operator = .ok p) :
    (Validator.mk (own.filterMap (clause? r))).check value = judge r typeKey value own := by
  unfold Validator.check judge
  rw [if_neg hne, find?_filterMap_clause? hown]
  cases hfind : own.find? (isViolated r value) with
  | none => rfl
  | some c =>
    obtain ⟨p, hp⟩ := hown c (List.mem_of_find?_eq_some hfind)
    rw [Option.bind_some, Constraint.clause?_of_resolve hp]

theorem judge_eq_unknown_iff (r : Registry) (typeKey : String) (value : Value)
    (own : List Constraint) :
    judge r typeKey value own = .error (.unknownValidator typeKey) ↔ own = [] := by
  unfold judge
  by_cases h : own = []
  · simp [h]
  · rw [if_neg h]
    cases own.find? (isViolated r value) <;> simp [h]

theorem judge_eq_ok_iff (typeKey : String)
    (hown : ∀ c ∈ own, ∃ p, r.resolve c.operator = .ok p) :
    judge r typeKey value own = .ok () ↔
      own ≠ [] ∧ ∀ c ∈ own, c.holds r value = .ok true := by
  have hall : (∀ c ∈ own, c.holds r value = .ok true) ↔
      own.find? (isViolated r value) = none := by
    rw [List.find?_eq_none]
    refine forall₂_congr fun c hc => ?_
    obtain ⟨p, hp⟩ := hown c hc
    rw [Constraint.not_isViolated_iff hp]
  rw [hall]
  unfold judge
  by_cases h : own = []
  · simp [h]
  · rw [if_neg h]
    cases own.find? (isViolated r value) <;> simp [h]

theorem judge_eq_violated_iff (typeKey : String)
    (hown : ∀ c ∈ own, ∃ p, r.resolve c.operator = .ok p) (label : String) (w : Value) :
    judge r typeKey value own = .error (.constraintViolated label w) ↔
      w = value ∧ ∃ before c after, own = before ++ c :: after ∧
        (∀ earlier ∈ before, earlier.holds r value = .ok true) ∧
        c.holds r value = .ok false ∧ label = Constraint.label c.operator c.bound := by
  have hfirst : ∀ c, own.find? (isViolated r value) = some c ↔
      ∃ before after, own = before ++ c :: after ∧
        (∀ earlier ∈ before, earlier.holds r value = .ok true) ∧ c.holds r value = .ok false := by
    intro c
    rw [List.find?_eq_some_iff_append, Constraint.isViolated_iff]
    constructor
    · rintro ⟨hc, before, after, hsplit, hbefore⟩
      refine ⟨before, after, hsplit, fun earlier hearlier => ?_, hc⟩
      obtain ⟨p, hp⟩ := hown earlier (by rw [hsplit]; exact List.mem_append_left _ hearlier)
      have hnot := hbefore earlier hearlier
      rw [Bool.not_eq_true', ← Bool.not_eq_true] at hnot
      exact (Constraint.not_isViolated_iff hp value).1 hnot
    · rintro ⟨before, after, hsplit, hbefore, hc⟩
      refine ⟨hc, before, after, hsplit, fun earlier hearlier => ?_⟩
      obtain ⟨p, hp⟩ := hown earlier (by rw [hsplit]; exact List.mem_append_left _ hearlier)
      rw [Bool.not_eq_true', ← Bool.not_eq_true]
      exact (Constraint.not_isViolated_iff hp value).2 (hbefore earlier hearlier)
  have hjudge : judge r typeKey value own = .error (.constraintViolated label w) ↔
      ∃ c, own.find? (isViolated r value) = some c ∧
        Constraint.label c.operator c.bound = label ∧ value = w := by
    unfold judge
    by_cases h : own = []
    · simp [h]
    · rw [if_neg h]
      cases own.find? (isViolated r value) <;> simp
  rw [hjudge]
  constructor
  · rintro ⟨c, hc, hlabel, hvalue⟩
    obtain ⟨before, after, hsplit, hbefore, hviolated⟩ := (hfirst c).1 hc
    exact ⟨hvalue.symm, before, c, after, hsplit, hbefore, hviolated, hlabel.symm⟩
  · rintro ⟨hvalue, before, c, after, hsplit, hbefore, hviolated, hlabel⟩
    exact ⟨c, (hfirst c).2 ⟨before, after, hsplit, hbefore, hviolated⟩, hlabel.symm, hvalue.symm⟩

end Judge

theorem Grouped.mem_keys_iff {r : Registry} {cs : List Constraint} {m : OrderedMap Validator}
    (h : Grouped r cs m) (typeKey : String) :
    typeKey ∈ m.keys ↔ ofKey typeKey cs ≠ [] := by
  rw [h.keys_eq, List.mem_eraseDups, Constraint.ofKey_ne_nil_iff, List.mem_map]

/-- Validating a value is taking the constraints of its key one by one. -/
theorem validate_eq_judge {r : Registry} {cs : List Constraint} {vs : Validators}
    (h : ofConstraints r cs = .ok vs) (typeKey : String) (value : Value) :
    vs.validate typeKey value = judge r typeKey value (ofKey typeKey cs) := by
  have hcs := (ofConstraints_isOk_iff r cs).1 ⟨vs, h⟩
  have hown : ∀ c ∈ ofKey typeKey cs, ∃ p, r.resolve c.operator = .ok p :=
    fun c hc => hcs c ((Constraint.mem_ofKey_iff typeKey cs c).1 hc).1
  obtain ⟨m, hm, rfl⟩ := grouped_of_ofConstraints h
  unfold validate ofGroups
  rw [OrderedMap.get?_map]
  cases hget : m.get? typeKey with
  | none =>
    have hnot : ¬ typeKey ∈ m.keys := by
      rw [OrderedMap.mem_keys_iff, hget]
      rintro ⟨v, hv⟩
      cases hv
    have hnil : ofKey typeKey cs = [] := Classical.not_not.1 (mt (hm.mem_keys_iff typeKey).2 hnot)
    rw [hnil]
    rfl
  | some v =>
    have hne : ofKey typeKey cs ≠ [] :=
      (hm.mem_keys_iff typeKey).1 ((m.mem_keys_iff typeKey).2 ⟨v, hget⟩)
    have hclauses : v.clauses = (ofKey typeKey cs).filterMap (clause? r) := by
      rw [← hm.clauses_eq typeKey]
      unfold clausesAt
      rw [hget, Option.getD_some]
    show v.check value = _
    rw [← check_filterMap hne typeKey hown, ← hclauses]

theorem typeKeys_of_ofConstraints {r : Registry} {cs : List Constraint} {vs : Validators}
    (h : ofConstraints r cs = .ok vs) : vs.typeKeys = (cs.map Constraint.typeKey).eraseDups := by
  obtain ⟨m, hm, rfl⟩ := grouped_of_ofConstraints h
  unfold typeKeys ofGroups
  rw [OrderedMap.keys_map, hm.keys_eq]

/-- Constraints that are the same for each key validate alike, however they are mixed. -/
theorem validate_of_same_ofKey {r : Registry} {cs ds : List Constraint} {vs : Validators}
    (h : ofConstraints r cs = .ok vs) (hkeys : ∀ typeKey, ofKey typeKey ds = ofKey typeKey cs) :
    ∃ ws, ofConstraints r ds = .ok ws ∧
      ∀ typeKey value, ws.validate typeKey value = vs.validate typeKey value := by
  have hcs := (ofConstraints_isOk_iff r cs).1 ⟨vs, h⟩
  have hds : ∀ d ∈ ds, ∃ p, r.resolve d.operator = .ok p := by
    intro d hd
    have hmem : d ∈ ofKey d.typeKey cs := by
      rw [← hkeys]
      exact (Constraint.mem_ofKey_iff d.typeKey ds d).2 ⟨hd, rfl⟩
    exact hcs d ((Constraint.mem_ofKey_iff d.typeKey cs d).1 hmem).1
  obtain ⟨ws, hws⟩ := (ofConstraints_isOk_iff r ds).2 hds
  refine ⟨ws, hws, fun typeKey value => ?_⟩
  rw [validate_eq_judge hws, validate_eq_judge h, hkeys]

/-- Building validators and validating, for every registry and all constraints. Building fails
exactly when some operator does not resolve, with the error of the first such constraint. The type
keys are those of the constraints in the order in which they first appear; a value is checked by
the constraints of its key alone, the first violated one is reported under its label, and mixing
the constraints of different keys differently changes nothing. -/
theorem ofConstraints_exact (r : Registry) (cs : List Constraint) :
    (∀ error, ofConstraints r cs = .error error ↔
      ∃ before c after, cs = before ++ c :: after ∧
        (∀ earlier ∈ before, ∃ p, r.resolve earlier.operator = .ok p) ∧
        r.resolve c.operator = .error error) ∧
    ((∃ vs, ofConstraints r cs = .ok vs) ↔ ∀ c ∈ cs, ∃ p, r.resolve c.operator = .ok p) ∧
    (∀ vs, ofConstraints r cs = .ok vs →
      vs.typeKeys = (cs.map Constraint.typeKey).eraseDups ∧
      (∀ typeKey value,
        (vs.validate typeKey value = .error (.unknownValidator typeKey) ↔
          ∀ c ∈ cs, c.typeKey ≠ typeKey) ∧
        (vs.validate typeKey value = .ok () ↔
          (∃ c ∈ cs, c.typeKey = typeKey) ∧
            ∀ c ∈ cs, c.typeKey = typeKey → c.holds r value = .ok true) ∧
        (∀ label w, vs.validate typeKey value = .error (.constraintViolated label w) ↔
          w = value ∧ ∃ before c after, ofKey typeKey cs = before ++ c :: after ∧
            (∀ earlier ∈ before, earlier.holds r value = .ok true) ∧
            c.holds r value = .ok false ∧
            label = c.operator.display ++ " " ++ c.bound.display)) ∧
      (∀ ds, (∀ typeKey, ofKey typeKey ds = ofKey typeKey cs) →
        ∃ ws, ofConstraints r ds = .ok ws ∧
          ∀ typeKey value, ws.validate typeKey value = vs.validate typeKey value)) := by
  refine ⟨ofConstraints_eq_error_iff r cs, ofConstraints_isOk_iff r cs, fun vs h => ?_⟩
  refine ⟨typeKeys_of_ofConstraints h, fun typeKey value => ?_, fun ds hds =>
    validate_of_same_ofKey h hds⟩
  have hcs := (ofConstraints_isOk_iff r cs).1 ⟨vs, h⟩
  have hown : ∀ c ∈ ofKey typeKey cs, ∃ p, r.resolve c.operator = .ok p :=
    fun c hc => hcs c ((Constraint.mem_ofKey_iff typeKey cs c).1 hc).1
  rw [validate_eq_judge h]
  refine ⟨?_, ?_, judge_eq_violated_iff typeKey hown⟩
  · rw [judge_eq_unknown_iff, Constraint.ofKey_eq_nil_iff]
  · rw [judge_eq_ok_iff typeKey hown, Constraint.ofKey_ne_nil_iff]
    simp only [Constraint.mem_ofKey_iff, and_imp]

def aboveZero : Constraint := ⟨"port", .named "gt", .integer 0⟩

def reserved : Constraint := ⟨"port", .named "lt", .integer 1024⟩

def light : Constraint := ⟨"weight", .named "le", .integer 10⟩

/-- Constraints of two keys, mixed in two ways. -/
theorem validate_reserved :
    ∃ vs, ofConstraints standard [aboveZero, light, reserved] = .ok vs ∧
      vs.typeKeys = ["port", "weight"] ∧
      vs.validate "port" (.integer 8080) = .error (.constraintViolated "lt 1024" (.integer 8080)) ∧
      ∃ ws, ofConstraints standard [light, aboveZero, reserved] = .ok ws ∧
        ∀ typeKey value, ws.validate typeKey value = vs.validate typeKey value := by
  have habove : ∃ p, standard.resolve aboveZero.operator = .ok p := ⟨_, rfl⟩
  have hlight : ∃ p, standard.resolve light.operator = .ok p := ⟨_, rfl⟩
  have hreserved : ∃ p, standard.resolve reserved.operator = .ok p := ⟨_, rfl⟩
  obtain ⟨-, hbuilds, hok⟩ := ofConstraints_exact standard [aboveZero, light, reserved]
  obtain ⟨vs, hvs⟩ := hbuilds.2 (by simp [habove, hlight, hreserved])
  obtain ⟨hkeys, hvalidate, hmixed⟩ := hok vs hvs
  refine ⟨vs, hvs, hkeys, ?_, hmixed _ fun typeKey => ?_⟩
  · have hviolated := (hvalidate "port" (.integer 8080)).2.2 "lt 1024" (.integer 8080)
    refine hviolated.2 ⟨rfl, [aboveZero], reserved, [], rfl, ?_, rfl, rfl⟩
    intro c hc
    rw [List.mem_singleton.1 hc]
    rfl
  · by_cases hweight : "weight" = typeKey
    · subst hweight
      rfl
    · simp [ofKey, List.filter_cons, light, hweight]

end Validators

end Verdict
