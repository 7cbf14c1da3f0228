import Verdict.Proofs.Registry.Aliases

/-
  Calls that bring in one name: registering an operator or an evaluator, and adding an alias.
  `outcome_of_name?` says what can come of such a call, `Sound.extends_of_done` what a success
  leaves as it was (`Extends`): all entries in their order, and the outcome of every expression
  without the new name. `registration_exact` has both, with the errors and their precedence.
-/
namespace Verdict

namespace Registry

/-- `r'` is `r` with one name more: every entry is in its place, and what does not mention the
name resolves as before. -/
structure Extends (r r' : Registry) (name : String) : Prop where
  fresh : r.contains name = false
  contains_iff : ∀ other, r'.contains other = true ↔ other = name ∨ r.contains other = true
  operators_prefix : r.operators.entries <+: r'.operators.entries
  aliases_prefix : r.aliases.entries <+: r'.aliases.entries
  resolve_eq : ∀ e, name ∉ e.names → r'.resolve e = r.resolve e

/-! ## One operator more -/

section Insert

variable {r : Registry} {name : String}

theorem canonical?_insert_operator (o : Operator) {other : String} (h : other ≠ name) :
    { r with operators := r.operators.insert name o : Registry }.canonical? other =
      r.canonical? other := by
  by_cases hi : other ∈ r.identifiers
  · rw [canonical?_of_isOperator hi,
      canonical?_of_isOperator ((mem_identifiers_insert r name o other).2 (Or.inr hi))]
  · have hi' : other ∉ { r with operators := r.operators.insert name o : Registry }.identifiers :=
      fun hm => ((mem_identifiers_insert r name o other).1 hm).elim h hi
    rw [canonical?_of_not_isOperator hi, canonical?_of_not_isOperator hi']

/-- No other name is bound anew: what an alias stands for is registered, so it is not the new
identifier. -/
theorem Sound.binding_insert_operator (hr : r.Sound) (o : Operator) (hi : name ∉ r.identifiers)
    {other : String} (h : other ≠ name) :
    { r with operators := r.operators.insert name o : Registry }.binding other =
      r.binding other := by
  unfold binding
  rw [canonical?_insert_operator o h]
  cases hc : r.canonical? other with
  | none => rfl
  | some c =>
    have hne : name ≠ c := fun he => hi (he ▸ hr.canonical?_mem hc)
    rw [Option.bind_some, Option.bind_some, OrderedMap.get?_insert, if_neg hne]

theorem Sound.extends_insert_operator (hr : r.Sound) (o : Operator) (hi : name ∉ r.identifiers)
    (ha : name ∉ r.aliasNames) :
    r.Extends { r with operators := r.operators.insert name o } name where
  fresh := (contains_eq_false_iff r name).2 ⟨hi, ha⟩
  contains_iff other := by
    rw [Registry.contains_iff, Registry.contains_iff, mem_identifiers_insert, or_assoc]
    exact Iff.rfl
  operators_prefix := by
    show r.operators.entries <+: (r.operators.insert name o).entries
    rw [OrderedMap.entries_insert_of_not_mem _ _ _ hi]
    exact List.prefix_append _ _
  aliases_prefix := List.prefix_refl _
  resolve_eq e he := resolve_congr e fun other ho =>
    hr.binding_insert_operator o hi fun h => he (h ▸ ho)

/-! ## One alias more -/

theorem canonical?_insert_alias (c : String) {other : String} (h : other ≠ name) :
    { r with aliases := r.aliases.insert name c : Registry }.canonical? other =
      r.canonical? other := by
  show (if r.isOperator other then some other else (r.aliases.insert name c).get? other) = _
  rw [OrderedMap.get?_insert, if_neg (Ne.symm h)]
  rfl

theorem binding_insert_alias (c : String) {other : String} (h : other ≠ name) :
    { r with aliases := r.aliases.insert name c : Registry }.binding other = r.binding other := by
  unfold binding
  rw [canonical?_insert_alias c h]

theorem extends_insert_alias (c : String) (hi : name ∉ r.identifiers)
    (ha : name ∉ r.aliasNames) :
    r.Extends { r with aliases := r.aliases.insert name c } name where
  fresh := (contains_eq_false_iff r name).2 ⟨hi, ha⟩
  contains_iff other := by
    rw [Registry.contains_iff, Registry.contains_iff, mem_aliasNames_insert, or_left_comm]
    exact Iff.rfl
  operators_prefix := List.prefix_refl _
  aliases_prefix := by
    show r.aliases.entries <+: (r.aliases.insert name c).entries
    rw [OrderedMap.entries_insert_of_not_mem _ _ _ ha]
    exact List.prefix_append _ _
  resolve_eq e he := resolve_congr e fun other ho =>
    binding_insert_alias c fun h => he (h ▸ ho)

end Insert

/-! ## Outcomes -/

section Outcome

variable {r : Registry} {c : Change} {name : String} {x : Registry × Report}

/-- The name that the call needs, if it needs one, is there. -/
def TargetKnown (r : Registry) (c : Change) : Prop :=
  ∀ target, c.target? = some target → r.contains target = true

/-- What can come of a call that brings in a name. -/
theorem outcome_of_name? (hs : Step r c x) (hc : c.name? = some name) :
    (∃ target, c.target? = some target ∧ r.contains target = false ∧
      x.2 = .failed (.unknownAliasTarget name target)) ∨
    (r.TargetKnown c ∧ (name ∈ r.identifiers ∨ name ∈ r.aliasNames) ∧
      x.2 = .failed (.duplicateOperator name)) ∨
    (r.TargetKnown c ∧ (name ∉ r.identifiers ∧ name ∉ r.aliasNames) ∧ x.2 = .done) := by
  cases hs with
  | @unknownTarget _ target hu =>
    cases hc
    exact Or.inl ⟨target, rfl, hu, rfl⟩
  | taken hc' hk hn =>
    obtain rfl := Option.some.inj (hc'.symm.trans hc)
    exact Or.inr (Or.inl ⟨hk, hn, rfl⟩)
  | bind ho hi ha =>
    obtain ⟨hn, ht⟩ := Change.name?_of_operator? ho
    obtain rfl := Option.some.inj (hn.symm.trans hc)
    have hk : r.TargetKnown c := by
      intro target htarget
      rw [ht] at htarget
      cases htarget
    exact Or.inr (Or.inr ⟨hk, ⟨hi, ha⟩, rfl⟩)
  | @addAlias _ target identifier ht hi ha =>
    cases hc
    have hk : r.TargetKnown (.addAlias name target) := by
      intro other hother
      cases hother
      unfold contains
      rw [ht]
      rfl
    exact Or.inr (Or.inr ⟨hk, ⟨hi, ha⟩, rfl⟩)
  | notThere | erase | addStandard => cases hc

theorem report_of_unknown (hs : Step r c x) (hc : c.name? = some name) {target : String}
    (ht : c.target? = some target) (hu : r.contains target = false) :
    x.2 = .failed (.unknownAliasTarget name target) := by
  have hnot : ¬ r.TargetKnown c := by
    intro hk
    rw [hk target ht] at hu
    cases hu
  rcases outcome_of_name? hs hc with ⟨other, ho, -, h⟩ | ⟨hk, -⟩ | ⟨hk, -⟩
  · obtain rfl := Option.some.inj (ho.symm.trans ht)
    exact h
  · exact absurd hk hnot
  · exact absurd hk hnot

theorem report_of_taken (hs : Step r c x) (hc : c.name? = some name) (hk : r.TargetKnown c)
    (hn : name ∈ r.identifiers ∨ name ∈ r.aliasNames) :
    x.2 = .failed (.duplicateOperator name) := by
  rcases outcome_of_name? hs hc with ⟨other, ho, hu, -⟩ | ⟨-, -, h⟩ | ⟨-, hfree, -⟩
  · rw [hk other ho] at hu
    cases hu
  · exact h
  · exact absurd hn (not_or.2 hfree)

/-- The call succeeds when its name is free and its target is there. -/
theorem report_eq_done_iff (hs : Step r c x) (hc : c.name? = some name) :
    x.2 = .done ↔ name ∉ r.identifiers ∧ name ∉ r.aliasNames ∧ r.TargetKnown c := by
  constructor
  · intro hd
    rcases outcome_of_name? hs hc with ⟨_, -, -, h⟩ | ⟨-, -, h⟩ | ⟨hk, hfree, -⟩
    · rw [hd] at h
      cases h
    · rw [hd] at h
      cases h
    · exact ⟨hfree.1, hfree.2, hk⟩
  · rintro ⟨hi, ha, hk⟩
    rcases outcome_of_name? hs hc with ⟨other, ho, hu, -⟩ | ⟨-, hn, -⟩ | ⟨-, -, h⟩
    · rw [hk other ho] at hu
      cases hu
    · exact absurd hn (not_or.2 ⟨hi, ha⟩)
    · exact h

theorem eq_of_failed (hs : Step r c x) {error : RegistryError} (h : x.2 = .failed error) :
    x.1 = r := by
  cases hs with
  | unknownTarget | taken | notThere => rfl
  | bind | addAlias | erase | addStandard => cases h

theorem Sound.extends_of_done (hr : r.Sound) (hs : Step r c x) (hc : c.name? = some name)
    (hd : x.2 = .done) : r.Extends x.1 name := by
  cases hs with
  | unknownTarget | taken => cases hd
  | bind ho hi ha =>
    rw [(Change.name?_of_operator? ho).1] at hc
    cases hc
    exact hr.extends_insert_operator _ hi ha
  | addAlias _ hi ha =>
    cases hc
    exact extends_insert_alias _ hi ha
  | notThere | erase | addStandard => cases hc

end Outcome

/-- A call that brings in a name, in any registry that is reached: it succeeds when the name is
free and the target of an alias is there; an unknown target is reported before a taken name; a
failure leaves the registry as it was, and a success leaves in it all that was there. -/
theorem registration_exact {r : Registry} (hr : r.Reachable) {c : Change} {name : String}
    (hc : c.name? = some name) :
    (r.report c = .done ↔
      name ∉ r.identifiers ∧ name ∉ r.aliasNames ∧
        ∀ target, c.target? = some target → r.contains target = true) ∧
    (∀ target, c.target? = some target → r.contains target = false →
      r.report c = .failed (.unknownAliasTarget name target)) ∧
    ((∀ target, c.target? = some target → r.contains target = true) →
      (name ∈ r.identifiers ∨ name ∈ r.aliasNames) →
        r.report c = .failed (.duplicateOperator name)) ∧
    (∀ error, r.report c = .failed error → r.after c = r) ∧
    (r.report c = .done → r.Extends (r.after c) name) := by
  have hs : Step r c (r.apply c) := step_apply r c
  refine ⟨report_eq_done_iff hs hc, ?_, report_of_taken hs hc, ?_, hr.sound.extends_of_done hs hc⟩
  · intro target ht hu
    exact report_of_unknown hs hc ht hu
  · intro error h
    exact eq_of_failed hs h

/-- An alias of an alias, in the standard registry with one alias. -/
theorem registration_of_less :
    (standard.after (.addAlias "<" "lt")).Reachable ∧
      (standard.after (.addAlias "<" "lt")).report (.addAlias "less" "<") = .done ∧
      (standard.after (.addAlias "<" "lt")).Extends
        ((standard.after (.addAlias "<" "lt")).after (.addAlias "less" "<")) "less" := by
  have hr : (standard.after (.addAlias "<" "lt")).Reachable :=
    (Reachable.initial .standard).after _
  have hd : (standard.after (.addAlias "<" "lt")).report (.addAlias "less" "<") = .done := by
    decide +kernel
  exact ⟨hr, hd, (registration_exact hr rfl).2.2.2.2 hd⟩

end Registry

end Verdict
