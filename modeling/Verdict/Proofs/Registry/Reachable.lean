import Verdict.Registry.Config
import Verdict.Proofs.Registry.Names

/-
  The registries that changes can lead to. `step_apply` says all that one change can do; every
  invariant is read off its cases. The invariant here is `Sound`: an alias is stored with an
  identifier that is registered, and never with its own name. It holds of every registry that is
  reached (`Reachable.sound`), since every one of them is reached from the empty registry
  (`Reachable.exists_afterAll`): the standard and the configured ones are made by changes too.
-/
namespace Verdict

namespace Registry

/-! ## One change -/

/-- All that a change can do: the registry after it, and what came of it. -/
inductive Step (r : Registry) : Change → Registry × Report → Prop
  | unknownTarget {name target : String} (ht : r.contains target = false) :
      Step r (.addAlias name target) (r, .failed (.unknownAliasTarget name target))
  | taken {c : Change} {name : String} (hc : c.name? = some name)
      (ht : ∀ target, c.target? = some target → r.contains target = true)
      (hn : name ∈ r.identifiers ∨ name ∈ r.aliasNames) :
      Step r c (r, .failed (.duplicateOperator name))
  | bind {c : Change} {identifier : String} {o : Operator}
      (hc : c.operator? = some (identifier, o)) (hi : identifier ∉ r.identifiers)
      (ha : identifier ∉ r.aliasNames) :
      Step r c ({ r with operators := r.operators.insert identifier o }, .done)
  | addAlias {name target identifier : String} (ht : r.canonical? target = some identifier)
      (hi : name ∉ r.identifiers) (ha : name ∉ r.aliasNames) :
      Step r (.addAlias name target)
        ({ r with aliases := r.aliases.insert name identifier }, .done)
  | notThere {identifier : String} (hi : identifier ∉ r.identifiers) :
      Step r (.unregister identifier) (r, .removed false)
  | erase {identifier : String} (hi : identifier ∈ r.identifiers) :
      Step r (.unregister identifier) (r.erase identifier, .removed true)
  | addStandard : Step r .addStandard (r.addStandard, .done)

theorem Change.name?_of_operator? {c : Change} {identifier : String} {o : Operator}
    (hc : c.operator? = some (identifier, o)) : c.name? = some identifier ∧ c.target? = none := by
  cases c <;> cases hc <;> exact ⟨rfl, rfl⟩

theorem step_of_operator? (r : Registry) {c : Change} {identifier : String} {o : Operator}
    (hc : c.operator? = some (identifier, o)) : Step r c (r.apply c) := by
  obtain ⟨hn, ht⟩ := Change.name?_of_operator? hc
  rw [apply_of_operator? r hc]
  by_cases h : r.isFree identifier = true
  · rw [if_pos h]
    obtain ⟨hi, ha⟩ := (isFree_iff r identifier).1 h
    exact .bind hc hi ha
  · rw [if_neg h]
    refine .taken hn (fun target htarget => ?_) ((not_isFree_iff r identifier).1 h)
    rw [ht] at htarget
    cases htarget

theorem step_addAlias (r : Registry) (name target : String) :
    Step r (.addAlias name target) (r.apply (.addAlias name target)) := by
  cases ht : r.canonical? target with
  | none =>
    rw [apply_addAlias_unknown ht]
    exact .unknownTarget (by unfold contains; rw [ht]; rfl)
  | some identifier =>
    rw [apply_addAlias_known ht]
    by_cases h : r.isFree name = true
    · rw [if_pos h]
      obtain ⟨hi, ha⟩ := (isFree_iff r name).1 h
      exact .addAlias ht hi ha
    · rw [if_neg h]
      refine .taken rfl (fun other hother => ?_) ((not_isFree_iff r name).1 h)
      cases hother
      unfold contains
      rw [ht]
      rfl

theorem step_apply (r : Registry) (c : Change) : Step r c (r.apply c) := by
  cases c with
  | register identifier o => exact step_of_operator? r rfl
  | registerEvaluator identifier description evaluator => exact step_of_operator? r rfl
  | addAlias name target => exact step_addAlias r name target
  | unregister identifier =>
    rw [apply_unregister]
    by_cases h : r.isOperator identifier = true
    · rw [if_pos h]
      exact .erase ((isOperator_iff r identifier).1 h)
    · rw [if_neg h]
      exact .notThere (mt (isOperator_iff r identifier).2 h)
  | addStandard =>
    rw [apply_addStandard]
    exact .addStandard

/-! ## What aliases stand for -/

/-- Every alias stands for a registered identifier, which is not its own name. -/
structure Sound (r : Registry) : Prop where
  target_mem : ∀ name c, r.aliases.get? name = some c → c ∈ r.identifiers
  target_ne : ∀ name c, r.aliases.get? name = some c → c ≠ name

theorem sound_empty : Sound empty := by
  refine ⟨?_, ?_⟩ <;> intro name c h <;> cases h

/-- In a sound registry a name stands for an identifier or for nothing. -/
theorem Sound.canonical?_mem {r : Registry} (h : r.Sound) {name c : String}
    (hc : r.canonical? name = some c) : c ∈ r.identifiers := by
  rcases (canonical?_eq_some_iff r name c).1 hc with ⟨hi, rfl⟩ | ⟨-, ha⟩
  · exact hi
  · exact h.target_mem name c ha

theorem Sound.step {r : Registry} {c : Change} {x : Registry × Report} (h : r.Sound)
    (hs : Step r c x) : x.1.Sound := by
  cases hs with
  | unknownTarget | taken | notThere => exact h
  | bind hc hi ha =>
    refine ⟨fun name t ht => ?_, h.target_ne⟩
    exact (mem_identifiers_insert r _ _ t).2 (Or.inr (h.target_mem name t ht))
  | @addAlias name target identifier ht hi ha =>
    have hmem : identifier ∈ r.identifiers := h.canonical?_mem ht
    have hne : identifier ≠ name := fun he => hi (he ▸ hmem)
    exact ⟨OrderedMap.forall_get?_insert h.target_mem hmem,
      OrderedMap.forall_get?_insert h.target_ne hne⟩
  | @erase identifier hi =>
    refine ⟨fun name t ht => ?_, fun name t ht => ?_⟩
    · obtain ⟨ht', hne⟩ := (get?_aliases_erase r identifier name t).1 ht
      exact (mem_identifiers_erase r identifier t).2 ⟨h.target_mem name t ht', hne⟩
    · exact h.target_ne name t ((get?_aliases_erase r identifier name t).1 ht).1
  | addStandard =>
    refine ⟨fun name t ht => ?_, fun name t ht => ?_⟩ <;> rw [aliases_addStandard] at ht
    · exact (mem_identifiers_addStandard r t).2 (Or.inr (h.target_mem name t ht))
    · exact h.target_ne name t ht

theorem Sound.afterAll {r : Registry} (h : r.Sound) (cs : List Change) :
    (r.afterAll cs).Sound :=
  afterAll_induction (fun r c hr => hr.step (step_apply r c)) h cs

/-! ## Reaching a registry -/

/-- The registries that are made at once: without operators, standard, or configured. -/
inductive Initial : Registry → Prop
  | empty : Initial empty
  | standard : Initial standard
  | ofConfig {c : Config} {r : Registry} (h : ofConfig c = .ok r) : Initial r

/-- The registries that changes lead to. -/
inductive Reachable : Registry → Prop
  | initial {r : Registry} (h : Initial r) : Reachable r
  | after {r : Registry} (h : Reachable r) (c : Change) : Reachable (r.after c)

theorem Reachable.afterAll {r : Registry} (h : r.Reachable) (cs : List Change) :
    (r.afterAll cs).Reachable := afterAll_induction (fun _ c hr => hr.after c) h cs

theorem afterAll_of_disableAll {r r' : Registry} {identifiers : List String}
    (h : r.disableAll identifiers = .ok r') :
    r.afterAll (identifiers.map .unregister) = r' := by
  induction identifiers generalizing r with
  | nil => exact Except.ok.inj h
  | cons identifier rest ih =>
    unfold disableAll at h
    cases hu : r.unregister? identifier with
    | none => rw [hu] at h; cases h
    | some s =>
      rw [hu] at h
      rw [List.map_cons, afterAll_cons, after_of_unregister? hu]
      exact ih h

theorem afterAll_of_addAliases {r r' : Registry} {es : List (String × String)}
    (h : r.addAliases es = .ok r') :
    r.afterAll (es.map fun e => .addAlias e.1 e.2) = r' := by
  induction es generalizing r with
  | nil => exact Except.ok.inj h
  | cons e es ih =>
    unfold addAliases at h
    cases ha : r.addAlias e.1 e.2 with
    | error err => rw [ha] at h; cases h
    | ok s =>
      rw [ha] at h
      rw [List.map_cons, afterAll_cons, after_of_addAlias ha]
      exact ih h

/-- A configured registry is the standard one after removals and then aliases. -/
theorem afterAll_of_ofConfig {c : Config} {r : Registry} (h : ofConfig c = .ok r) :
    standard.afterAll
      (c.disabled.map .unregister ++ c.aliases.entries.map fun e => .addAlias e.1 e.2) = r := by
  obtain ⟨s, hdisabled, haliases⟩ := (ofConfig_eq_ok_iff c r).1 h
  rw [afterAll_append, afterAll_of_disableAll hdisabled]
  exact afterAll_of_addAliases haliases

theorem Initial.exists_afterAll {r : Registry} (h : Initial r) :
    ∃ cs, Registry.empty.afterAll cs = r := by
  cases h with
  | empty => exact ⟨[], rfl⟩
  | standard => exact ⟨[.addStandard], rfl⟩
  | @ofConfig c r h => exact ⟨.addStandard :: _, afterAll_of_ofConfig h⟩

theorem Reachable.exists_afterAll {r : Registry} (h : r.Reachable) :
    ∃ cs, empty.afterAll cs = r := by
  induction h with
  | initial h => exact h.exists_afterAll
  | after _ c ih =>
    obtain ⟨cs, rfl⟩ := ih
    exact ⟨cs ++ [c], afterAll_concat empty cs c⟩

theorem Reachable.sound {r : Registry} (h : r.Reachable) : r.Sound := by
  obtain ⟨cs, rfl⟩ := h.exists_afterAll
  exact sound_empty.afterAll cs

end Registry

end Verdict
