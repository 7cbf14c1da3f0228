import Verdict.Proofs.Registry.Hiding

/-
  Removing an operator. A removal takes an identifier and the aliases that stand for it, and
  nothing else: the other entries stay in their order, and an expression resolves as before unless
  it has a name that is gone, and then it fails (`Loses`). This needs a registry whose names are
  apart, because an identifier that hid an alias would give that name back;
  `canonical?_erase` is where it is used. A registration followed by the removal of its name
  leaves no trace (`Sound.erase_insert_operator`). `removal_exact` has all of it.
-/
namespace Verdict

namespace Registry

/-- The name is contained in `r`, and in `r'` no longer. -/
def Drops (r r' : Registry) (name : String) : Prop :=
  r.contains name = true ∧ r'.contains name = false

instance (r r' : Registry) : DecidablePred (r.Drops r') :=
  fun _ => inferInstanceAs (Decidable (_ ∧ _))

/-- `r'` is `r` without an operator: what is gone is its identifier and what stood for it, all
other entries are there in their order, and what has none of these names resolves as before. -/
structure Loses (r r' : Registry) (identifier : String) : Prop where
  drops_iff : ∀ name, r.Drops r' name ↔
    name = identifier ∨ name ∈ r.aliasNames ∧ r.canonical? name = some identifier
  operators_eq : r'.operators.entries = r.operators.entries.filter fun e => ¬ r.Drops r' e.1
  aliases_eq : r'.aliases.entries = r.aliases.entries.filter fun e => ¬ r.Drops r' e.1
  resolve_eq : ∀ e, (∀ name ∈ e.names, ¬ r.Drops r' name) → r'.resolve e = r.resolve e
  resolve_fails : ∀ e, ∀ name ∈ e.names, r.Drops r' name → ∃ error, r'.resolve e = .error error

/-! ## What a removed operator takes along -/

section Erase

variable {r : Registry} (ha : ∀ name, ¬ r.Hides name)

include ha

/-- An alias stands for what it is stored with. -/
theorem canonical?_of_mem_aliases {name c : String} (h : (name, c) ∈ r.aliases.entries) :
    r.canonical? name = some c := by
  have hget := (r.aliases.mem_entries_iff name c).1 h
  have hi : name ∉ r.identifiers :=
    fun hi => ha name ⟨hi, (mem_aliasNames_iff r name).2 ⟨c, hget⟩⟩
  rw [canonical?_of_not_isOperator hi, hget]

/-- The names that are left are those that stand for another identifier, and they still do. -/
theorem canonical?_erase {identifier : String} (name c : String) :
    (r.erase identifier).canonical? name = some c ↔
      r.canonical? name = some c ∧ c ≠ identifier := by
  rw [canonical?_eq_some_iff, canonical?_eq_some_iff, mem_identifiers_erase, get?_aliases_erase]
  constructor
  · rintro (⟨⟨hi, hne⟩, rfl⟩ | ⟨hnot, hget, hne⟩)
    · exact ⟨Or.inl ⟨hi, rfl⟩, hne⟩
    · have hal : name ∈ r.aliasNames := (mem_aliasNames_iff r name).2 ⟨c, hget⟩
      exact ⟨Or.inr ⟨fun hi => ha name ⟨hi, hal⟩, hget⟩, hne⟩
  · rintro ⟨⟨hi, rfl⟩ | ⟨hi, hget⟩, hne⟩
    · exact Or.inl ⟨⟨hi, hne⟩, rfl⟩
    · exact Or.inr ⟨fun h => hi h.1, hget, hne⟩

theorem canonical?_erase_of_ne {identifier name : String}
    (h : r.canonical? name ≠ some identifier) :
    (r.erase identifier).canonical? name = r.canonical? name := by
  apply Option.ext
  intro c
  rw [canonical?_erase ha]
  exact and_iff_left_of_imp fun hc he => h (he ▸ hc)

/-- What is gone is what stood for the identifier. -/
theorem drops_erase_iff {identifier : String} (name : String) :
    r.Drops (r.erase identifier) name ↔ r.canonical? name = some identifier := by
  unfold Drops contains
  cases hc : r.canonical? name with
  | none => simp
  | some c =>
    rw [Option.isSome_some, eq_self_iff_true, true_and, Option.some.injEq,
      Option.isSome_eq_false_iff, Option.isNone_iff_eq_none, Option.eq_none_iff_forall_ne_some]
    constructor
    · intro h
      exact Decidable.byContradiction fun hne =>
        h c ((canonical?_erase ha name c).2 ⟨hc, hne⟩)
    · rintro rfl d hd
      obtain ⟨hd, hne⟩ := (canonical?_erase ha name d).1 hd
      exact hne (Option.some.inj (hd.symm.trans hc))

/-- To keep the entries that stand for another identifier is to keep those that are not gone. -/
theorem bne_eq_not_drops {identifier name c : String} (hc : r.canonical? name = some c) :
    (c != identifier) = decide (¬ r.Drops (r.erase identifier) name) := by
  rw [Bool.eq_iff_iff, bne_iff_ne, decide_eq_true_iff, drops_erase_iff ha, hc, Option.some.injEq]

theorem binding_erase {identifier name : String} (h : r.canonical? name ≠ some identifier) :
    (r.erase identifier).binding name = r.binding name := by
  unfold binding
  rw [canonical?_erase_of_ne ha h]
  cases hc : r.canonical? name with
  | none => rfl
  | some c =>
    have hne : identifier ≠ c := fun he => h (he ▸ hc)
    have hget : (r.erase identifier).operators.get? c = r.operators.get? c :=
      (OrderedMap.get?_erase r.operators identifier c).trans (if_neg hne)
    rw [Option.bind_some, Option.bind_some, hget]

theorem loses_erase {identifier : String} (hi : identifier ∈ r.identifiers) :
    r.Loses (r.erase identifier) identifier where
  drops_iff name := by
    rw [drops_erase_iff ha]
    constructor
    · intro hc
      rcases (canonical?_eq_some_iff r name identifier).1 hc with ⟨-, rfl⟩ | ⟨-, hget⟩
      · exact Or.inl rfl
      · exact Or.inr ⟨(mem_aliasNames_iff r name).2 ⟨identifier, hget⟩, hc⟩
    · rintro (rfl | ⟨-, hc⟩)
      · exact canonical?_of_isOperator hi
      · exact hc
  operators_eq := List.filter_congr fun _ he =>
    bne_eq_not_drops ha (canonical?_of_isOperator (List.mem_map_of_mem he))
  aliases_eq := List.filter_congr fun _ he =>
    bne_eq_not_drops ha (canonical?_of_mem_aliases ha he)
  resolve_eq e h := resolve_congr e fun name hname =>
    binding_erase ha fun hc => h name hname ((drops_erase_iff ha name).2 hc)
  resolve_fails e name hname h := by
    refine exists_error_of_mem_names hname ?_
    have hc : (r.erase identifier).canonical? name = none :=
      Option.isNone_iff_eq_none.1 (Option.isSome_eq_false_iff.1 h.2)
    unfold operatorOf?
    rw [hc, Option.bind_none]

end Erase

/-! ## Undoing a registration -/

/-- A new operator has no aliases yet, so its removal takes nothing else along. -/
theorem Sound.erase_insert_operator {r : Registry} (h : r.Sound) {identifier : String}
    (o : Operator) (hi : identifier ∉ r.identifiers) :
    { r with operators := r.operators.insert identifier o : Registry }.erase identifier = r := by
  have hkeep : ∀ e ∈ r.aliases.entries, (e.2 != identifier) = true := by
    intro e he
    have hmem := h.target_mem e.1 e.2 ((r.aliases.mem_entries_iff e.1 e.2).1 he)
    exact bne_iff_ne.2 fun heq => hi (heq ▸ hmem)
  unfold erase
  dsimp only
  rw [OrderedMap.erase_insert _ o hi, OrderedMap.filter_eq_self hkeep]

theorem Sound.unregister_of_operator? {r : Registry} (h : r.Sound) {c : Change}
    {identifier : String} {o : Operator} (hc : c.operator? = some (identifier, o))
    (hnew : r.contains identifier = false) :
    r.report c = .done ∧ (r.after c).apply (.unregister identifier) = (r, .removed true) := by
  obtain ⟨hi, hal⟩ := (contains_eq_false_iff r identifier).1 hnew
  have happly := apply_of_operator? r hc
  rw [if_pos ((isFree_iff r identifier).2 ⟨hi, hal⟩)] at happly
  unfold report after
  rw [happly]
  refine ⟨rfl, ?_⟩
  have hop := (isOperator_iff _ identifier).2
    ((mem_identifiers_insert r identifier o identifier).2 (Or.inl rfl))
  rw [apply_unregister, if_pos hop, h.erase_insert_operator o hi]

/-! ## Removals -/

theorem report_unregister_iff (r : Registry) (identifier : String) :
    r.report (.unregister identifier) = .removed true ↔ identifier ∈ r.identifiers := by
  unfold report
  rw [apply_unregister, ← isOperator_iff]
  by_cases h : r.isOperator identifier = true
  · rw [if_pos h]
    exact iff_of_true rfl h
  · rw [if_neg h]
    exact iff_of_false (by simp) h

/-- Removals in every registry that is made at once and then changed in any way, but without
binding the standard operators again. A removal succeeds exactly on identifiers, and on other
names it changes nothing. A success takes its operator with the aliases that stand for it and
leaves the rest as it was. And a name that is free is registered and removed without a trace. -/
theorem removal_exact {s r : Registry} (hs : Initial s) {cs : List Change}
    (hcs : ∀ c ∈ cs, c ≠ .addStandard) (hr : s.afterAll cs = r) :
    (∀ identifier,
      r.report (.unregister identifier) = .removed true ↔ identifier ∈ r.identifiers) ∧
    (∀ identifier, identifier ∉ r.identifiers →
      r.apply (.unregister identifier) = (r, .removed false)) ∧
    (∀ identifier ∈ r.identifiers, r.Loses (r.after (.unregister identifier)) identifier) ∧
    (∀ c identifier o, c.operator? = some (identifier, o) → r.contains identifier = false →
      r.report c = .done ∧ (r.after c).apply (.unregister identifier) = (r, .removed true)) := by
  subst hr
  have hsound : (s.afterAll cs).Sound := ((Reachable.initial hs).afterAll cs).sound
  have hapart : ∀ name, ¬ (s.afterAll cs).Hides name :=
    not_hides_afterAll hs.not_hides (keepsStandardNames_of_not_mem hcs)
  refine ⟨report_unregister_iff _, ?_, ?_, ?_⟩
  · intro identifier hi
    rw [apply_unregister, if_neg (mt (isOperator_iff _ identifier).1 hi)]
  · intro identifier hi
    rw [(isOperator_of_removed ((report_unregister_iff _ identifier).2 hi)).2]
    exact loses_erase hapart hi
  · intro c identifier o hc hnew
    exact hsound.unregister_of_operator? hc hnew

/-- Two signs for one relation, the second through the first, and one for another. -/
def signs : List Change := [.addAlias "<" "lt", .addAlias ">" "gt", .addAlias "less" "<"]

/-- A relation leaves with both of its signs, and what is said with the other one stays; an
evaluator comes and goes without a trace. -/
theorem removal_of_lt :
    Initial standard ∧ (∀ c ∈ signs, c ≠ .addStandard) ∧
    "lt" ∈ (standard.afterAll signs).identifiers ∧
    (standard.afterAll signs).Drops
      ((standard.afterAll signs).after (.unregister "lt")) "less" ∧
    ((standard.afterAll signs).after (.unregister "lt")).aliasNames = [">"] ∧
    (∃ error, ((standard.afterAll signs).after (.unregister "lt")).resolve
      (.and (.named ">") (.named "less")) = .error error) ∧
    ((standard.afterAll signs).after (.unregister "lt")).resolve (.not (.named ">")) =
      .ok (.not (.order .greater)) ∧
    (standard.afterAll signs).apply (.unregister ">") =
      (standard.afterAll signs, .removed false) ∧
    ((standard.afterAll signs).after
      (.registerEvaluator "same" "equal operands" Evaluator.sameValue)).apply
        (.unregister "same") = (standard.afterAll signs, .removed true) := by
  have hsigns : ∀ c ∈ signs, c ≠ .addStandard := by
    simp [signs]
  have hlt : "lt" ∈ (standard.afterAll signs).identifiers := by decide +kernel
  obtain ⟨-, hnot, hloses, hundo⟩ := removal_exact .standard hsigns rfl
  have hless := ((hloses "lt" hlt).drops_iff "less").2 (Or.inr (by decide +kernel))
  refine ⟨.standard, hsigns, hlt, hless, by decide +kernel, ?_, ?_, ?_, ?_⟩
  · exact (hloses "lt" hlt).resolve_fails _ "less" (by decide +kernel) hless
  · rw [(hloses "lt" hlt).resolve_eq _ (by decide +kernel)]
    rfl
  · exact hnot ">" (by decide +kernel)
  · exact (hundo _ "same" _ rfl (by decide +kernel)).2

end Registry

end Verdict
