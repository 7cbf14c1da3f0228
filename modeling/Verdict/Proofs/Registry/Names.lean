import Verdict.Registry.Change

/-
  The names of a registry, identifiers and aliases apart, and what each change does to them. The
  statements speak of the lists of names (`identifiers`, `aliasNames`) and of the identifier that
  an alias stands for; the look-ups are read off them (`canonical?_eq_some_iff`, `contains_iff`).
-/
namespace Verdict

namespace Registry

/-- The names that are aliases. -/
def aliasNames (r : Registry) : List String := r.aliases.keys

/-- The identifiers of the standard operators. -/
def standardIdentifiers : List String := standardOperators.map Prod.fst

/-! ## Looking up -/

theorem isOperator_iff (r : Registry) (name : String) :
    r.isOperator name = true ↔ name ∈ r.identifiers := r.operators.contains_iff_mem_keys name

theorem isFree_iff (r : Registry) (name : String) :
    r.isFree name = true ↔ name ∉ r.identifiers ∧ name ∉ r.aliasNames := by
  unfold isFree identifiers aliasNames
  rw [Bool.and_eq_true, Bool.not_eq_true', Bool.not_eq_true', ← Bool.not_eq_true,
    ← Bool.not_eq_true, OrderedMap.contains_iff_mem_keys, OrderedMap.contains_iff_mem_keys]

theorem not_isFree_iff (r : Registry) (name : String) :
    ¬ r.isFree name = true ↔ name ∈ r.identifiers ∨ name ∈ r.aliasNames := by
  rw [isFree_iff, Classical.not_and_iff_not_or_not, Classical.not_not, Classical.not_not]

theorem canonical?_of_isOperator {r : Registry} {name : String} (h : name ∈ r.identifiers) :
    r.canonical? name = some name := by
  unfold canonical?
  rw [if_pos ((isOperator_iff r name).2 h)]

theorem canonical?_of_not_isOperator {r : Registry} {name : String} (h : name ∉ r.identifiers) :
    r.canonical? name = r.aliases.get? name := by
  unfold canonical?
  rw [if_neg (mt (isOperator_iff r name).1 h)]

/-- A name stands for itself if it is an identifier, and else for what it is stored with. -/
theorem canonical?_eq_some_iff (r : Registry) (name c : String) :
    r.canonical? name = some c ↔
      (name ∈ r.identifiers ∧ name = c) ∨
        (name ∉ r.identifiers ∧ r.aliases.get? name = some c) := by
  by_cases h : name ∈ r.identifiers
  · rw [canonical?_of_isOperator h]
    simp [h]
  · rw [canonical?_of_not_isOperator h]
    simp [h]

theorem contains_iff (r : Registry) (name : String) :
    r.contains name = true ↔ name ∈ r.identifiers ∨ name ∈ r.aliasNames := by
  rw [contains_eq_not_isFree, Bool.not_eq_true', ← Bool.not_eq_true, not_isFree_iff]

theorem contains_eq_false_iff (r : Registry) (name : String) :
    r.contains name = false ↔ name ∉ r.identifiers ∧ name ∉ r.aliasNames := by
  rw [← Bool.not_eq_true, contains_iff, not_or]

theorem mem_aliasNames_iff (r : Registry) (name : String) :
    name ∈ r.aliasNames ↔ ∃ c, r.aliases.get? name = some c := r.aliases.mem_keys_iff name

/-! ## New names -/

theorem mem_identifiers_insert (r : Registry) (identifier : String) (o : Operator)
    (name : String) :
    name ∈ { r with operators := r.operators.insert identifier o : Registry }.identifiers ↔
      name = identifier ∨ name ∈ r.identifiers :=
  r.operators.mem_keys_insert identifier name o

theorem mem_aliasNames_insert (r : Registry) (name identifier other : String) :
    other ∈ { r with aliases := r.aliases.insert name identifier : Registry }.aliasNames ↔
      other = name ∨ other ∈ r.aliasNames :=
  r.aliases.mem_keys_insert name other identifier

/-! ## Removed names -/

theorem mem_identifiers_erase (r : Registry) (identifier name : String) :
    name ∈ (r.erase identifier).identifiers ↔ name ∈ r.identifiers ∧ name ≠ identifier := by
  show name ∈ (r.operators.erase identifier).keys ↔ _
  rw [OrderedMap.keys_erase, List.mem_filter, bne_iff_ne]
  exact Iff.rfl

/-- The aliases that are left are those that stand for another identifier. -/
theorem get?_aliases_erase (r : Registry) (identifier name c : String) :
    (r.erase identifier).aliases.get? name = some c ↔
      r.aliases.get? name = some c ∧ c ≠ identifier := by
  show (r.aliases.filter fun e => e.2 != identifier).get? name = some c ↔ _
  rw [OrderedMap.get?_filter, Option.filter_eq_some_iff, bne_iff_ne]

theorem mem_aliasNames_erase (r : Registry) (identifier name : String) :
    name ∈ (r.erase identifier).aliasNames ↔
      ∃ c, r.aliases.get? name = some c ∧ c ≠ identifier := by
  rw [mem_aliasNames_iff]
  simp only [get?_aliases_erase]

/-! ## Bound names -/

theorem mem_identifiers_bindAll (r : Registry) (os : List (String × Operator)) (name : String) :
    name ∈ (r.bindAll os).identifiers ↔ name ∈ os.map Prod.fst ∨ name ∈ r.identifiers := by
  induction os generalizing r with
  | nil => simp [bindAll]
  | cons o os ih =>
    have h := ih { r with operators := r.operators.insert o.1 o.2 }
    rw [mem_identifiers_insert] at h
    rw [List.map_cons, List.mem_cons, or_assoc, or_left_comm]
    exact h

theorem mem_identifiers_addStandard (r : Registry) (name : String) :
    name ∈ r.addStandard.identifiers ↔ name ∈ standardIdentifiers ∨ name ∈ r.identifiers :=
  mem_identifiers_bindAll r standardOperators name

theorem aliases_bindAll (r : Registry) (os : List (String × Operator)) :
    (r.bindAll os).aliases = r.aliases := rfl

theorem aliases_addStandard (r : Registry) : r.addStandard.aliases = r.aliases :=
  aliases_bindAll r standardOperators

theorem aliasNames_addStandard (r : Registry) : r.addStandard.aliasNames = r.aliasNames := by
  unfold aliasNames
  rw [aliases_addStandard]

end Registry

end Verdict
