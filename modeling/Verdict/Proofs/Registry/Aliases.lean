import Verdict.Proofs.Registry.Reachable
import Verdict.Proofs.Registry.Resolution

/-
  What aliases stand for, after any history of changes. An alias is stored with an identifier that
  is registered, so looking names up is idempotent, a name that is contained is never unknown to
  resolving, and the listing has each alias in one place (`listing_pairs_perm`: the aliases that
  are listed, each with its operator, are the stored ones). `coherent_afterAll` has all of it.
-/
namespace Verdict

namespace Registry

/-! ## The listing -/

/-- Items that are collected by what they belong to are all there, if each belongs to one of the
owners. -/
theorem flatMap_filter_perm {α : Type} (owner : α → String) (owners : List String)
    (h : owners.Nodup) (as : List α) (hm : ∀ a ∈ as, owner a ∈ owners) :
    (owners.flatMap fun k => as.filter fun a => owner a == k).Perm as := by
  induction owners generalizing as with
  | nil =>
    have : as = [] := List.eq_nil_iff_forall_not_mem.2 fun a ha => List.not_mem_nil (hm a ha)
    rw [this, List.flatMap_nil]
  | cons k ks ih =>
    rw [List.nodup_cons] at h
    rw [List.flatMap_cons]
    -- the items of the other owners are among those that are not `k`'s
    have hrest : ∀ k' ∈ ks, (as.filter fun a => owner a == k') =
        (as.filter fun a => !(owner a == k)).filter fun a => owner a == k' := by
      intro k' hk'
      rw [List.filter_filter]
      apply List.filter_congr
      intro a _
      by_cases ha : owner a = k'
      · have hne : owner a ≠ k := fun he => h.1 (he ▸ ha ▸ hk')
        simp [ha, beq_eq_false_iff_ne.2 (ha ▸ hne)]
      · simp [ha]
    rw [List.flatMap_def, List.map_congr_left hrest, ← List.flatMap_def]
    have hm' : ∀ a ∈ as.filter (fun a => !(owner a == k)), owner a ∈ ks := by
      intro a ha
      obtain ⟨ha, hk⟩ := List.mem_filter.1 ha
      rcases List.mem_cons.1 (hm a ha) with he | he
      · simp [he] at hk
      · exact he
    exact ((ih h.2 _ hm').append_left _).trans (List.filter_append_perm _ as)

theorem mem_aliasesOf_iff (r : Registry) (name identifier : String) :
    name ∈ r.aliasesOf identifier ↔ r.aliases.get? name = some identifier := by
  unfold aliasesOf
  rw [OrderedMap.mem_keys_iff]
  constructor
  · rintro ⟨c, hc⟩
    rw [OrderedMap.get?_filter, Option.filter_eq_some_iff] at hc
    have he : c = identifier := eq_of_beq hc.2
    rw [hc.1, he]
  · intro h
    refine ⟨identifier, ?_⟩
    rw [OrderedMap.get?_filter, Option.filter_eq_some_iff]
    exact ⟨h, beq_self_eq_true identifier⟩

theorem pairs_aliasesOf (r : Registry) (identifier : String) :
    ((r.aliasesOf identifier).map fun name => (name, identifier)) =
      r.aliases.entries.filter fun e => e.2 == identifier := by
  show (((r.aliases.entries.filter fun e => e.2 == identifier).map Prod.fst).map _) = _
  rw [List.map_map]
  have h : ∀ e ∈ r.aliases.entries.filter (fun e => e.2 == identifier),
      ((fun name => (name, identifier)) ∘ Prod.fst) e = id e := by
    intro e he
    rw [Function.comp_apply, ← eq_of_beq (List.mem_filter.1 he).2]
    rfl
  rw [List.map_congr_left h, List.map_id]

/-- The aliases in the listing of a sound registry, each with its operator, are the stored ones. -/
theorem Sound.listing_pairs_perm {r : Registry} (h : r.Sound) :
    (r.listing.flatMap fun o => o.aliases.map fun name => (name, o.identifier)).Perm
      r.aliases.entries := by
  have hpairs : (r.listing.flatMap fun o => o.aliases.map fun name => (name, o.identifier)) =
      r.identifiers.flatMap fun k => r.aliases.entries.filter fun e => e.2 == k := by
    unfold listing identifiers OrderedMap.keys
    rw [List.flatMap_map, List.flatMap_map]
    simp only [pairs_aliasesOf]
  rw [hpairs]
  apply flatMap_filter_perm Prod.snd r.identifiers r.operators.nodup
  intro e he
  exact h.target_mem e.1 e.2 ((r.aliases.mem_entries_iff e.1 e.2).1 he)

/-- No alias is listed twice. -/
theorem Sound.nodup_listing_aliases {r : Registry} (h : r.Sound) :
    (r.listing.flatMap OperatorInfo.aliases).Nodup := by
  have hnames : (r.listing.flatMap OperatorInfo.aliases) =
      (r.listing.flatMap fun o => o.aliases.map fun name => (name, o.identifier)).map Prod.fst := by
    rw [List.map_flatMap]
    simp only [List.map_map, Function.comp_def, List.map_id']
  rw [hnames, (h.listing_pairs_perm.map Prod.fst).nodup_iff]
  exact r.aliases.nodup

/-! ## Looking up -/

theorem Sound.canonical?_idem {r : Registry} (h : r.Sound) {name c : String}
    (hc : r.canonical? name = some c) : r.canonical? c = some c :=
  canonical?_of_isOperator (h.canonical?_mem hc)

/-- Every contained name leads to an operator. -/
theorem Sound.operatorOf?_eq_none_iff {r : Registry} (h : r.Sound) (name : String) :
    r.operatorOf? name = none ↔ r.contains name = false := by
  unfold operatorOf? contains
  cases hc : r.canonical? name with
  | none => simp
  | some c =>
    obtain ⟨o, ho⟩ := (r.operators.mem_keys_iff c).1 (h.canonical?_mem hc)
    rw [Option.bind_some, ho]
    simp

theorem Sound.contains_iff_resolveName {r : Registry} (h : r.Sound) (name : String) :
    r.contains name = true ↔ ∀ other, r.resolveName name ≠ .error (.unknownOperator other) := by
  rw [← Bool.not_eq_false, ← h.operatorOf?_eq_none_iff]
  constructor
  · intro hn other he
    rw [resolveName_eq_error_iff, fault?_eq_unknown_iff] at he
    exact hn he.1
  · intro hn ho
    apply hn name
    rw [resolveName_eq_error_iff, fault?_eq_unknown_iff]
    exact ⟨ho, rfl⟩

/-! ## After every history -/

/-- The aliases of a registry, its operators, its look-ups and its listing fit together. -/
structure Coherent (r : Registry) : Prop where
  /-- An alias is stored with an identifier that is registered. -/
  target_registered : ∀ name c, (name, c) ∈ r.aliases.entries → c ∈ r.identifiers
  /-- What a name stands for stands for itself. -/
  canonical_idempotent : ∀ name c, r.canonical? name = some c → r.canonical? c = some c
  /-- The contained names are those that resolving knows. -/
  contains_iff_known : ∀ name,
    r.contains name = true ↔ ∀ other, r.resolveName name ≠ .error (.unknownOperator other)
  /-- The listed aliases, each with the operator it is listed under, are the stored ones. -/
  listed_perm :
    (r.listing.flatMap fun o => o.aliases.map fun name => (name, o.identifier)).Perm
      r.aliases.entries
  /-- No alias is listed twice. -/
  listed_nodup : (r.listing.flatMap OperatorInfo.aliases).Nodup

theorem Sound.coherent {r : Registry} (h : r.Sound) : r.Coherent where
  target_registered name c hc := h.target_mem name c ((r.aliases.mem_entries_iff name c).1 hc)
  canonical_idempotent _ _ := h.canonical?_idem
  contains_iff_known := h.contains_iff_resolveName
  listed_perm := h.listing_pairs_perm
  listed_nodup := h.nodup_listing_aliases

/-- After any changes in any order, successful or not, aliases and operators fit together. -/
theorem coherent_afterAll (cs : List Change) : (empty.afterAll cs).Coherent :=
  (sound_empty.afterAll cs).coherent

end Registry

end Verdict
