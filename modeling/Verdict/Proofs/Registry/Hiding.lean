import Verdict.Proofs.Registry.Aliases

/-
  Identifiers that hide an alias of their name. New identifiers and new aliases need free names,
  but the standard identifiers are bound without a look at the aliases, so a standard name that
  was removed and then used for an alias is both after that (`hides_lt`). `hides_step` says that
  this is the only way; `hides_iff_standard_alias` says for every history when it happens, and
  what the listing and a removal do with such a name.
-/
namespace Verdict

namespace Registry

/-- The name is an identifier and an alias at once: the identifier hides the alias. -/
def Hides (r : Registry) (name : String) : Prop := name ∈ r.identifiers ∧ name ∈ r.aliasNames

instance (r : Registry) : DecidablePred r.Hides := fun _ => inferInstanceAs (Decidable (_ ∧ _))

/-! ## One change -/

/-- A change hides an alias only by binding a standard identifier of its name. -/
theorem hides_step {r : Registry} {c : Change} {x : Registry × Report} {name : String}
    (hs : Step r c x) (h : x.1.Hides name) :
    r.Hides name ∨ c = .addStandard ∧ name ∈ standardIdentifiers ∧ name ∈ r.aliasNames := by
  cases hs with
  | unknownTarget | taken | notThere => exact Or.inl h
  | bind hc hi ha =>
    rcases (mem_identifiers_insert r _ _ name).1 h.1 with rfl | hid
    · exact absurd h.2 ha
    · exact Or.inl ⟨hid, h.2⟩
  | addAlias ht hi ha =>
    rcases (mem_aliasNames_insert r _ _ name).1 h.2 with rfl | hal
    · exact absurd h.1 hi
    · exact Or.inl ⟨h.1, hal⟩
  | @erase identifier hi =>
    obtain ⟨c, hc, -⟩ := (mem_aliasNames_erase r identifier name).1 h.2
    exact Or.inl ⟨((mem_identifiers_erase r identifier name).1 h.1).1,
      (mem_aliasNames_iff r name).2 ⟨c, hc⟩⟩
  | addStandard =>
    have hal : name ∈ r.aliasNames := by
      rw [← aliasNames_addStandard]
      exact h.2
    rcases (mem_identifiers_addStandard r name).1 h.1 with hst | hid
    · exact Or.inr ⟨rfl, hst, hal⟩
    · exact Or.inl ⟨hid, hal⟩

theorem hides_addStandard {r : Registry} {name : String} (hst : name ∈ standardIdentifiers)
    (hal : name ∈ r.aliasNames) : (r.after .addStandard).Hides name := by
  refine ⟨(mem_identifiers_addStandard r name).2 (Or.inl hst), ?_⟩
  show name ∈ r.addStandard.aliasNames
  rw [aliasNames_addStandard]
  exact hal

/-! ## Histories -/

/-- Whenever the standard operators are bound, no alias has the name of one of them. -/
def KeepsStandardNames (r : Registry) (cs : List Change) : Prop :=
  ∀ ds, ds ++ [.addStandard] <+: cs →
    ∀ name ∈ standardIdentifiers, name ∉ (r.afterAll ds).aliasNames

theorem KeepsStandardNames.head {r : Registry} {c : Change} {cs : List Change}
    (h : r.KeepsStandardNames (c :: cs)) (hc : c = .addStandard) (name : String)
    (hn : name ∈ standardIdentifiers) : name ∉ r.aliasNames :=
  h [] (by rw [hc]; exact ⟨cs, rfl⟩) name hn

theorem KeepsStandardNames.tail {r : Registry} {c : Change} {cs : List Change}
    (h : r.KeepsStandardNames (c :: cs)) : (r.after c).KeepsStandardNames cs := by
  intro ds hds
  exact h (c :: ds) ((List.prefix_cons_inj c).2 hds)

theorem KeepsStandardNames.of_prefix {r : Registry} {cs ds : List Change}
    (h : r.KeepsStandardNames cs) (hds : ds <+: cs) : r.KeepsStandardNames ds :=
  fun es hes => h es (hes.trans hds)

theorem not_hides_afterAll {r : Registry} {cs : List Change} (h : ∀ name, ¬ r.Hides name)
    (hk : r.KeepsStandardNames cs) (name : String) : ¬ (r.afterAll cs).Hides name := by
  induction cs generalizing r with
  | nil => exact h name
  | cons c cs ih =>
    rw [afterAll_cons]
    refine ih (fun other ho => ?_) hk.tail
    rcases hides_step (step_apply r c) ho with hr | ⟨hc, hst, hal⟩
    · exact h other hr
    · exact hk.head hc other hst hal

theorem keepsStandardNames_of_not_mem {r : Registry} {cs : List Change}
    (h : ∀ c ∈ cs, c ≠ .addStandard) : r.KeepsStandardNames cs := by
  intro ds hds
  exact absurd rfl (h .addStandard (hds.subset (List.mem_append_right ds List.mem_cons_self)))

/-- A registry is made with its names apart. -/
theorem Initial.not_hides {r : Registry} (h : Initial r) (name : String) : ¬ r.Hides name := by
  cases h with
  | empty => exact fun hr => List.not_mem_nil hr.1
  | standard => exact fun hr => List.not_mem_nil hr.2
  | @ofConfig c r h =>
    rw [← afterAll_of_ofConfig h]
    refine not_hides_afterAll (fun other hr => List.not_mem_nil hr.2)
      (keepsStandardNames_of_not_mem fun d hd => ?_) name
    rcases List.mem_append.1 hd with hd | hd
    · obtain ⟨identifier, -, rfl⟩ := List.mem_map.1 hd
      exact Change.noConfusion
    · obtain ⟨e, -, rfl⟩ := List.mem_map.1 hd
      exact Change.noConfusion

/-! ## What becomes of a hidden alias -/

/-- An alias stands for what it is stored with, unless it is hidden. -/
theorem Sound.canonical?_alias_iff {r : Registry} (h : r.Sound) {name c : String}
    (hc : r.aliases.get? name = some c) : r.canonical? name = some c ↔ ¬ r.Hides name := by
  have hal : name ∈ r.aliasNames := (mem_aliasNames_iff r name).2 ⟨c, hc⟩
  rw [canonical?_eq_some_iff]
  constructor
  · rintro (⟨-, rfl⟩ | ⟨hi, -⟩) hr
    · exact h.target_ne name name hc rfl
    · exact hi hr.1
  · intro hr
    exact Or.inr ⟨fun hi => hr ⟨hi, hal⟩, hc⟩

theorem mem_listing_iff (r : Registry) (o : OperatorInfo) (ho : o ∈ r.listing) (name : String) :
    name ∈ o.aliases ↔ r.aliases.get? name = some o.identifier := by
  obtain ⟨e, -, rfl⟩ := List.mem_map.1 ho
  exact mem_aliasesOf_iff r name e.1

/-- A removed name is gone, unless it hid an alias, which is there again. -/
theorem Sound.contains_erase_iff {r : Registry} (h : r.Sound) {identifier : String}
    (hi : identifier ∈ r.identifiers) :
    (r.erase identifier).contains identifier = false ↔ ¬ r.Hides identifier := by
  rw [← Bool.not_eq_true, contains_iff, mem_identifiers_erase, mem_aliasNames_erase]
  constructor
  · intro hn hr
    obtain ⟨c, hc⟩ := (mem_aliasNames_iff r identifier).1 hr.2
    exact hn (Or.inr ⟨c, hc, h.target_ne identifier c hc⟩)
  · rintro hr (⟨-, hne⟩ | ⟨c, hc, -⟩)
    · exact hne rfl
    · exact hr ⟨hi, (mem_aliasNames_iff r identifier).2 ⟨c, hc⟩⟩

theorem isOperator_of_removed {r : Registry} {identifier : String}
    (h : r.report (.unregister identifier) = .removed true) :
    identifier ∈ r.identifiers ∧ r.after (.unregister identifier) = r.erase identifier := by
  unfold report at h
  unfold after
  rw [apply_unregister] at h ⊢
  by_cases hi : r.isOperator identifier = true
  · rw [if_pos hi]
    exact ⟨(isOperator_iff r identifier).1 hi, rfl⟩
  · rw [if_neg hi] at h
    cases h

/-- Along a history no identifier ever hides an alias exactly when no alias has a standard name
whenever the standard operators are bound. In every registry that is reached, a listed alias
stands for the operator that it is listed under, and a removed name is gone, exactly when it is
not hidden. -/
theorem hides_iff_standard_alias {s : Registry} (hs : Initial s) (cs : List Change) :
    ((∀ ds, ds <+: cs → ∀ name, ¬ (s.afterAll ds).Hides name) ↔ s.KeepsStandardNames cs) ∧
    (∀ o ∈ (s.afterAll cs).listing, ∀ name ∈ o.aliases,
      ((s.afterAll cs).canonical? name = some o.identifier ↔ ¬ (s.afterAll cs).Hides name)) ∧
    (∀ identifier, (s.afterAll cs).report (.unregister identifier) = .removed true →
      (((s.afterAll cs).after (.unregister identifier)).contains identifier = false ↔
        ¬ (s.afterAll cs).Hides identifier)) := by
  have hsound : (s.afterAll cs).Sound := ((Reachable.initial hs).afterAll cs).sound
  refine ⟨⟨?_, ?_⟩, ?_, ?_⟩
  · intro h ds hds name hst hal
    apply h (ds ++ [.addStandard]) hds name
    rw [afterAll_concat]
    exact hides_addStandard hst hal
  · intro hk ds hds
    exact not_hides_afterAll hs.not_hides (hk.of_prefix hds)
  · intro o ho name hn
    exact hsound.canonical?_alias_iff ((mem_listing_iff _ o ho name).1 hn)
  · intro identifier hr
    obtain ⟨hi, he⟩ := isOperator_of_removed hr
    rw [he]
    exact hsound.contains_erase_iff hi

/-- An alias and the standard operators once more, with their names apart. -/
theorem not_hides_after_alias :
    Initial standard ∧ standard.KeepsStandardNames [.addAlias "<" "lt", .addStandard] ∧
      ∀ ds, ds <+: [.addAlias "<" "lt", .addStandard] →
        ∀ name, ¬ (standard.afterAll ds).Hides name := by
  have hk : standard.KeepsStandardNames [.addAlias "<" "lt", .addStandard] := by
    intro ds hds
    match ds, hds with
    | [], hds => cases (List.cons_prefix_cons.1 hds).1
    | [d], hds =>
      obtain rfl := (List.cons_prefix_cons.1 hds).1
      decide +kernel
    | _ :: _ :: es, hds =>
      have := hds.length_le
      simp only [List.length_append, List.length_cons, List.length_nil] at this
      omega
  exact ⟨.standard, hk, ((hides_iff_standard_alias .standard _).1.2 hk)⟩

/-- A standard name is removed, becomes an alias, and is bound again. -/
def rebinding : List Change := [.unregister "lt", .addAlias "lt" "gt", .addStandard]

/-- Binding the standard operators hides an alias: it is listed under one operator and stands for
another, and it is still there when its name has been removed. -/
theorem hides_lt :
    Initial standard ∧ (standard.afterAll rebinding).Hides "lt" ∧
      "lt" ∈ (standard.afterAll rebinding).aliasesOf "gt" ∧
      (standard.afterAll rebinding).canonical? "lt" = some "lt" ∧
      (standard.afterAll rebinding).report (.unregister "lt") = .removed true ∧
      ((standard.afterAll rebinding).after (.unregister "lt")).contains "lt" = true :=
  ⟨.standard, by decide +kernel, by decide +kernel, by decide +kernel, by decide +kernel,
    by decide +kernel⟩

end Registry

end Verdict
