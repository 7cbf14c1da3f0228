import Verdict.Registry.Config
import Verdict.Proofs.Registry.Names
import Verdict.Proofs.Registry.Resolution
import Verdict.Proofs.Scan

/-
  Which configurations are accepted, and what the registry of an accepted one is. A configuration
  is read entry by entry, the disabled names first and then the aliases, so what is wrong with an
  entry depends on those before it (`disabledFault?`, `aliasFault?`). `ofConfig_cases`: either no
  entry is faulty, and the registry has the enabled operators and the aliases
  (`AfterAliases`), or the error is that of the first faulty entry. In an accepted configuration a
  name stands for what following the targets leads to (`Follows`), and that does not depend on the
  order of the entries. `ofConfig_exact` has all of it.
-/
namespace Verdict

namespace Config

/-! ## Entries -/

/-- A standard identifier that is not disabled. -/
def Enables (c : Config) (name : String) : Prop :=
  name ∈ Registry.standardIdentifiers ∧ name ∉ c.disabled

instance (c : Config) : DecidablePred c.Enables := fun _ => inferInstanceAs (Decidable (_ ∧ _))

/-- After these aliases the name stands for something: it is enabled, or one of them. -/
def Known (c : Config) (before : List (String × String)) (name : String) : Prop :=
  c.Enables name ∨ name ∈ before.map Prod.fst

instance (c : Config) (before : List (String × String)) : DecidablePred (c.Known before) :=
  fun _ => inferInstanceAs (Decidable (_ ∨ _))

/-- What is wrong with a disabled name after others: it is not a standard identifier, or it is one
of the others. -/
def disabledFault? (before : List String) (name : String) : Option RegistryError :=
  if name ∈ Registry.standardIdentifiers ∧ name ∉ before then none
  else some (.unknownOperator name)

/-- What is wrong with an alias after others: its target is not known, or else its name is that of
an operator. -/
def aliasFault? (c : Config) (before : List (String × String)) (e : String × String) :
    Option RegistryError :=
  if c.Known before e.2 then
    if c.Enables e.1 then some (.duplicateOperator e.1) else none
  else some (.unknownAliasTarget e.1 e.2)

/-- The first faulty entry, the disabled names before the aliases, has this error. -/
def FailsWith (c : Config) (error : RegistryError) : Prop :=
  Scan.FailsWith disabledFault? c.disabled error ∨
    Scan.Clean disabledFault? c.disabled ∧ Scan.FailsWith c.aliasFault? c.aliases.entries error

/-- No name is disabled twice, only standard identifiers are disabled, no alias has the name of an
enabled operator, and every target is enabled or an earlier alias. -/
structure Accepted (c : Config) : Prop where
  disabled_nodup : c.disabled.Nodup
  disabled_standard : ∀ name ∈ c.disabled, name ∈ Registry.standardIdentifiers
  not_enabled : ∀ name ∈ c.aliases.keys, ¬ c.Enables name
  target_known : ∀ before name target after,
    c.aliases.entries = before ++ (name, target) :: after → c.Known before target

theorem disabledFault?_eq_none_iff (before : List String) (name : String) :
    disabledFault? before name = none ↔
      name ∈ Registry.standardIdentifiers ∧ name ∉ before := by
  unfold disabledFault?
  by_cases h : name ∈ Registry.standardIdentifiers ∧ name ∉ before
  · simp [h]
  · simp [h]

theorem aliasFault?_eq_none_iff (c : Config) (before : List (String × String))
    (e : String × String) :
    c.aliasFault? before e = none ↔ c.Known before e.2 ∧ ¬ c.Enables e.1 := by
  unfold aliasFault?
  by_cases hk : c.Known before e.2
  · by_cases he : c.Enables e.1 <;> simp [hk, he]
  · simp [hk]

theorem nodup_iff_not_mem_before (names : List String) :
    names.Nodup ↔ ∀ before name after, names = before ++ name :: after → name ∉ before := by
  induction names with
  | nil => simp
  | cons head names ih =>
    rw [List.nodup_cons, ih]
    constructor
    · rintro ⟨hhead, hrest⟩ before name after hsplit
      match before, hsplit with
      | [], _ => exact List.not_mem_nil
      | other :: before, hsplit =>
        obtain ⟨rfl, hnames⟩ := List.cons.inj hsplit
        have hmem : name ∈ names := hnames ▸ List.mem_append_cons_self
        rw [List.mem_cons, not_or]
        exact ⟨fun he => hhead (he ▸ hmem), hrest before name after hnames⟩
    · intro h
      refine ⟨fun hmem => ?_, fun before name after hsplit => ?_⟩
      · obtain ⟨before, after, hsplit⟩ := List.append_of_mem hmem
        exact h (head :: before) head after (by rw [hsplit]; rfl) List.mem_cons_self
      · have hnot := h (head :: before) name after (by rw [hsplit]; rfl)
        exact fun hmem => hnot (List.mem_cons_of_mem head hmem)

theorem clean_disabledFault?_iff (names : List String) :
    Scan.Clean disabledFault? names ↔
      names.Nodup ∧ ∀ name ∈ names, name ∈ Registry.standardIdentifiers := by
  unfold Scan.Clean
  simp only [disabledFault?_eq_none_iff]
  rw [nodup_iff_not_mem_before]
  constructor
  · intro h
    refine ⟨fun before name after hsplit => (h before name after hsplit).2, fun name hname => ?_⟩
    obtain ⟨before, after, hsplit⟩ := List.append_of_mem hname
    exact (h before name after hsplit).1
  · rintro ⟨hnodup, hstandard⟩ before name after hsplit
    have hmem : name ∈ names := hsplit ▸ List.mem_append_cons_self
    exact ⟨hstandard name hmem, hnodup before name after hsplit⟩

/-- A configuration is accepted when none of its entries is faulty. -/
theorem accepted_iff_clean (c : Config) :
    c.Accepted ↔
      Scan.Clean disabledFault? c.disabled ∧ Scan.Clean c.aliasFault? c.aliases.entries := by
  rw [clean_disabledFault?_iff]
  unfold Scan.Clean
  simp only [aliasFault?_eq_none_iff]
  constructor
  · intro h
    refine ⟨⟨h.disabled_nodup, h.disabled_standard⟩, fun before e after hsplit => ?_⟩
    have hmem : e.1 ∈ c.aliases.keys :=
      List.mem_map_of_mem (hsplit ▸ List.mem_append_cons_self)
    exact ⟨h.target_known before e.1 e.2 after hsplit, h.not_enabled e.1 hmem⟩
  · rintro ⟨⟨hnodup, hstandard⟩, haliases⟩
    refine ⟨hnodup, hstandard, fun name hname => ?_, fun before name target after hsplit => ?_⟩
    · obtain ⟨e, he, rfl⟩ := List.mem_map.1 hname
      obtain ⟨before, after, hsplit⟩ := List.append_of_mem he
      exact (haliases before e after hsplit).2
    · exact (haliases before (name, target) after hsplit).1

theorem FailsWith.unique {c : Config} {error error' : RegistryError} (h : c.FailsWith error)
    (h' : c.FailsWith error') : error = error' := by
  rcases h with h | ⟨hclean, h⟩ <;> rcases h' with h' | ⟨hclean', h'⟩
  · exact h.unique h'
  · exact absurd hclean' h.not_clean
  · exact absurd hclean h'.not_clean
  · exact h.unique h'

theorem FailsWith.not_accepted {c : Config} {error : RegistryError} (h : c.FailsWith error) :
    ¬ c.Accepted := by
  rw [accepted_iff_clean]
  rintro ⟨hdisabled, haliases⟩
  rcases h with h | ⟨-, h⟩
  · exact h.not_clean hdisabled
  · exact h.not_clean haliases

/-! ## Following targets -/

/-- `c.Follows name identifier`: going from an alias to its target leads from the name to an
enabled operator. -/
inductive Follows (c : Config) : String → String → Prop
  | enabled {name : String} (h : c.Enables name) : Follows c name name
  | target {name target identifier : String} (h : (name, target) ∈ c.aliases.entries)
      (ht : Follows c target identifier) : Follows c name identifier

theorem Follows.enables {c : Config} {name identifier : String} (h : c.Follows name identifier) :
    c.Enables identifier := by
  induction h with
  | enabled he => exact he
  | target _ _ ih => exact ih

/-- The way from an alias that is no operator begins with its target. -/
theorem Follows.of_target {c : Config} {name target identifier : String}
    (h : c.Follows name identifier) (hnot : ¬ c.Enables name)
    (hmem : (name, target) ∈ c.aliases.entries) : c.Follows target identifier := by
  cases h with
  | enabled he => exact absurd he hnot
  | target hmem' ht => exact c.aliases.eq_of_mem_entries hmem' hmem ▸ ht

/-- Where no alias has the name of an operator, there is one way to go. -/
theorem Follows.unique {c : Config} (hnot : ∀ name ∈ c.aliases.keys, ¬ c.Enables name)
    {name a b : String} (h : c.Follows name a) (h' : c.Follows name b) : a = b := by
  induction h with
  | enabled he =>
    cases h' with
    | enabled _ => rfl
    | target hmem _ => exact absurd he (hnot _ (List.mem_map_of_mem hmem))
  | target hmem _ ih => exact ih (h'.of_target (hnot _ (List.mem_map_of_mem hmem)) hmem)

theorem Follows.of_same_entries {c d : Config} (hd : ∀ name, c.Enables name → d.Enables name)
    (ha : ∀ e ∈ c.aliases.entries, e ∈ d.aliases.entries) {name identifier : String}
    (h : c.Follows name identifier) : d.Follows name identifier := by
  induction h with
  | enabled he => exact .enabled (hd _ he)
  | target hmem _ ih => exact .target (ha _ hmem) ih

end Config

namespace Registry

/-! ## Disabling -/

/-- The standard registry without these operators. -/
def without (disabled : List String) : Registry :=
  { operators := standard.operators.filter fun e => decide (e.1 ∉ disabled) }

theorem without_nil : without [] = standard := by
  unfold without
  rw [OrderedMap.filter_eq_self fun e _ => by simp]
  rfl

theorem erase_without (disabled : List String) (name : String) :
    (without disabled).erase name = without (disabled ++ [name]) := by
  have h : (without disabled).operators.erase name = (without (disabled ++ [name])).operators := by
    unfold OrderedMap.erase without
    rw [OrderedMap.filter_filter]
    congr 1
    funext e
    by_cases he : e.1 = name <;> simp [he]
  unfold erase
  rw [h]
  rfl

theorem identifiers_standard_eq : standard.identifiers = standardIdentifiers := by
  decide +kernel

theorem identifiers_without (disabled : List String) :
    (without disabled).identifiers =
      standardIdentifiers.filter fun name => decide (name ∉ disabled) := by
  rw [← identifiers_standard_eq]
  exact standard.operators.keys_filter fun name => decide (name ∉ disabled)

theorem mem_identifiers_without (disabled : List String) (name : String) :
    name ∈ (without disabled).identifiers ↔ name ∈ standardIdentifiers ∧ name ∉ disabled := by
  rw [identifiers_without, List.mem_filter, decide_eq_true_iff]

/-- Remove one operator, which has to be there. -/
def disable (r : Registry) (identifier : String) : Except RegistryError Registry :=
  match r.unregister? identifier with
  | some r' => .ok r'
  | none => .error (.unknownOperator identifier)

theorem disableAll_eq_foldlM (r : Registry) (identifiers : List String) :
    r.disableAll identifiers = identifiers.foldlM disable r := by
  induction identifiers generalizing r with
  | nil => rfl
  | cons identifier rest ih =>
    rw [List.foldlM_cons, disableAll, disable]
    cases r.unregister? identifier with
    | none => rfl
    | some r' => exact ih r'

theorem keeps_disable (names : List String) :
    Scan.Keeps Config.disabledFault? (fun before r => r = without before) disable names where
  stop := by
    rintro before name after r error - rfl hfault
    unfold Config.disabledFault? at hfault
    by_cases h : name ∈ standardIdentifiers ∧ name ∉ before
    · rw [if_pos h] at hfault
      cases hfault
    · rw [if_neg h] at hfault
      have hnot : ¬ (without before).isOperator name = true := by
        rw [isOperator_iff, mem_identifiers_without]
        exact h
      unfold disable unregister?
      rw [if_neg hnot, Option.some.inj hfault]
  next := by
    rintro before name after r - rfl hfault
    have h := (Config.disabledFault?_eq_none_iff before name).1 hfault
    have hop : (without before).isOperator name = true := by
      rw [isOperator_iff, mem_identifiers_without]
      exact h
    refine ⟨(without before).erase name, ?_, erase_without before name⟩
    unfold disable unregister?
    rw [if_pos hop]

theorem disableAll_standard (names : List String) :
    (standard.disableAll names = .ok (without names) ∧ Scan.Clean Config.disabledFault? names) ∨
      ∃ error, standard.disableAll names = .error error ∧
        Scan.FailsWith Config.disabledFault? names error := by
  rw [disableAll_eq_foldlM]
  rcases (keeps_disable names).foldlM without_nil.symm with ⟨r, hok, rfl, hclean⟩ | h
  · exact Or.inl ⟨hok, hclean⟩
  · exact Or.inr h

/-! ## Adding aliases -/

/-- The registry of a configuration after some of its aliases: the enabled operators, the aliases
in their order, each with what following its target leads to. -/
structure AfterAliases (c : Config) (before : List (String × String)) (r : Registry) : Prop where
  operators_eq : r.operators = (without c.disabled).operators
  aliasNames_eq : r.aliasNames = before.map Prod.fst
  follows : ∀ name identifier, r.aliases.get? name = some identifier →
    c.Follows name identifier

section AfterAliases

variable {c : Config} {before : List (String × String)} {r : Registry}

theorem afterAliases_nil (c : Config) : AfterAliases c [] (without c.disabled) where
  operators_eq := rfl
  aliasNames_eq := rfl
  follows name identifier h := by cases h

theorem AfterAliases.identifiers_eq (h : AfterAliases c before r) :
    r.identifiers = (without c.disabled).identifiers := by
  unfold identifiers
  rw [h.operators_eq]

theorem AfterAliases.mem_identifiers (h : AfterAliases c before r) (name : String) :
    name ∈ r.identifiers ↔ c.Enables name := by
  rw [h.identifiers_eq, mem_identifiers_without]
  exact Iff.rfl

theorem AfterAliases.contains_iff_known (h : AfterAliases c before r) (name : String) :
    r.contains name = true ↔ c.Known before name := by
  rw [contains_iff, h.mem_identifiers, h.aliasNames_eq]
  exact Iff.rfl

theorem AfterAliases.follows_of_canonical? (h : AfterAliases c before r) {name identifier : String}
    (hc : r.canonical? name = some identifier) : c.Follows name identifier := by
  rcases (canonical?_eq_some_iff r name identifier).1 hc with ⟨hi, rfl⟩ | ⟨-, ha⟩
  · exact .enabled ((h.mem_identifiers name).1 hi)
  · exact h.follows name identifier ha

theorem AfterAliases.isFree_iff (h : AfterAliases c before r) {name : String}
    (hnew : name ∉ before.map Prod.fst) : r.isFree name = true ↔ ¬ c.Enables name := by
  rw [Registry.isFree_iff, h.mem_identifiers, h.aliasNames_eq]
  exact and_iff_left hnew

theorem AfterAliases.insert (h : AfterAliases c before r) {name target identifier : String}
    (hmem : (name, target) ∈ c.aliases.entries) (hnew : name ∉ before.map Prod.fst)
    (hc : r.canonical? target = some identifier) :
    AfterAliases c (before ++ [(name, target)])
      { r with aliases := r.aliases.insert name identifier } where
  operators_eq := h.operators_eq
  aliasNames_eq := by
    have hkeys : name ∉ r.aliases.keys := by
      show name ∉ r.aliasNames
      rw [h.aliasNames_eq]
      exact hnew
    show (r.aliases.insert name identifier).keys = _
    rw [OrderedMap.keys_insert, if_neg hkeys, List.map_append]
    show r.aliasNames ++ [name] = _
    rw [h.aliasNames_eq]
    rfl
  follows := OrderedMap.forall_get?_insert h.follows (.target hmem (h.follows_of_canonical? hc))

end AfterAliases

theorem addAliases_eq_foldlM (r : Registry) (es : List (String × String)) :
    r.addAliases es = es.foldlM (fun r e => r.addAlias e.1 e.2) r := by
  induction es generalizing r with
  | nil => rfl
  | cons e es ih =>
    rw [List.foldlM_cons, addAliases]
    cases r.addAlias e.1 e.2 with
    | error error => rfl
    | ok r' => exact ih r'

/-- The name of an entry is not among those before it. -/
theorem not_mem_before (c : Config) {before after : List (String × String)} {e : String × String}
    (hsplit : c.aliases.entries = before ++ e :: after) : e.1 ∉ before.map Prod.fst := by
  have hnodup := c.aliases.nodup
  rw [hsplit, List.map_append, List.map_cons, List.nodup_append] at hnodup
  intro hmem
  exact hnodup.2.2 e.1 hmem e.1 List.mem_cons_self rfl

theorem keeps_addAlias (c : Config) :
    Scan.Keeps c.aliasFault? (AfterAliases c) (fun r e => r.addAlias e.1 e.2)
      c.aliases.entries where
  stop := by
    intro before e after r error hsplit h hfault
    unfold Config.aliasFault? at hfault
    unfold addAlias
    cases hc : r.canonical? e.2 with
    | none =>
      have hnot : ¬ c.Known before e.2 := by
        rw [← h.contains_iff_known]
        unfold contains
        rw [hc]
        exact Bool.false_ne_true
      rw [if_neg hnot] at hfault
      rw [Option.some.inj hfault]
    | some identifier =>
      have hk : c.Known before e.2 := by
        rw [← h.contains_iff_known]
        unfold contains
        rw [hc]
        rfl
      rw [if_pos hk] at hfault
      by_cases he : c.Enables e.1
      · rw [if_pos he] at hfault
        have hnot : ¬ r.isFree e.1 = true := by
          rw [h.isFree_iff (not_mem_before c hsplit)]
          exact fun hn => hn he
        rw [← Option.some.inj hfault]
        exact if_neg hnot
      · rw [if_neg he] at hfault
        cases hfault
  next := by
    intro before e after r hsplit h hfault
    obtain ⟨hk, he⟩ := (c.aliasFault?_eq_none_iff before e).1 hfault
    have hnew := not_mem_before c hsplit
    obtain ⟨identifier, hc⟩ := Option.isSome_iff_exists.1 ((h.contains_iff_known e.2).2 hk)
    have hfree := (h.isFree_iff hnew).2 he
    have hmem : (e.1, e.2) ∈ c.aliases.entries := hsplit ▸ List.mem_append_cons_self
    exact ⟨_, (addAlias_eq_ok_iff r _ e.1 e.2).2 ⟨identifier, hc, hfree, rfl⟩,
      h.insert hmem hnew hc⟩

/-! ## Configurations -/

/-- A configuration is accepted, and its registry is made of its entries, or it fails with the
error of the first faulty entry. -/
theorem ofConfig_cases (c : Config) :
    (∃ r, ofConfig c = .ok r ∧ c.Accepted ∧ AfterAliases c c.aliases.entries r) ∨
      ∃ error, ofConfig c = .error error ∧ c.FailsWith error := by
  unfold ofConfig
  rcases disableAll_standard c.disabled with ⟨hd, hdisabled⟩ | ⟨error, hd, hfails⟩
  · rw [hd]
    show (∃ r, (without c.disabled).addAliases c.aliases.entries = .ok r ∧ _) ∨
      ∃ error, (without c.disabled).addAliases c.aliases.entries = .error error ∧ _
    rw [addAliases_eq_foldlM]
    rcases (keeps_addAlias c).foldlM (afterAliases_nil c) with
      ⟨r, hr, hafter, haliases⟩ | ⟨error, herror, hfails⟩
    · exact Or.inl ⟨r, hr, c.accepted_iff_clean.2 ⟨hdisabled, haliases⟩, hafter⟩
    · exact Or.inr ⟨error, herror, Or.inr ⟨hdisabled, hfails⟩⟩
  · rw [hd]
    exact Or.inr ⟨error, rfl, Or.inl hfails⟩

theorem ofConfig_isOk_iff (c : Config) : (∃ r, ofConfig c = .ok r) ↔ c.Accepted := by
  rcases ofConfig_cases c with ⟨r, hr, haccepted, -⟩ | ⟨error, herror, hfails⟩
  · exact ⟨fun _ => haccepted, fun _ => ⟨r, hr⟩⟩
  · refine ⟨?_, fun haccepted => absurd haccepted hfails.not_accepted⟩
    rintro ⟨r, hr⟩
    rw [herror] at hr
    cases hr

theorem ofConfig_eq_error_iff (c : Config) (error : RegistryError) :
    ofConfig c = .error error ↔ c.FailsWith error := by
  rcases ofConfig_cases c with ⟨r, hr, haccepted, -⟩ | ⟨error', herror, hfails⟩
  · rw [hr]
    refine ⟨fun he => ?_, fun hfails => absurd haccepted hfails.not_accepted⟩
    cases he
  · rw [herror]
    constructor
    · intro he
      exact Except.error.inj he ▸ hfails
    · intro hfails'
      rw [hfails.unique hfails']

theorem afterAliases_of_ofConfig {c : Config} {r : Registry} (h : ofConfig c = .ok r) :
    c.Accepted ∧ AfterAliases c c.aliases.entries r := by
  rcases ofConfig_cases c with ⟨r', hr, haccepted, hafter⟩ | ⟨error, herror, -⟩
  · obtain rfl := Except.ok.inj (hr.symm.trans h)
    exact ⟨haccepted, hafter⟩
  · rw [herror] at h
    cases h

/-- In a configured registry a name stands for what following the targets leads to. -/
theorem canonical?_eq_some_iff_follows {c : Config} {r : Registry} (h : ofConfig c = .ok r)
    (name identifier : String) :
    r.canonical? name = some identifier ↔ c.Follows name identifier := by
  obtain ⟨haccepted, hafter⟩ := afterAliases_of_ofConfig h
  refine ⟨hafter.follows_of_canonical?, fun hfollows => ?_⟩
  have hknown : c.Known c.aliases.entries name := by
    cases hfollows with
    | enabled he => exact Or.inl he
    | target hmem _ => exact Or.inr (List.mem_map_of_mem hmem)
  obtain ⟨other, hc⟩ := Option.isSome_iff_exists.1 ((hafter.contains_iff_known name).2 hknown)
  have hother := hafter.follows_of_canonical? hc
  rw [hc, hother.unique haccepted.not_enabled hfollows]

/-- The order of the entries does not matter to an accepted configuration. -/
theorem resolve_eq_of_perm {c d : Config} {r s : Registry}
    (haliases : c.aliases.entries.Perm d.aliases.entries) (hdisabled : c.disabled.Perm d.disabled)
    (hr : ofConfig c = .ok r) (hs : ofConfig d = .ok s) (e : Expr) : r.resolve e = s.resolve e := by
  have henables : ∀ name, c.Enables name ↔ d.Enables name := by
    intro name
    unfold Config.Enables
    rw [hdisabled.mem_iff]
  have hoperators : r.operators = s.operators := by
    rw [(afterAliases_of_ofConfig hr).2.operators_eq, (afterAliases_of_ofConfig hs).2.operators_eq]
    show (standard.operators.filter _) = (standard.operators.filter _)
    simp only [hdisabled.mem_iff]
  have hcanonical : ∀ name, r.canonical? name = s.canonical? name := by
    intro name
    apply Option.ext
    intro identifier
    rw [canonical?_eq_some_iff_follows hr, canonical?_eq_some_iff_follows hs]
    constructor
    · exact Config.Follows.of_same_entries (fun other => (henables other).1)
        fun e => haliases.mem_iff.1
    · exact Config.Follows.of_same_entries (fun other => (henables other).2)
        fun e => haliases.mem_iff.2
  apply resolve_congr
  intro name _
  unfold binding
  rw [hcanonical, hoperators]

/-- The registry of a configuration, for every configuration. There is one exactly when the
configuration is accepted, and else the error is that of the first faulty entry. The registry has
the enabled identifiers and the aliases in their order, every name stands for the enabled
identifier that following the targets leads to, and two accepted configurations that differ in the
order of their entries resolve every expression alike. -/
theorem ofConfig_exact (c : Config) :
    ((∃ r, ofConfig c = .ok r) ↔ c.Accepted) ∧
    (∀ r, ofConfig c = .ok r →
      r.identifiers = standardIdentifiers.filter (fun name => decide (name ∉ c.disabled)) ∧
      r.aliasNames = c.aliases.keys ∧
      (∀ name target, (name, target) ∈ c.aliases.entries →
        ∃ identifier, c.Enables identifier ∧ c.Follows target identifier ∧
          r.canonical? name = some identifier) ∧
      ∀ name identifier, r.canonical? name = some identifier ↔ c.Follows name identifier) ∧
    (∀ d r s, c.aliases.entries.Perm d.aliases.entries → c.disabled.Perm d.disabled →
      ofConfig c = .ok r → ofConfig d = .ok s → ∀ e, r.resolve e = s.resolve e) ∧
    (∀ error, ofConfig c = .error error ↔ c.FailsWith error) := by
  refine ⟨ofConfig_isOk_iff c, ?_, ?_, ofConfig_eq_error_iff c⟩
  · intro r hr
    obtain ⟨haccepted, hafter⟩ := afterAliases_of_ofConfig hr
    have hidentifiers := hafter.identifiers_eq.trans (identifiers_without c.disabled)
    refine ⟨hidentifiers, hafter.aliasNames_eq, ?_, canonical?_eq_some_iff_follows hr⟩
    intro name target hmem
    have hknown : c.Known c.aliases.entries name := Or.inr (List.mem_map_of_mem hmem)
    have hcontains := (hafter.contains_iff_known name).2 hknown
    obtain ⟨identifier, hc⟩ := Option.isSome_iff_exists.1 hcontains
    have hfollows := hafter.follows_of_canonical? hc
    have hnot := haccepted.not_enabled name (List.mem_map_of_mem hmem)
    exact ⟨identifier, hfollows.enables, hfollows.of_target hnot hmem, hc⟩
  · intro d r s haliases hdisabled hr hs
    exact resolve_eq_of_perm haliases hdisabled hr hs

/-- An alias of an alias, and an alias that takes the name of a disabled operator. -/
def chained : Config where
  aliases := .ofList [("<", "lt"), ("less", "<"), ("or", "and")]
  disabled := ["or", "gt"]

/-- The same entries in another order. -/
def rechained : Config where
  aliases := .ofList [("or", "and"), ("<", "lt"), ("less", "<")]
  disabled := ["gt", "or"]

/-- An alias before its target. -/
def backwards : Config where
  aliases := .ofList [("less", "<"), ("<", "lt")]

/-- The order of the entries matters to what is accepted, and to nothing else. -/
theorem ofConfig_chained :
    (∃ r s, ofConfig chained = .ok r ∧ ofConfig rechained = .ok s ∧
      r.canonical? "less" = some "lt" ∧ ∀ e, r.resolve e = s.resolve e) ∧
    ofConfig backwards = .error (.unknownAliasTarget "less" "<") := by
  have haliases : chained.aliases.entries.Perm rechained.aliases.entries := by decide +kernel
  have hdisabled : chained.disabled.Perm rechained.disabled := by decide +kernel
  have henabled : chained.Enables "lt" := by decide +kernel
  have hshort : ("<", "lt") ∈ chained.aliases.entries := by decide +kernel
  have hlong : ("less", "<") ∈ chained.aliases.entries := by decide +kernel
  have hfault : backwards.aliasFault? [] ("less", "<") = some (.unknownAliasTarget "less" "<") := by
    decide +kernel
  obtain ⟨-, hok, hsame, -⟩ := ofConfig_exact chained
  refine ⟨⟨_, _, rfl, rfl, ?_, ?_⟩, ?_⟩
  · have hcanonical := (hok _ rfl).2.2.2 "less" "lt"
    exact hcanonical.2 (.target hlong (.target hshort (.enabled henabled)))
  · exact hsame rechained _ _ haliases hdisabled rfl rfl
  · have hfails := (ofConfig_exact backwards).2.2.2 (.unknownAliasTarget "less" "<")
    exact hfails.2 (Or.inr ⟨Scan.clean_nil, [], _, [("<", "lt")], rfl, Scan.clean_nil, hfault⟩)

end Registry

end Verdict
