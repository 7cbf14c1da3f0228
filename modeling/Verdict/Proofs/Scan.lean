/-
  Scans: a list is read item by item into a state, up to the first item that is faulty. Whether
  an item is faulty may depend on the items before it. `Clean` says that no item of a list is,
  `FailsWith` that the first faulty one has a given error. A scan that keeps an invariant of what
  it has read (`Keeps`) ends with the invariant for the whole list if the list is clean, and else
  with the error of the first faulty item (`Keeps.foldlM`).
-/
namespace Verdict

namespace Scan

variable {α σ ε : Type}

/-- No item is faulty after those before it. -/
def Clean (fault? : List α → α → Option ε) (items : List α) : Prop :=
  ∀ before item after, items = before ++ item :: after → fault? before item = none

/-- The first faulty item has this error. -/
def FailsWith (fault? : List α → α → Option ε) (items : List α) (error : ε) : Prop :=
  ∃ before item after, items = before ++ item :: after ∧ Clean fault? before ∧
    fault? before item = some error

variable {fault? : List α → α → Option ε}

theorem clean_nil : Clean fault? [] := by
  intro before item after h
  simp at h

theorem Clean.concat {items : List α} {item : α} (h : Clean fault? items)
    (hx : fault? items item = none) : Clean fault? (items ++ [item]) := by
  intro before other after hsplit
  rcases List.append_eq_append_iff.1 hsplit with ⟨as, hbefore, has⟩ | ⟨bs, hitems, hbs⟩
  · -- the other item is the last one
    match as, has with
    | [], has =>
      obtain ⟨rfl, -⟩ := List.cons.inj has
      rw [hbefore, List.append_nil]
      exact hx
    | a :: as, has => simp at has
  · match bs, hbs with
    | [], hbs =>
      obtain ⟨rfl, -⟩ := List.cons.inj hbs
      rw [List.append_nil] at hitems
      rw [← hitems]
      exact hx
    | b :: bs, hbs =>
      obtain ⟨rfl, -⟩ := List.cons.inj hbs
      exact h before other bs hitems

/-- A fault that does not depend on the items before is looked for item by item. -/
theorem clean_iff_forall_mem (fault : α → Option ε) (items : List α) :
    Clean (fun _ => fault) items ↔ ∀ item ∈ items, fault item = none := by
  constructor
  · intro h item hitem
    obtain ⟨before, after, hsplit⟩ := List.append_of_mem hitem
    exact h before item after hsplit
  · intro h before item after hsplit
    have hitem : item ∈ items := hsplit ▸ List.mem_append_cons_self
    exact h item hitem

theorem clean_iff_findSome? (fault : α → Option ε) (items : List α) :
    Clean (fun _ => fault) items ↔ items.findSome? fault = none := by
  rw [clean_iff_forall_mem, List.findSome?_eq_none_iff]

theorem failsWith_iff_findSome? (fault : α → Option ε) (items : List α) (error : ε) :
    FailsWith (fun _ => fault) items error ↔ items.findSome? fault = some error := by
  unfold FailsWith
  simp only [clean_iff_forall_mem, List.findSome?_eq_some_iff]
  constructor
  · rintro ⟨before, item, after, hsplit, hclean, hfault⟩
    exact ⟨before, item, after, hsplit, hfault, hclean⟩
  · rintro ⟨before, item, after, hsplit, hfault, hclean⟩
    exact ⟨before, item, after, hsplit, hclean, hfault⟩

theorem FailsWith.not_clean {items : List α} {error : ε} (h : FailsWith fault? items error) :
    ¬ Clean fault? items := by
  obtain ⟨before, item, after, hsplit, -, hfault⟩ := h
  intro hclean
  have hnone := hclean before item after hsplit
  rw [hfault] at hnone
  cases hnone

/-- An item that is faulty after a clean list and stands no earlier than a faulty one is that
one. -/
theorem eq_of_clean_append {before as after after' : List α} {item item' : α} {error error' : ε}
    (hclean : Clean fault? (before ++ as)) (has : item :: after = as ++ item' :: after')
    (hfault : fault? before item = some error)
    (hfault' : fault? (before ++ as) item' = some error') : error = error' := by
  match as, has with
  | [], has =>
    obtain ⟨rfl, -⟩ := List.cons.inj has
    rw [List.append_nil, hfault] at hfault'
    exact Option.some.inj hfault'
  | a :: as, has =>
    obtain ⟨rfl, -⟩ := List.cons.inj has
    have hnone := hclean before item as rfl
    rw [hfault] at hnone
    cases hnone

theorem FailsWith.unique {items : List α} {error error' : ε} (h : FailsWith fault? items error)
    (h' : FailsWith fault? items error') : error = error' := by
  obtain ⟨before, item, after, hsplit, hclean, hfault⟩ := h
  obtain ⟨before', item', after', hsplit', hclean', hfault'⟩ := h'
  rcases List.append_eq_append_iff.1 (hsplit.symm.trans hsplit') with
    ⟨as, rfl, has⟩ | ⟨as, rfl, has⟩
  · exact eq_of_clean_append hclean' has hfault hfault'
  · exact (eq_of_clean_append hclean has hfault' hfault).symm

/-! ## Folds -/

/-- Reading the items one by one keeps `P` of what was read: a faulty item stops with its error,
and any other leads on to a state for one item more. -/
structure Keeps (fault? : List α → α → Option ε) (P : List α → σ → Prop)
    (step : σ → α → Except ε σ) (items : List α) : Prop where
  stop : ∀ before item after s error, items = before ++ item :: after → P before s →
    fault? before item = some error → step s item = .error error
  next : ∀ before item after s, items = before ++ item :: after → P before s →
    fault? before item = none → ∃ s', step s item = .ok s' ∧ P (before ++ [item]) s'

variable {P : List α → σ → Prop} {step : σ → α → Except ε σ} {items : List α}

/-- The rest of the items, from a state that has read those before. -/
theorem Keeps.foldlM_rest (h : Keeps fault? P step items) (rest before : List α) {s : σ}
    (hsplit : items = before ++ rest) (hs : P before s) (hclean : Clean fault? before) :
    (∃ s', rest.foldlM step s = .ok s' ∧ P items s' ∧ Clean fault? items) ∨
      ∃ error, rest.foldlM step s = .error error ∧ FailsWith fault? items error := by
  induction rest generalizing before s with
  | nil =>
    rw [List.append_nil] at hsplit
    rw [hsplit]
    exact Or.inl ⟨s, rfl, hs, hclean⟩
  | cons item rest ih =>
    rw [List.foldlM_cons]
    cases hfault : fault? before item with
    | none =>
      obtain ⟨s', hstep, hs'⟩ := h.next before item rest s hsplit hs hfault
      rw [hstep]
      have hsplit' : items = (before ++ [item]) ++ rest := by
        rw [hsplit, List.append_assoc, List.singleton_append]
      exact ih (before ++ [item]) hsplit' hs' (hclean.concat hfault)
    | some error =>
      rw [h.stop before item rest s error hsplit hs hfault]
      exact Or.inr ⟨error, rfl, before, item, rest, hsplit, hclean, hfault⟩

theorem Keeps.foldlM (h : Keeps fault? P step items) {s : σ} (hs : P [] s) :
    (∃ s', items.foldlM step s = .ok s' ∧ P items s' ∧ Clean fault? items) ∨
      ∃ error, items.foldlM step s = .error error ∧ FailsWith fault? items error :=
  h.foldlM_rest items [] rfl hs clean_nil

theorem Keeps.invariant (h : Keeps fault? P step items) {s s' : σ} (hs : P [] s)
    (hok : items.foldlM step s = .ok s') : P items s' := by
  rcases h.foldlM hs with ⟨t, ht, hP, -⟩ | ⟨error, herror, -⟩
  · have he : t = s' := Except.ok.inj (ht.symm.trans hok)
    exact he ▸ hP
  · rw [herror] at hok
    cases hok

end Scan

end Verdict
