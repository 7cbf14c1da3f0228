/-
  Maps from names to values that keep their order. A name that is new goes to the end, a name
  that is there keeps its place and takes the new value, and an erased name leaves the others
  in order. Main statements: `keys_insert` and `get?_insert` say what an insertion does to the
  names and to every look-up, `keys_erase` and `get?_erase` what an erasure does,
  `mem_entries_iff` that the entries are the look-ups that succeed, and `ofList_entries` that they
  determine the map with its order.
-/
namespace Verdict

universe u

/-- Names with values, no name twice, in the order in which the names were first inserted. -/
structure OrderedMap (α : Type u) where
  entries : List (String × α) := []
  nodup : (entries.map Prod.fst).Nodup := by simp
deriving DecidableEq

namespace OrderedMap

variable {α : Type u}

instance : Inhabited (OrderedMap α) := ⟨{}⟩

/-- The map without entries. -/
def empty : OrderedMap α := {}

def keys (m : OrderedMap α) : List String := m.entries.map Prod.fst

def size (m : OrderedMap α) : Nat := m.entries.length

def isEmpty (m : OrderedMap α) : Bool := m.entries.isEmpty

/-! ## Lists of entries -/

/-- Give `k` the value `a`: in its place if it has one, else at the end. -/
def put (k : String) (a : α) : List (String × α) → List (String × α)
  | [] => [(k, a)]
  | e :: es => if e.1 = k then (k, a) :: es else e :: put k a es

theorem put_nil (k : String) (a : α) : put k a [] = [(k, a)] := rfl

theorem put_cons (k : String) (a : α) (e : String × α) (es : List (String × α)) :
    put k a (e :: es) = if e.1 = k then (k, a) :: es else e :: put k a es := rfl

/-- The value that `k` has in a list of entries. -/
def find (k : String) : List (String × α) → Option α
  | [] => none
  | e :: es => if e.1 = k then some e.2 else find k es

theorem find_nil (k : String) : find k ([] : List (String × α)) = none := rfl

theorem find_cons (k : String) (e : String × α) (es : List (String × α)) :
    find k (e :: es) = if e.1 = k then some e.2 else find k es := rfl

theorem map_fst_put (k : String) (a : α) (es : List (String × α)) :
    (put k a es).map Prod.fst =
      if k ∈ es.map Prod.fst then es.map Prod.fst else es.map Prod.fst ++ [k] := by
  induction es with
  | nil => simp [put_nil]
  | cons e es ih =>
    rw [put_cons]
    by_cases h : e.1 = k
    · simp [h]
    · have h' : ¬ k = e.1 := fun e' => h e'.symm
      by_cases hk : k ∈ es.map Prod.fst
      · rw [if_pos hk] at ih
        rw [if_neg h, if_pos (by simp [List.map_cons, hk]), List.map_cons, ih, List.map_cons]
      · rw [if_neg hk] at ih
        rw [if_neg h, if_neg (by rw [List.map_cons, List.mem_cons]; exact not_or.2 ⟨h', hk⟩),
          List.map_cons, ih, List.map_cons, List.cons_append]

theorem nodup_map_fst_put (k : String) (a : α) (es : List (String × α))
    (h : (es.map Prod.fst).Nodup) : ((put k a es).map Prod.fst).Nodup := by
  rw [map_fst_put]
  by_cases hk : k ∈ es.map Prod.fst
  · rw [if_pos hk]; exact h
  · rw [if_neg hk, List.nodup_append]
    refine ⟨h, by simp, ?_⟩
    intro x hx y hy
    rw [List.mem_singleton] at hy
    rintro rfl
    exact hk (hy ▸ hx)

theorem find_put (k k' : String) (a : α) (es : List (String × α)) :
    find k' (put k a es) = if k = k' then some a else find k' es := by
  induction es with
  | nil => rw [put_nil, find_cons, find_nil]
  | cons e es ih =>
    rw [put_cons]
    by_cases h : e.1 = k
    · subst h
      by_cases h' : e.1 = k' <;> simp [find_cons, h']
    · rw [if_neg h, find_cons, ih, find_cons]
      by_cases he : e.1 = k'
      · subst he
        have hne : ¬ k = e.1 := fun h' => h h'.symm
        simp [hne]
      · simp [he]

theorem find_isSome_iff (k : String) (es : List (String × α)) :
    (find k es).isSome = true ↔ k ∈ es.map Prod.fst := by
  induction es with
  | nil => simp [find_nil]
  | cons e es ih =>
    rw [find_cons, List.map_cons, List.mem_cons, ← ih]
    by_cases h : e.1 = k
    · simp [h]
    · have h' : ¬ k = e.1 := fun e' => h e'.symm
      simp [h, h']

theorem find_eq_some_iff (k : String) (a : α) (es : List (String × α))
    (h : (es.map Prod.fst).Nodup) : find k es = some a ↔ (k, a) ∈ es := by
  induction es with
  | nil => simp [find_nil]
  | cons e es ih =>
    rw [List.map_cons, List.nodup_cons] at h
    rw [find_cons, List.mem_cons]
    by_cases he : e.1 = k
    · subst he
      rw [if_pos rfl]
      constructor
      · intro ha
        left
        rw [← Option.some.inj ha]
      · rintro (ha | ha)
        · rw [← ha]
        · exact absurd (List.mem_map_of_mem ha) h.1
    · rw [if_neg he, ih h.2]
      constructor
      · exact Or.inr
      · rintro (ha | ha)
        · exact absurd (congrArg Prod.fst ha).symm he
        · exact ha

theorem put_of_not_mem (k : String) (a : α) (es : List (String × α))
    (h : k ∉ es.map Prod.fst) : put k a es = es ++ [(k, a)] := by
  induction es with
  | nil => rfl
  | cons e es ih =>
    rw [List.map_cons, List.mem_cons, not_or] at h
    rw [put_cons, if_neg (Ne.symm h.1), ih h.2, List.cons_append]

theorem mem_put {k : String} {a : α} {e : String × α} {es : List (String × α)}
    (h : e ∈ put k a es) : e = (k, a) ∨ e ∈ es := by
  induction es with
  | nil => exact Or.inl (List.mem_singleton.1 h)
  | cons e' es ih =>
    rw [put_cons] at h
    by_cases he : e'.1 = k
    · rw [if_pos he] at h
      exact (List.mem_cons.1 h).imp id (List.mem_cons_of_mem e')
    · rw [if_neg he] at h
      rcases List.mem_cons.1 h with h | h
      · exact Or.inr (h ▸ List.mem_cons_self)
      · exact (ih h).imp id (List.mem_cons_of_mem e')

theorem find_filter_ne (k k' : String) (es : List (String × α)) :
    find k' (es.filter fun e => e.1 != k) = if k = k' then none else find k' es := by
  induction es with
  | nil => simp [find_nil]
  | cons e es ih =>
    by_cases he : e.1 = k
    · rw [List.filter_cons_of_neg (by simp [he]), ih, find_cons]
      by_cases hk : k = k'
      · simp [hk]
      · have : ¬ e.1 = k' := fun h => hk (he ▸ h)
        simp [hk, this]
    · rw [List.filter_cons_of_pos (by simp [he]), find_cons, ih, find_cons]
      by_cases hk : e.1 = k'
      · have hne : ¬ k = k' := fun h => he (hk.trans h.symm)
        simp [hk, hne]
      · simp [hk]

/-! ## Looking up -/

/-- The value of a name. -/
def get? (m : OrderedMap α) (k : String) : Option α := find k m.entries

def contains (m : OrderedMap α) (k : String) : Bool := (m.get? k).isSome

/-! ## Changing a map -/

/-- Give `k` the value `a`, in its place if it has one. -/
def insert (m : OrderedMap α) (k : String) (a : α) : OrderedMap α :=
  ⟨put k a m.entries, nodup_map_fst_put k a m.entries m.nodup⟩

/-- Keep the entries that satisfy `p`. -/
def filter (m : OrderedMap α) (p : String × α → Bool) : OrderedMap α :=
  ⟨m.entries.filter p, m.nodup.sublist ((List.filter_sublist).map Prod.fst)⟩

/-- Remove `k`; the other entries keep their order. -/
def erase (m : OrderedMap α) (k : String) : OrderedMap α := m.filter fun e => e.1 != k

/-- Insert the pairs in order, so the last value of a name counts, at the place of the first. -/
def ofList (es : List (String × α)) : OrderedMap α :=
  es.foldl (fun m e => m.insert e.1 e.2) empty

/-- The same names with their values changed. -/
def map {β : Type u} (f : α → β) (m : OrderedMap α) : OrderedMap β :=
  ⟨m.entries.map fun e => (e.1, f e.2), by
    have h : (m.entries.map fun e => (e.1, f e.2)).map Prod.fst = m.entries.map Prod.fst := by
      simp
    rw [h]; exact m.nodup⟩

@[ext] theorem ext {m n : OrderedMap α} (h : m.entries = n.entries) : m = n := by
  cases m; cases n; cases h; rfl

theorem contains_iff_mem_keys (m : OrderedMap α) (k : String) :
    m.contains k = true ↔ k ∈ m.keys := find_isSome_iff k m.entries

theorem mem_entries_iff (m : OrderedMap α) (k : String) (a : α) :
    (k, a) ∈ m.entries ↔ m.get? k = some a := (find_eq_some_iff k a m.entries m.nodup).symm

/-- A key has one value. -/
theorem eq_of_mem_entries (m : OrderedMap α) {k : String} {a b : α} (ha : (k, a) ∈ m.entries)
    (hb : (k, b) ∈ m.entries) : a = b := by
  have hget := (m.mem_entries_iff k a).1 ha
  rw [(m.mem_entries_iff k b).1 hb] at hget
  exact (Option.some.inj hget).symm

/-- The order of the entries does not count for a look-up. -/
theorem get?_eq_of_perm {m n : OrderedMap α} (h : m.entries.Perm n.entries) (k : String) :
    m.get? k = n.get? k := by
  apply Option.ext
  intro a
  rw [← mem_entries_iff, ← mem_entries_iff]
  exact h.mem_iff

theorem mem_keys_iff (m : OrderedMap α) (k : String) :
    k ∈ m.keys ↔ ∃ a, m.get? k = some a := by
  rw [← contains_iff_mem_keys, contains, Option.isSome_iff_exists]

theorem keys_insert (m : OrderedMap α) (k : String) (a : α) :
    (m.insert k a).keys = if k ∈ m.keys then m.keys else m.keys ++ [k] :=
  map_fst_put k a m.entries

theorem mem_keys_insert (m : OrderedMap α) (k k' : String) (a : α) :
    k' ∈ (m.insert k a).keys ↔ k' = k ∨ k' ∈ m.keys := by
  rw [keys_insert]
  by_cases h : k ∈ m.keys
  · rw [if_pos h]
    exact ⟨Or.inr, fun hk => hk.elim (fun e => e ▸ h) id⟩
  · rw [if_neg h, List.mem_append, List.mem_singleton]
    exact Or.comm

theorem get?_insert (m : OrderedMap α) (k k' : String) (a : α) :
    (m.insert k a).get? k' = if k = k' then some a else m.get? k' :=
  find_put k k' a m.entries

/-- What holds of every entry, and of the new one, holds after an insertion. -/
theorem forall_get?_insert {P : String → α → Prop} {m : OrderedMap α} {k : String} {a : α}
    (h : ∀ k' b, m.get? k' = some b → P k' b) (ha : P k a) :
    ∀ k' b, (m.insert k a).get? k' = some b → P k' b := by
  intro k' b hb
  rw [get?_insert] at hb
  by_cases hk : k = k'
  · rw [if_pos hk] at hb
    rw [← hk, ← Option.some.inj hb]
    exact ha
  · rw [if_neg hk] at hb
    exact h k' b hb

theorem entries_insert_of_not_mem (m : OrderedMap α) (k : String) (a : α) (h : k ∉ m.keys) :
    (m.insert k a).entries = m.entries ++ [(k, a)] := put_of_not_mem k a m.entries h

theorem get?_filter (m : OrderedMap α) (p : String × α → Bool) (k : String) :
    (m.filter p).get? k = (m.get? k).filter fun a => p (k, a) := by
  apply Option.ext
  intro a
  rw [← mem_entries_iff, Option.filter_eq_some_iff, ← mem_entries_iff]
  exact List.mem_filter

theorem entries_filter (m : OrderedMap α) (p : String × α → Bool) :
    (m.filter p).entries = m.entries.filter p := rfl

theorem filter_filter (m : OrderedMap α) (p q : String × α → Bool) :
    (m.filter p).filter q = m.filter fun e => q e && p e := by
  apply ext
  rw [entries_filter, entries_filter, entries_filter, List.filter_filter]

theorem filter_eq_self {m : OrderedMap α} {p : String × α → Bool}
    (h : ∀ e ∈ m.entries, p e = true) : m.filter p = m := by
  apply ext
  rw [entries_filter, List.filter_eq_self.2 h]

/-- Where only names are asked for, the names that are left are those that satisfy it. -/
theorem keys_filter (m : OrderedMap α) (p : String → Bool) :
    (m.filter fun e => p e.1).keys = m.keys.filter p := by
  unfold keys
  rw [entries_filter, List.filter_map]
  rfl

theorem keys_erase (m : OrderedMap α) (k : String) :
    (m.erase k).keys = m.keys.filter (· != k) := m.keys_filter (· != k)

theorem get?_erase (m : OrderedMap α) (k k' : String) :
    (m.erase k).get? k' = if k = k' then none else m.get? k' :=
  find_filter_ne k k' m.entries

/-- Erasing a name that was not there before its insertion undoes the insertion. -/
theorem erase_insert (m : OrderedMap α) {k : String} (a : α) (h : k ∉ m.keys) :
    (m.insert k a).erase k = m := by
  have hkeep : m.entries.filter (fun e => e.1 != k) = m.entries :=
    List.filter_eq_self.2 fun e he => bne_iff_ne.2 fun hk => h (hk ▸ List.mem_map_of_mem he)
  apply ext
  unfold erase
  rw [entries_filter, entries_insert_of_not_mem m k a h, List.filter_append, hkeep]
  simp

theorem find_map {β : Type u} (f : α → β) (k : String) (es : List (String × α)) :
    find k (es.map fun e => (e.1, f e.2)) = (find k es).map f := by
  induction es with
  | nil => rfl
  | cons e es ih =>
    rw [List.map_cons, find_cons, find_cons, ih]
    by_cases h : e.1 = k <;> simp [h]

theorem get?_map {β : Type u} (f : α → β) (m : OrderedMap α) (k : String) :
    (m.map f).get? k = (m.get? k).map f := find_map f k m.entries

theorem keys_map {β : Type u} (f : α → β) (m : OrderedMap α) : (m.map f).keys = m.keys := by
  unfold keys map
  rw [List.map_map]
  rfl

theorem map_eq_self {f : α → α} {m : OrderedMap α} (h : ∀ e ∈ m.entries, f e.2 = e.2) :
    m.map f = m := by
  have hentries : (m.entries.map fun e => (e.1, f e.2)) = m.entries.map id :=
    List.map_congr_left fun e he => congrArg (Prod.mk e.1) (h e he)
  exact ext (hentries.trans (List.map_id _))

theorem mem_entries_foldl {m : OrderedMap α} {e : String × α} {es : List (String × α)}
    (h : e ∈ (es.foldl (fun m e => m.insert e.1 e.2) m).entries) : e ∈ m.entries ∨ e ∈ es := by
  induction es generalizing m with
  | nil => exact Or.inl h
  | cons e' es ih =>
    rcases ih h with h | h
    · rcases mem_put h with rfl | h
      · exact Or.inr List.mem_cons_self
      · exact Or.inl h
    · exact Or.inr (List.mem_cons_of_mem e' h)

/-- Entries with new names go to the end in their order. -/
theorem entries_foldl_insert {m : OrderedMap α} {es : List (String × α)}
    (h : (m.keys ++ es.map Prod.fst).Nodup) :
    (es.foldl (fun m e => m.insert e.1 e.2) m).entries = m.entries ++ es := by
  induction es generalizing m with
  | nil => exact (List.append_nil m.entries).symm
  | cons e es ih =>
    have hnew : e.1 ∉ m.keys := fun hmem =>
      (List.nodup_append.1 h).2.2 e.1 hmem e.1 List.mem_cons_self rfl
    have hkeys : (m.insert e.1 e.2).keys = m.keys ++ [e.1] := by rw [keys_insert, if_neg hnew]
    rw [List.map_cons, ← List.singleton_append, ← List.append_assoc, ← hkeys] at h
    rw [List.foldl_cons, ih h, entries_insert_of_not_mem m e.1 e.2 hnew, List.append_assoc]
    rfl

/-- A map is made of its own entries. -/
theorem ofList_entries (m : OrderedMap α) : ofList m.entries = m :=
  ext (entries_foldl_insert (m := empty) m.nodup)

/-- A map that is made of pairs has no others. -/
theorem mem_of_mem_ofList {e : String × α} {es : List (String × α)}
    (h : e ∈ (ofList es).entries) : e ∈ es := (mem_entries_foldl h).resolve_left List.not_mem_nil

end OrderedMap

end Verdict
