import Verdict.Text.Ranges

/-
  Blank characters, the Unicode property White_Space, and text without blanks at its ends.
  `trimmed_trim` says that trimming leaves no blank end, `trim_of_trimmed` that it leaves a text
  without blank ends alone, `trim_blank_append_blank` that blanks around a text do not count, and
  `trim_eq_nil_iff` when nothing is left.
-/
namespace Verdict.Text

/-- The code points with the property. -/
def blankRanges : Ranges :=
  [(0x9, 0xd), (0x20, 0x20), (0x85, 0x85), (0xa0, 0xa0), (0x1680, 0x1680), (0x2000, 0x200a),
   (0x2028, 0x2029), (0x202f, 0x202f), (0x205f, 0x205f), (0x3000, 0x3000)]

def isBlank (c : Char) : Bool := blankRanges.contains c

/-- Drop the blanks in front. -/
def trimStart (cs : List Char) : List Char := cs.dropWhile isBlank

/-- Drop the blanks behind. -/
def trimEnd (cs : List Char) : List Char := (trimStart cs.reverse).reverse

/-- Drop the blanks at both ends. -/
def trim (cs : List Char) : List Char := trimEnd (trimStart cs)

/-- Neither end of the text is blank. -/
def Trimmed (cs : List Char) : Prop :=
  cs.head?.any isBlank = false ∧ cs.getLast?.any isBlank = false

instance (cs : List Char) : Decidable (Trimmed cs) :=
  inferInstanceAs (Decidable (_ = false ∧ _ = false))

theorem trimStart_of_head {cs : List Char} (h : cs.head?.any isBlank = false) :
    trimStart cs = cs := by
  cases cs with
  | nil => rfl
  | cons c cs => exact List.dropWhile_cons_of_neg (by simpa using h)

theorem trim_of_trimmed {cs : List Char} (h : Trimmed cs) : trim cs = cs := by
  unfold trim trimEnd
  rw [trimStart_of_head h.1, trimStart_of_head, List.reverse_reverse]
  rw [List.head?_reverse]
  exact h.2

theorem trimStart_eq_nil_iff (cs : List Char) :
    trimStart cs = [] ↔ ∀ c ∈ cs, isBlank c = true := by
  induction cs with
  | nil => simp [trimStart]
  | cons c cs ih =>
    unfold trimStart at ih ⊢
    rw [List.dropWhile_cons, List.forall_mem_cons]
    by_cases h : isBlank c = true
    · simp [h, ih]
    · simp [h]

theorem head?_trimStart (cs : List Char) : (trimStart cs).head?.any isBlank = false := by
  have h := List.head?_dropWhile_not isBlank cs
  unfold trimStart
  cases hd : (cs.dropWhile isBlank).head? with
  | none => rfl
  | some c =>
    rw [hd] at h
    simpa using h

theorem trimStart_suffix (cs : List Char) : trimStart cs <:+ cs := List.dropWhile_suffix isBlank

theorem trimEnd_prefix_self (cs : List Char) : trimEnd cs <+: cs := by
  unfold trimEnd
  rw [← List.reverse_suffix, List.reverse_reverse]
  exact trimStart_suffix cs.reverse

theorem mem_of_mem_trim {c : Char} {cs : List Char} (h : c ∈ trim cs) : c ∈ cs :=
  (trimStart_suffix cs).subset ((trimEnd_prefix_self (trimStart cs)).subset h)

/-- Nothing is left of a text when all of it is blank. -/
theorem trim_eq_nil_iff (cs : List Char) : trim cs = [] ↔ ∀ c ∈ cs, isBlank c = true := by
  unfold trim trimEnd
  rw [List.reverse_eq_nil_iff, trimStart_eq_nil_iff, ← trimStart_eq_nil_iff cs]
  constructor
  · intro h
    -- the first character that is left would be blank, and it is not
    cases ht : trimStart cs with
    | nil => rfl
    | cons c rest =>
      have hc := head?_trimStart cs
      have hb := h c (List.mem_reverse.2 (ht ▸ List.mem_cons_self))
      rw [ht] at hc
      simp [hb] at hc
  · intro h c hc
    rw [h] at hc
    cases hc

theorem trimmed_trim (cs : List Char) : Trimmed (trim cs) := by
  constructor
  · cases ht : trim cs with
    | nil => rfl
    | cons c rest =>
      have hp : c :: rest <+: trimStart cs := ht ▸ trimEnd_prefix_self (trimStart cs)
      obtain ⟨tail, htail⟩ := hp
      have h := head?_trimStart cs
      rw [← htail] at h
      exact h
  · unfold trim trimEnd
    rw [List.getLast?_reverse]
    exact head?_trimStart _

theorem trim_trim (cs : List Char) : trim (trim cs) = trim cs :=
  trim_of_trimmed (trimmed_trim cs)

theorem trimStart_blank_append {before : List Char} (h : ∀ c ∈ before, isBlank c = true)
    (cs : List Char) : trimStart (before ++ cs) = trimStart cs :=
  List.dropWhile_append_of_pos h

theorem trimEnd_append_blank (cs : List Char) {after : List Char}
    (h : ∀ c ∈ after, isBlank c = true) : trimEnd (cs ++ after) = trimEnd cs := by
  unfold trimEnd
  rw [List.reverse_append, trimStart_blank_append fun c hc => h c (List.mem_reverse.1 hc)]

theorem trim_append_blank (cs : List Char) {after : List Char}
    (h : ∀ c ∈ after, isBlank c = true) : trim (cs ++ after) = trim cs := by
  by_cases hcs : ∀ c ∈ cs, isBlank c = true
  · rw [(trim_eq_nil_iff cs).2 hcs, trim_eq_nil_iff]
    exact fun c hc => (List.mem_append.1 hc).elim (hcs c) (h c)
  · -- the first character that is not blank stands before the blanks behind
    have hstart : trimStart (cs ++ after) = trimStart cs ++ after := by
      have hne := mt (trimStart_eq_nil_iff cs).1 hcs
      unfold trimStart at hne ⊢
      rw [List.dropWhile_append, if_neg (mt List.isEmpty_iff.1 hne)]
    unfold trim
    rw [hstart, trimEnd_append_blank _ h]

/-- Blanks around a text are dropped. -/
theorem trim_blank_append_blank {before after : List Char} (cs : List Char)
    (hb : ∀ c ∈ before, isBlank c = true) (ha : ∀ c ∈ after, isBlank c = true) :
    trim (before ++ cs ++ after) = trim cs := by
  rw [trim_append_blank _ ha]
  unfold trim
  rw [trimStart_blank_append hb]

end Verdict.Text
