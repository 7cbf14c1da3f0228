import Verdict.Expr.Text

/-
  Which texts are expressions, and which expressions are texts. A text is cut at its colons and
  every piece loses its blank ends; what is left are the names of a chain of combinators with one
  operand each (`parse_eq_ok_iff`). A chain is shown as its names with colons between them
  (`toList_display_chain`), so it is read back when no name can be cut or trimmed (`IsName`), and
  nothing but such a chain is ever read (`parse_display_iff`). `parse_exact` has all of it.
-/
namespace Verdict

namespace Expr

/-- A text that stands for itself as a name: it is not empty, has no colon, and its ends are not
blank. -/
structure IsName (s : String) : Prop where
  ne_empty : s ≠ ""
  no_colon : ':' ∉ s.toList
  trim_eq : Text.trim s.toList = s.toList

theorem isName_iff (s : String) :
    IsName s ↔ s ≠ "" ∧ ':' ∉ s.toList ∧ Text.trim s.toList = s.toList :=
  ⟨fun h => ⟨h.ne_empty, h.no_colon, h.trim_eq⟩, fun h => ⟨h.1, h.2.1, h.2.2⟩⟩

instance : DecidablePred IsName := fun s => decidable_of_iff _ (isName_iff s).symm

/-- Combinators of one operand each, around a name. -/
inductive IsChain : Expr → Prop
  | named (name : String) : IsChain (named name)
  | apply (name : String) {e : Expr} (h : IsChain e) : IsChain (apply name [e])

/-- A combinator around an expression. -/
def wrap (name : String) (e : Expr) : Expr := apply name [e]

/-- The names of a text: what its colons divide, without the blanks around it. -/
def spelled (s : String) : List String :=
  (s.toList.splitOn ':').map fun p => String.ofList (Text.trim p)

/-! ## Chains -/

theorem isChain_chain (first : String) (rest : List String) : (chain first rest).IsChain := by
  induction rest generalizing first with
  | nil => exact .named first
  | cons name rest ih => exact .apply first (ih name)

theorem names_chain (first : String) (rest : List String) :
    (chain first rest).names = first :: rest := by
  induction rest generalizing first with
  | nil => exact names_named first
  | cons name rest ih =>
    rw [chain_cons, names_apply, namesAll_cons, ih]
    simp [namesAll]

theorem IsChain.exists_chain {e : Expr} (h : e.IsChain) :
    ∃ first rest, e = chain first rest := by
  induction h with
  | named name => exact ⟨name, [], rfl⟩
  | apply name _ ih =>
    obtain ⟨first, rest, rfl⟩ := ih
    exact ⟨name, first :: rest, rfl⟩

/-- The first names of a chain are wrapped around its last one. -/
theorem chain_eq_foldr {first : String} {rest names : List String} {last : String}
    (h : first :: rest = names ++ [last]) :
    chain first rest = names.foldr wrap (named last) := by
  induction names generalizing first rest with
  | nil =>
    obtain ⟨rfl, rfl⟩ := List.cons.inj h
    rfl
  | cons name names ih =>
    obtain ⟨rfl, hrest⟩ := List.cons.inj h
    cases rest with
    | nil => exact absurd hrest.symm (by simp)
    | cons second rest => rw [chain_cons, ih hrest, List.foldr_cons, wrap]

theorem toList_display_chain (first : String) (rest : List String) :
    (chain first rest).display.toList = [':'].intercalate ((first :: rest).map String.toList) := by
  induction rest generalizing first with
  | nil => simp [chain_nil, display]
  | cons name rest ih =>
    have hd : (chain first (name :: rest)).display = first ++ ":" ++ (chain name rest).display := by
      simp [chain_cons, display]
    rw [hd, String.toList_append, String.toList_append, ih, List.map_cons, List.map_cons,
      List.map_cons, List.intercalate_cons_cons]
    rfl

/-! ## Reading -/

theorem spelled_eq_segments (s : String) : spelled s = (segments s).1 :: (segments s).2 := by
  unfold spelled segments
  rw [Text.splitOn_eq_pieces, List.map_cons]

theorem ofList_trim_ne_empty_iff (p : List Char) :
    String.ofList (Text.trim p) ≠ "" ↔ ∃ c ∈ p, Text.isBlank c = false := by
  have h : String.ofList (Text.trim p) = "" ↔ Text.trim p = [] := by
    rw [← String.toList_inj, String.toList_ofList]
    exact Iff.rfl
  rw [Ne, h, Text.trim_eq_nil_iff]
  simp

theorem forall_mem_spelled_ne_empty_iff (s : String) :
    (∀ name ∈ spelled s, name ≠ "") ↔
      ∀ p ∈ s.toList.splitOn ':', ∃ c ∈ p, Text.isBlank c = false := by
  unfold spelled
  simp only [List.forall_mem_map, ofList_trim_ne_empty_iff]

theorem parse_of_spelled_ne_empty {s : String} (h : ∀ name ∈ spelled s, name ≠ "") :
    parse s = .ok (chain (segments s).1 (segments s).2) := by
  rw [spelled_eq_segments, List.forall_mem_cons] at h
  unfold parse
  exact if_neg fun he => he.elim h.1 fun hm => h.2 "" hm rfl

theorem parse_eq_ok_iff (s : String) (e : Expr) :
    parse s = .ok e ↔
      (∀ name ∈ spelled s, name ≠ "") ∧ e = chain (segments s).1 (segments s).2 := by
  constructor
  · intro h
    have hne : ∀ name ∈ spelled s, name ≠ "" := by
      rw [spelled_eq_segments, List.forall_mem_cons]
      by_cases he : (segments s).1 = "" ∨ "" ∈ (segments s).2
      · unfold parse at h
        rw [if_pos he] at h
        cases h
      · exact ⟨fun h1 => he (Or.inl h1), fun name hm hn => he (Or.inr (hn ▸ hm))⟩
    rw [parse_of_spelled_ne_empty hne] at h
    exact ⟨hne, (Except.ok.inj h).symm⟩
  · rintro ⟨hne, rfl⟩
    exact parse_of_spelled_ne_empty hne

/-- A text is only refused for a name that is empty. -/
theorem error_of_parse {s : String} {error : RegistryError} (h : parse s = .error error) :
    error = .emptyIdentifier s := by
  unfold parse at h
  by_cases he : (segments s).1 = "" ∨ "" ∈ (segments s).2
  · rw [if_pos he] at h
    exact (Except.error.inj h).symm
  · rw [if_neg he] at h
    cases h

/-- A text that is an expression wraps its first names around its last one. -/
theorem parse_eq_ok_iff_foldr (s : String) (e : Expr) :
    parse s = .ok e ↔
      (∀ name ∈ spelled s, name ≠ "") ∧
        ∃ names last, spelled s = names ++ [last] ∧ e = names.foldr wrap (named last) := by
  rw [parse_eq_ok_iff, spelled_eq_segments]
  refine and_congr_right fun _ => ⟨?_, ?_⟩
  · rintro rfl
    have hne : (segments s).1 :: (segments s).2 ≠ [] := List.cons_ne_nil _ _
    have hl := (List.dropLast_concat_getLast hne).symm
    exact ⟨_, _, hl, chain_eq_foldr hl⟩
  · rintro ⟨names, last, hl, rfl⟩
    exact (chain_eq_foldr hl).symm

/-- What is read from a text has the names of the text, and each of them stands for itself. -/
theorem isName_of_mem_spelled {s name : String} (hm : name ∈ spelled s) (hne : name ≠ "") :
    IsName name := by
  obtain ⟨p, hp, rfl⟩ := List.mem_map.1 hm
  rw [Text.splitOn_eq_pieces] at hp
  have hcolon : ':' ∉ p := Text.mark_not_mem_piece ':' s.toList p hp
  refine ⟨hne, ?_, ?_⟩ <;> rw [String.toList_ofList]
  · exact fun hc => hcolon (Text.mem_of_mem_trim hc)
  · exact Text.trim_trim p

theorem names_of_parse {s : String} {e : Expr} (h : parse s = .ok e) :
    e.IsChain ∧ e.names = spelled s ∧ ∀ name ∈ e.names, IsName name := by
  obtain ⟨hne, rfl⟩ := (parse_eq_ok_iff s e).1 h
  rw [names_chain, ← spelled_eq_segments]
  exact ⟨isChain_chain _ _, rfl, fun name hm => isName_of_mem_spelled hm (hne name hm)⟩

/-! ## Reading what is shown -/

theorem spelled_display_chain {first : String} {rest : List String}
    (h : ∀ name ∈ first :: rest, IsName name) :
    spelled (chain first rest).display = first :: rest := by
  have hcolon : ∀ p ∈ (first :: rest).map String.toList, ':' ∉ p := by
    intro p hp
    obtain ⟨name, hname, rfl⟩ := List.mem_map.1 hp
    exact (h name hname).no_colon
  unfold spelled
  rw [toList_display_chain, List.splitOn_intercalate ':' hcolon (by simp), List.map_map]
  have hid : ∀ name ∈ first :: rest,
      ((fun p => String.ofList (Text.trim p)) ∘ String.toList) name = id name := by
    intro name hname
    rw [Function.comp_apply, (h name hname).trim_eq, String.ofList_toList]
    rfl
  rw [List.map_congr_left hid, List.map_id]

theorem parse_display_of_isName {e : Expr} (hc : e.IsChain) (h : ∀ name ∈ e.names, IsName name) :
    parse e.display = .ok e := by
  obtain ⟨first, rest, rfl⟩ := hc.exists_chain
  rw [names_chain] at h
  have hs := spelled_display_chain h
  rw [parse_eq_ok_iff, hs]
  refine ⟨fun name hm => (h name hm).ne_empty, ?_⟩
  rw [spelled_eq_segments] at hs
  obtain ⟨h1, h2⟩ := List.cons.inj hs
  rw [h1, h2]

/-- An expression is read back from what is shown of it when it is a chain of names that stand
for themselves. -/
theorem parse_display_iff (e : Expr) :
    parse e.display = .ok e ↔ e.IsChain ∧ ∀ name ∈ e.names, IsName name := by
  constructor
  · intro h
    exact ⟨(names_of_parse h).1, (names_of_parse h).2.2⟩
  · rintro ⟨hc, h⟩
    exact parse_display_of_isName hc h

theorem toList_display_of_parse {s : String} {e : Expr} (h : parse s = .ok e) :
    e.display.toList = [':'].intercalate ((s.toList.splitOn ':').map Text.trim) := by
  obtain ⟨-, rfl⟩ := (parse_eq_ok_iff s e).1 h
  rw [toList_display_chain, ← spelled_eq_segments, spelled, List.map_map]
  have hid : ∀ p ∈ s.toList.splitOn ':',
      (String.toList ∘ fun p => String.ofList (Text.trim p)) p = Text.trim p :=
    fun p _ => String.toList_ofList
  rw [List.map_congr_left hid]

/-- Expressions as text, for every text and every expression. A text is an expression when each
piece between its colons has a character that is not blank, and then it applies its trimmed
pieces, the first outermost, to the last as a name; else it is refused as a whole. What is shown
of an expression is read back as that expression when it is a chain of names that stand for
themselves. In particular this holds of what was read, and shown again it is the text without the
blanks around its pieces. -/
theorem parse_exact :
    (∀ s, (∃ e, parse s = .ok e) ↔
      ∀ p ∈ s.toList.splitOn ':', ∃ c ∈ p, Text.isBlank c = false) ∧
    (∀ s e, parse s = .ok e →
      ∃ names last, spelled s = names ++ [last] ∧ e = names.foldr wrap (named last)) ∧
    (∀ s error, parse s = .error error → error = .emptyIdentifier s) ∧
    (∀ e, parse e.display = .ok e ↔ e.IsChain ∧ ∀ name ∈ e.names, IsName name) ∧
    (∀ s e, parse s = .ok e → parse e.display = .ok e ∧
      e.display.toList = [':'].intercalate ((s.toList.splitOn ':').map Text.trim)) := by
  refine ⟨?_, ?_, fun s error h => error_of_parse h, parse_display_iff, ?_⟩
  · intro s
    rw [← forall_mem_spelled_ne_empty_iff]
    constructor
    · rintro ⟨e, h⟩
      exact ((parse_eq_ok_iff s e).1 h).1
    · intro h
      exact ⟨_, parse_of_spelled_ne_empty h⟩
  · intro s e h
    exact ((parse_eq_ok_iff_foldr s e).1 h).2
  · intro s e h
    obtain ⟨hc, -, hn⟩ := names_of_parse h
    exact ⟨parse_display_of_isName hc hn, toList_display_of_parse h⟩

/-- Blanks around the pieces are dropped, and what is then shown is read back. -/
theorem parse_display_blank_pieces :
    parse " not : lt" = .ok (not (named "lt")) ∧
    parse (not (named "lt")).display = .ok (not (named "lt")) ∧
    (not (named "lt")).display.toList =
      [':'].intercalate ((" not : lt".toList.splitOn ':').map Text.trim) :=
  ⟨rfl, parse_exact.2.2.2.2 _ _ rfl⟩

/-- Operands in parentheses are no text of an expression that has them. -/
example : parse (and (named "gt") (named "lt")).display = .ok (named "and(gt, lt)") := rfl

end Expr

end Verdict
