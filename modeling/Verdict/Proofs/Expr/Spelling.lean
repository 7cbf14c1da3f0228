import Verdict.Proofs.Json.Record

/-
  The ways to spell a chain of combinators. In a text its names stand between colons, with any
  blanks around them (`Spells`). In a document each name but the last may be the only member of an
  object, around the rest of the chain or around an array of the rest alone, and what is left at
  the inside is a text (`SpellsDocument`). A name with a colon in front of a text wraps what the
  text stands for (`parse_prefixed`), and so does a member (`ofJson_member`); so every spelling is
  read as the same expression. `spellings_exact` has all of it, and what becomes of records.
-/
namespace Verdict

namespace Expr

/-- A name with blanks around it. -/
def Padded (name : String) (p : List Char) : Prop :=
  ∃ before after, (∀ c ∈ before, Text.isBlank c = true) ∧ (∀ c ∈ after, Text.isBlank c = true) ∧
    p = before ++ name.toList ++ after

/-- The text has these names, the last one apart, with colons between them and blanks around
them. -/
inductive Spells (last : String) : List String → List Char → Prop
  | last {p : List Char} (hp : Padded last p) : Spells last [] p
  | more {name : String} {p : List Char} {names : List String} {cs : List Char}
      (hp : Padded name p) (h : Spells last names cs) : Spells last (name :: names) (p ++ ':' :: cs)

/-- The document has these names, the last one apart: the first ones are members of objects around
a text with the others. -/
inductive SpellsDocument (last : String) : List String → Json → Prop
  | text {names : List String} {s : String} (h : Spells last names s.toList) :
      SpellsDocument last names (.text s)
  | single {name : String} {names : List String} {j : Json} (h : SpellsDocument last names j) :
      SpellsDocument last (name :: names) (.object [(name, j)])
  | listed {name : String} {names : List String} {j : Json} (h : SpellsDocument last names j) :
      SpellsDocument last (name :: names) (.object [(name, .array [j])])

/-! ## Texts -/

theorem padded_self (name : String) : Padded name name.toList :=
  ⟨[], [], by simp, by simp, by simp⟩

theorem padded_of_all {name : String} {p : List Char} (before after : List Char)
    (hb : before.all Text.isBlank = true) (ha : after.all Text.isBlank = true)
    (hp : p = before ++ name.toList ++ after) : Padded name p :=
  ⟨before, after, List.all_eq_true.1 hb, List.all_eq_true.1 ha, hp⟩

theorem Padded.trim_eq {name : String} {p : List Char} (hp : Padded name p) (h : IsName name) :
    Text.trim p = name.toList := by
  obtain ⟨before, after, hb, ha, rfl⟩ := hp
  rw [Text.trim_blank_append_blank name.toList hb ha, h.trim_eq]

/-- A colon is not blank. -/
theorem Padded.no_colon {name : String} {p : List Char} (hp : Padded name p) (h : IsName name) :
    ':' ∉ p := by
  obtain ⟨before, after, hb, ha, rfl⟩ := hp
  have hcolon : Text.isBlank ':' ≠ true := by decide
  rw [List.mem_append, List.mem_append]
  rintro ((hmem | hmem) | hmem)
  · exact hcolon (hb ':' hmem)
  · exact h.no_colon hmem
  · exact hcolon (ha ':' hmem)

theorem spelled_padded {name s : String} (hp : Padded name s.toList) (h : IsName name) :
    spelled s = [name] := by
  unfold spelled
  rw [List.splitOn_eq_singleton (hp.no_colon h), List.map_cons, List.map_nil, hp.trim_eq h,
    String.ofList_toList]

theorem spelled_prefixed {name s t : String} {p : List Char} (hp : Padded name p)
    (h : IsName name) (hs : s.toList = p ++ ':' :: t.toList) : spelled s = name :: spelled t := by
  unfold spelled
  rw [hs, List.splitOn_append_cons_self_of_not_mem (hp.no_colon h), List.map_cons, hp.trim_eq h,
    String.ofList_toList]

theorem parse_padded {name s : String} (hp : Padded name s.toList) (h : IsName name) :
    parse s = .ok (named name) := by
  rw [parse_eq_ok_iff_foldr, spelled_padded hp h]
  exact ⟨List.forall_mem_singleton.2 h.ne_empty, [], name, rfl, rfl⟩

/-- A name in front of a text wraps the expression of the text. -/
theorem parse_prefixed {name s t : String} {p : List Char} {e : Expr} (hp : Padded name p)
    (h : IsName name) (hs : s.toList = p ++ ':' :: t.toList) (ht : parse t = .ok e) :
    parse s = .ok (wrap name e) := by
  obtain ⟨hne, names, last, hnames, rfl⟩ := (parse_eq_ok_iff_foldr t e).1 ht
  rw [parse_eq_ok_iff_foldr, spelled_prefixed hp h hs]
  exact ⟨List.forall_mem_cons.2 ⟨h.ne_empty, hne⟩, name :: names, last, by rw [hnames]; rfl, rfl⟩

theorem Spells.parse_eq {last : String} {names : List String} {cs : List Char}
    (hs : Spells last names cs) (hl : IsName last) (h : ∀ name ∈ names, IsName name) :
    ∀ s : String, s.toList = cs → parse s = .ok (names.foldr wrap (named last)) := by
  induction hs with
  | last hp =>
    rintro s rfl
    exact parse_padded hp hl
  | @more name p names cs hp _ ih =>
    intro s hcs
    obtain ⟨hname, hnames⟩ := List.forall_mem_cons.1 h
    rw [← String.toList_ofList (l := cs)] at hcs
    exact parse_prefixed hp hname hcs (ih hnames (String.ofList cs) String.toList_ofList)

theorem ofText_of_parse {s : String} {e : Expr} (h : parse s = .ok e) : ofText s = e := by
  unfold ofText
  rw [h]

/-! ## Documents -/

/-- A member wraps the expression of its document, which stands alone or in an array. -/
theorem ofJson_member {name : String} {j : Json} {e : Expr} (h : ofJson j = .ok e) :
    ofJson (.object [(name, j)]) = .ok (wrap name e) ∧
      ofJson (.object [(name, .array [j])]) = .ok (wrap name e) := by
  have hlisted : operandsOf? (.array [j]) = some [e] := by
    show ofItems [j] = some [e]
    rw [ofItems_cons, h]
    rfl
  rw [← toOption_eq_some_iff, ← toOption_eq_some_iff, toOption_ofJson_member,
    toOption_ofJson_member, operandsOf?_of_ofJson h, hlisted]
  exact ⟨rfl, rfl⟩

theorem SpellsDocument.ofJson_eq {last : String} {names : List String} {j : Json}
    (hj : SpellsDocument last names j) (hl : IsName last) (h : ∀ name ∈ names, IsName name) :
    ofJson j = .ok (names.foldr wrap (named last)) := by
  induction hj with
  | text hs =>
    rw [ofJson_text, ofDocumentText, hs.parse_eq hl h _ rfl]
  | single _ ih => exact (ofJson_member (ih (List.forall_mem_cons.1 h).2)).1
  | listed _ ih => exact (ofJson_member (ih (List.forall_mem_cons.1 h).2)).2

/-! ## All spellings -/

/-- For every list of names that stand for themselves, every text and every document that spells
it is read as the same expression, which applies the names to each other in their order; a text
also by the reader that refuses nothing, and a document also in a text that holds it. So the same
query and the same constraint are read from records that spell their operators in any way, and
they are those that are made from a text. -/
theorem spellings_exact {names : List String} {last : String}
    (h : ∀ name ∈ names ++ [last], IsName name) :
    (∀ s, Spells last names s.toList →
      parse s = .ok (names.foldr wrap (named last)) ∧
      ofText s = names.foldr wrap (named last) ∧
      ∀ r : Registry, r.resolveText s = r.resolve (names.foldr wrap (named last))) ∧
    (∀ j, SpellsDocument last names j →
      ofJson j = .ok (names.foldr wrap (named last)) ∧
      (j.depth ≤ Json.maxDepth →
        Json.decode read (Json.compact j) = .ok (names.foldr wrap (named last)))) ∧
    (∀ s j, Spells last names s.toList → SpellsDocument last names j → ∀ key w,
      Query.read (Json.object
        [("attribute", .text key), ("operator", j), ("value", w)]).source =
          .ok (Query.ofText key s (Value.ofJson w)) ∧
      Constraint.read (Json.object
        [("type_key", .text key), ("operator", j), ("bound", w)]).source =
          .ok ⟨key, ofText s, Value.ofJson w⟩) := by
  obtain ⟨hnames, hlast⟩ := List.forall_mem_append.1 h
  have hl : IsName last := hlast last List.mem_cons_self
  have htext : ∀ s : String, Spells last names s.toList →
      parse s = .ok (names.foldr wrap (named last)) :=
    fun s hs => hs.parse_eq hl hnames s rfl
  have hread : ∀ j, SpellsDocument last names j →
      read j.source = .ok (names.foldr wrap (named last)) :=
    fun j hj => (read_source_eq_ok_iff j _).2 (hj.ofJson_eq hl hnames)
  refine ⟨fun s hs => ⟨htext s hs, ofText_of_parse (htext s hs), fun r => ?_⟩,
    fun j hj => ⟨hj.ofJson_eq hl hnames, fun hdepth => ?_⟩, fun s j hs hj key w => ?_⟩
  · unfold Registry.resolveText
    rw [htext s hs]
  · rw [Json.decode_compact read hdepth, hread j hj]
  · rw [Query.read_object, Constraint.read_object, hread j hj, Query.ofText,
      ofText_of_parse (htext s hs)]
    exact ⟨rfl, rfl⟩

/-- A negation of a negation, with blanks in a text and with an array around a text. -/
theorem spellings_of_not_not :
    (∀ name ∈ ["not", "not"] ++ ["lt"], IsName name) ∧
    Spells "lt" ["not", "not"] " not:not : lt".toList ∧
    SpellsDocument "lt" ["not", "not"] (.object [("not", .array [.text "not:\tlt"])]) ∧
    parse " not:not : lt" = .ok (not (not (named "lt"))) ∧
    ofJson (.object [("not", .array [.text "not:\tlt"])]) = .ok (not (not (named "lt"))) ∧
    Query.read (Json.object [("attribute", .text "load"),
      ("operator", .object [("not", .array [.text "not:\tlt"])]), ("value", .null)]).source =
        .ok (Query.ofText "load" " not:not : lt" .absent) := by
  have hnames : ∀ name ∈ ["not", "not"] ++ ["lt"], IsName name := by decide
  have htext : Spells "lt" ["not", "not"] " not:not : lt".toList :=
    .more (p := " not".toList) (padded_of_all [' '] [] rfl rfl rfl)
      (.more (p := "not ".toList) (padded_of_all [] [' '] rfl rfl rfl)
        (.last (padded_of_all [' '] [] rfl rfl rfl)))
  have hlisted : SpellsDocument "lt" ["not", "not"]
      (.object [("not", .array [.text "not:\tlt"])]) :=
    .listed (.text (.more (padded_self "not") (.last (padded_of_all ['\t'] [] rfl rfl rfl))))
  obtain ⟨hs, hj, hrecord⟩ := spellings_exact hnames
  exact ⟨hnames, htext, hlisted, (hs _ htext).1, (hj _ hlisted).1,
    (hrecord _ _ htext hlisted "load" .null).1⟩

end Expr

end Verdict
