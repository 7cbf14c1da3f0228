import Verdict.Expr.Json
import Verdict.Proofs.Expr.Text

/-
  Operator expressions through documents. A name is written as it is and read as text, so reading
  what was written gives the expression with each of its leaves read as text (`normal?`), or is
  refused if one of them is none (`toOption_ofJson_toJson`); names of combinators and numbers of
  operands stay as they are. Leaves that stand for themselves come back unchanged
  (`ofJson_toJson_eq_ok_iff_settled`), and whatever is read has no other leaves
  (`settled_of_ofJson`), so reading and writing settle after one round. `json_exact` has all of it.
-/
namespace Verdict

namespace Expr

mutual
/-- The expression with every leaf read as text, if all of them can be. -/
def normal? : Expr → Option Expr
  | named identifier => (parse identifier).toOption
  | apply operator operands => (normalAll? operands).map (apply operator)

def normalAll? : List Expr → Option (List Expr)
  | [] => some []
  | e :: es =>
    match normal? e, normalAll? es with
    | some f, some fs => some (f :: fs)
    | _, _ => none
end

mutual
/-- The names at the leaves, from left to right. -/
def leaves : Expr → List String
  | named identifier => [identifier]
  | apply _ operands => leavesAll operands

def leavesAll : List Expr → List String
  | [] => []
  | e :: es => leaves e ++ leavesAll es
end

theorem toOption_eq_some_iff {α ε : Type} (x : Except ε α) (a : α) :
    x.toOption = some a ↔ x = .ok a := by
  cases x <;> simp [Except.toOption]

theorem toOption_eq_none_iff {α ε : Type} (x : Except ε α) :
    x.toOption = none ↔ ∃ error, x = .error error := by
  cases x <;> simp [Except.toOption]

theorem normal?_named (s : String) : (named s).normal? = (parse s).toOption := by simp [normal?]

theorem normal?_apply (operator : String) (es : List Expr) :
    (apply operator es).normal? = (normalAll? es).map (apply operator) := by simp [normal?]

theorem normalAll?_nil : normalAll? [] = some [] := by simp [normalAll?]

theorem normalAll?_cons_eq_some_iff (e : Expr) (es fs : List Expr) :
    normalAll? (e :: es) = some fs ↔
      ∃ f rest, e.normal? = some f ∧ normalAll? es = some rest ∧ fs = f :: rest := by
  rw [normalAll?]
  cases e.normal? <;> cases normalAll? es <;> simp [eq_comm]

theorem normalAll?_eq_some_iff (es fs : List Expr) :
    normalAll? es = some fs ↔ es.map normal? = fs.map some := by
  induction es generalizing fs with
  | nil => cases fs <;> simp [normalAll?_nil]
  | cons e es ih =>
    rw [normalAll?_cons_eq_some_iff]
    cases fs with
    | nil => simp
    | cons f fs => simp [ih]

/-! ## The documents of expressions -/

theorem toJsonAll_eq_map (es : List Expr) : toJsonAll es = es.map toJson := by
  induction es with
  | nil => simp [toJsonAll]
  | cons e es ih => simp [toJsonAll, ih]

theorem toJson_apply_one (operator : String) (e : Expr) :
    (apply operator [e]).toJson = .object [(operator, e.toJson)] := by simp [toJson]

theorem toJson_apply_of_length_ne_one (operator : String) {es : List Expr}
    (h : es.length ≠ 1) :
    (apply operator es).toJson = .object [(operator, .array (es.map toJson))] := by
  match es with
  | [] => simp [toJson]
  | [_] => exact absurd rfl h
  | e :: f :: es => simp [toJson, toJsonAll_eq_map]

/-- An expression is never written as an array, so a single operand is not taken for a list. -/
theorem toJson_ne_array (e : Expr) (items : List Json) : e.toJson ≠ .array items := by
  match e with
  | named _ => simp [toJson]
  | apply _ [] => simp [toJson]
  | apply _ [_] => simp [toJson]
  | apply _ (_ :: _ :: _) => simp [toJson]

/-! ## Reading members -/

/-- The operands of a member: the items of an array, or else a single one. -/
def operandsOf? : Json → Option (List Expr)
  | .array items => ofItems items
  | j => (ofJson j).toOption.map fun e => [e]

theorem operandsOf?_of_ne_array {j : Json} (h : ∀ items, j ≠ .array items) :
    operandsOf? j = (ofJson j).toOption.map fun e => [e] := by
  cases j with
  | array items => exact absurd rfl (h items)
  | _ => rfl

theorem operandsOfMembers_cons (k : String) (j : Json) (ms : List (String × Json)) :
    operandsOfMembers ((k, j) :: ms) =
      (operandsOf? j).bind fun es => (operandsOfMembers ms).map fun rest => (k, es) :: rest := by
  cases j with
  | array items =>
    rw [operandsOfMembers, operandsOf?]
    cases ofItems items <;> cases operandsOfMembers ms <;> rfl
  | _ =>
    rw [operandsOfMembers, operandsOf?_of_ne_array (by simp)]
    · generalize ofJson _ = x
      cases x <;> cases operandsOfMembers ms <;> rfl
    · simp

theorem ofJson_object (ms : List (String × Json)) :
    ofJson (.object ms) = ofMembers (operandsOfMembers ms) := by simp [ofJson]

/-- An object of one member is its name applied to its operands. -/
theorem toOption_ofJson_member (operator : String) (j : Json) :
    (ofJson (.object [(operator, j)])).toOption = (operandsOf? j).map (apply operator) := by
  rw [ofJson_object, operandsOfMembers_cons]
  cases operandsOf? j with
  | none => rfl
  | some es => simp [operandsOfMembers, ofMembers, OrderedMap.ofList, OrderedMap.insert,
      OrderedMap.put_nil, OrderedMap.empty, Except.toOption]

theorem ofItems_cons (j : Json) (js : List Json) :
    ofItems (j :: js) =
      (ofJson j).toOption.bind fun e => (ofItems js).map fun es => e :: es := by
  rw [ofItems]
  cases ofJson j <;> cases ofItems js <;> rfl

/-! ## Reading what was written -/

mutual
/-- Reading a written expression reads its leaves as text. -/
theorem toOption_ofJson_toJson : (e : Expr) → (ofJson e.toJson).toOption = e.normal?
  | named s => by
    rw [toJson, ofJson_text, normal?_named]
    unfold ofDocumentText
    cases parse s <;> rfl
  | apply operator es => by
    have h := ofItems_toJson es
    rw [normal?_apply, ← h]
    by_cases hl : es.length = 1
    · obtain ⟨e, rfl⟩ := List.length_eq_one_iff.1 hl
      rw [toJson_apply_one, toOption_ofJson_member, operandsOf?_of_ne_array (toJson_ne_array e),
        List.map_cons, List.map_nil, ofItems_cons]
      cases (ofJson e.toJson).toOption <;> simp [ofItems]
    · rw [toJson_apply_of_length_ne_one operator hl, toOption_ofJson_member]
      rfl

theorem ofItems_toJson : (es : List Expr) → ofItems (es.map toJson) = normalAll? es
  | [] => by simp [ofItems, normalAll?]
  | e :: es => by
    rw [List.map_cons, ofItems_cons, toOption_ofJson_toJson e, ofItems_toJson es, normalAll?]
    cases e.normal? <;> cases normalAll? es <;> rfl
end

theorem ofJson_toJson_eq_ok_iff_normal? (e f : Expr) :
    ofJson e.toJson = .ok f ↔ e.normal? = some f := by
  rw [← toOption_eq_some_iff, toOption_ofJson_toJson]

/-- A combinator keeps its name and the number and order of its operands. -/
theorem ofJson_toJson_apply_iff (operator : String) (es : List Expr) (f : Expr) :
    ofJson (apply operator es).toJson = .ok f ↔
      ∃ fs, f = apply operator fs ∧
        es.map (fun e => ofJson e.toJson) = fs.map .ok := by
  have hmap : ∀ fs : List Expr, es.map (fun e => ofJson e.toJson) = fs.map .ok ↔
      normalAll? es = some fs := by
    intro fs
    rw [normalAll?_eq_some_iff]
    induction es generalizing fs with
    | nil => cases fs <;> simp
    | cons e es ih =>
      cases fs with
      | nil => simp
      | cons f fs => simp [ih, ofJson_toJson_eq_ok_iff_normal?]
  simp only [hmap]
  rw [ofJson_toJson_eq_ok_iff_normal?, normal?_apply, Option.map_eq_some_iff]
  constructor
  · rintro ⟨fs, hfs, rfl⟩
    exact ⟨fs, rfl, hfs⟩
  · rintro ⟨fs, rfl, hfs⟩
    exact ⟨fs, hfs, rfl⟩

/-! ## Leaves -/

theorem leaves_named (s : String) : (named s).leaves = [s] := by simp [leaves]

theorem leaves_apply (operator : String) (es : List Expr) :
    (apply operator es).leaves = leavesAll es := by simp [leaves]

theorem leavesAll_cons (e : Expr) (es : List Expr) :
    leavesAll (e :: es) = e.leaves ++ leavesAll es := by simp [leavesAll]

mutual
theorem mem_names_of_mem_leaves : (e : Expr) → ∀ s ∈ e.leaves, s ∈ e.names
  | named s, t, ht => by
    rw [leaves_named] at ht
    rw [names_named]
    exact ht
  | apply operator es, t, ht => by
    rw [leaves_apply] at ht
    rw [names_apply]
    exact List.mem_cons_of_mem operator (mem_namesAll_of_mem_leavesAll es t ht)

theorem mem_namesAll_of_mem_leavesAll : (es : List Expr) → ∀ s ∈ leavesAll es, s ∈ namesAll es
  | [], t, ht => by simp [leavesAll] at ht
  | e :: es, t, ht => by
    rw [leavesAll_cons, List.mem_append] at ht
    rw [namesAll_cons, List.mem_append]
    exact ht.imp (mem_names_of_mem_leaves e t) (mem_namesAll_of_mem_leavesAll es t)
end

mutual
/-- The expression is its own normal form when its leaves stand for themselves. -/
theorem normal?_eq_self_iff : (e : Expr) → (e.normal? = some e ↔ ∀ s ∈ e.leaves, IsName s)
  | named s => by
    have h := parse_display_iff (named s)
    rw [names_named] at h
    rw [normal?_named, toOption_eq_some_iff, leaves_named]
    exact h.trans (and_iff_right (IsChain.named s))
  | apply operator es => by
    rw [normal?_apply, leaves_apply, ← normalAll?_eq_self_iff es, Option.map_eq_some_iff]
    simp

theorem normalAll?_eq_self_iff :
    (es : List Expr) → (normalAll? es = some es ↔ ∀ s ∈ leavesAll es, IsName s)
  | [] => by simp [normalAll?, leavesAll]
  | e :: es => by
    rw [normalAll?_cons_eq_some_iff, leavesAll_cons, List.forall_mem_append,
      ← normal?_eq_self_iff e, ← normalAll?_eq_self_iff es]
    simp
end

mutual
/-- An expression has no normal form when one of its leaves is no text of an expression. -/
theorem normal?_eq_none_iff :
    (e : Expr) → (e.normal? = none ↔ ∃ s ∈ e.leaves, ∃ error, parse s = .error error)
  | named s => by
    rw [normal?_named, toOption_eq_none_iff, leaves_named]
    simp
  | apply operator es => by
    rw [normal?_apply, leaves_apply, ← normalAll?_eq_none_iff es, Option.map_eq_none_iff]

theorem normalAll?_eq_none_iff :
    (es : List Expr) →
      (normalAll? es = none ↔ ∃ s ∈ leavesAll es, ∃ error, parse s = .error error)
  | [] => by simp [normalAll?, leavesAll]
  | e :: es => by
    have he := normal?_eq_none_iff e
    have hes := normalAll?_eq_none_iff es
    have hcons : normalAll? (e :: es) = none ↔ e.normal? = none ∨ normalAll? es = none := by
      rw [normalAll?]
      cases e.normal? <;> cases normalAll? es <;> simp
    rw [hcons, he, hes, leavesAll_cons]
    simp only [List.mem_append, or_and_right, exists_or]
end

/-! ## What reading gives -/

/-- All leaves stand for themselves. -/
def Settled (e : Expr) : Prop := ∀ s ∈ e.leaves, IsName s

theorem settled_apply_iff (operator : String) (es : List Expr) :
    (apply operator es).Settled ↔ ∀ e ∈ es, e.Settled := by
  unfold Settled
  rw [leaves_apply]
  induction es with
  | nil => simp [leavesAll]
  | cons e es ih => rw [leavesAll_cons, List.forall_mem_append, List.forall_mem_cons, ih]

theorem settled_of_parse {s : String} {e : Expr} (h : parse s = .ok e) : e.Settled :=
  fun t ht => (names_of_parse h).2.2 t (mem_names_of_mem_leaves e t ht)

theorem settled_of_ofDocumentText {s : String} {e : Expr} (h : ofDocumentText s = .ok e) :
    e.Settled := by
  unfold ofDocumentText at h
  cases hp : parse s with
  | error error => rw [hp] at h; cases h
  | ok f =>
    rw [hp] at h
    exact Except.ok.inj h ▸ settled_of_parse hp

theorem settled_of_ofMembers {members : List (String × List Expr)} {e : Expr}
    (h : ofMembers (some members) = .ok e) (hm : ∀ m ∈ members, ∀ f ∈ m.2, f.Settled) :
    e.Settled := by
  unfold ofMembers at h
  dsimp only at h
  split at h
  · next operator operands he =>
    obtain rfl := Except.ok.inj h
    have hmem : (operator, operands) ∈ members :=
      OrderedMap.mem_of_mem_ofList (he ▸ List.mem_cons_self)
    exact (settled_apply_iff operator operands).2 (hm _ hmem)
  · cases h

/-- What an item stands for is also the only operand that it stands for. -/
theorem operandsOf?_of_ofJson {j : Json} {e : Expr} (h : ofJson j = .ok e) :
    operandsOf? j = some [e] := by
  have hne : ∀ items, j ≠ .array items := by
    rintro items rfl
    simp [ofJson] at h
  rw [operandsOf?_of_ne_array hne, h]
  rfl

mutual
/-- Operands that are read have leaves that stand for themselves. -/
theorem settled_of_operandsOf? :
    (j : Json) → ∀ es, operandsOf? j = some es → ∀ e ∈ es, e.Settled
  | .array items, es, h => settled_of_ofItems items es h
  | .object ms, es, h => by
    rw [operandsOf?_of_ne_array (by simp), Option.map_eq_some_iff] at h
    obtain ⟨e, he, rfl⟩ := h
    rw [toOption_eq_some_iff, ofJson_object] at he
    cases hm : operandsOfMembers ms with
    | none => rw [hm] at he; cases he
    | some members =>
      rw [hm] at he
      exact List.forall_mem_singleton.2
        (settled_of_ofMembers he (settled_of_operandsOfMembers ms members hm))
  | .text s, es, h => by
    rw [operandsOf?_of_ne_array (by simp), Option.map_eq_some_iff] at h
    obtain ⟨e, he, rfl⟩ := h
    rw [toOption_eq_some_iff, ofJson_text] at he
    exact List.forall_mem_singleton.2 (settled_of_ofDocumentText he)
  | .null, _, h | .boolean _, _, h | .number _, _, h => by
    simp [operandsOf?, ofJson, Except.toOption] at h

theorem settled_of_operandsOfMembers :
    (ms : List (String × Json)) → ∀ members, operandsOfMembers ms = some members →
      ∀ m ∈ members, ∀ e ∈ m.2, e.Settled
  | [], members, h, m, hm => by
    simp [operandsOfMembers] at h
    simp [h] at hm
  | (k, j) :: ms, members, h, m, hm => by
    rw [operandsOfMembers_cons, Option.bind_eq_some_iff] at h
    obtain ⟨es, hes, h⟩ := h
    obtain ⟨rest, hrest, rfl⟩ := Option.map_eq_some_iff.1 h
    rcases List.mem_cons.1 hm with rfl | hm
    · exact settled_of_operandsOf? j es hes
    · exact settled_of_operandsOfMembers ms rest hrest m hm

theorem settled_of_ofItems :
    (js : List Json) → ∀ es, ofItems js = some es → ∀ e ∈ es, e.Settled
  | [], es, h, e, he => by
    simp [ofItems] at h
    simp [h] at he
  | j :: js, es, h, e, he => by
    rw [ofItems_cons, Option.bind_eq_some_iff] at h
    obtain ⟨f, hf, h⟩ := h
    obtain ⟨rest, hrest, rfl⟩ := Option.map_eq_some_iff.1 h
    rw [toOption_eq_some_iff] at hf
    rcases List.mem_cons.1 he with rfl | he
    · exact settled_of_operandsOf? j [e] (operandsOf?_of_ofJson hf) e List.mem_cons_self
    · exact settled_of_ofItems js rest hrest e he
end

theorem settled_of_ofJson {j : Json} {e : Expr} (h : ofJson j = .ok e) : e.Settled :=
  settled_of_operandsOf? j [e] (operandsOf?_of_ofJson h) e List.mem_cons_self

theorem ofJson_toJson_eq_ok_iff_settled (e : Expr) : ofJson e.toJson = .ok e ↔ e.Settled :=
  (ofJson_toJson_eq_ok_iff_normal? e e).trans (normal?_eq_self_iff e)

/-- Expressions as documents, for every expression and every document. What is written is read
as the expression with its leaves read as text, and is refused when one of them is no text of an
expression; it is read as the expression itself when its leaves stand for themselves. A single
operand is written bare and any other number of them as an array, and whatever the name of the
combinator, it comes back with as many operands in their order. What any document is read as is
written and read without a change. -/
theorem json_exact :
    (∀ e f, ofJson (toJson e) = .ok f ↔ e.normal? = some f) ∧
    (∀ e, (∃ why, ofJson (toJson e) = .error why) ↔
      ∃ s ∈ e.leaves, ∃ error, parse s = .error error) ∧
    (∀ e, ofJson (toJson e) = .ok e ↔ ∀ s ∈ e.leaves, IsName s) ∧
    (∀ operator e, (apply operator [e]).toJson = .object [(operator, e.toJson)]) ∧
    (∀ operator es, es.length ≠ 1 →
      (apply operator es).toJson = .object [(operator, .array (es.map toJson))]) ∧
    (∀ operator es f, ofJson (apply operator es).toJson = .ok f ↔
      ∃ fs, f = apply operator fs ∧ es.map (fun e => ofJson e.toJson) = fs.map .ok) ∧
    (∀ j e, ofJson j = .ok e → ofJson e.toJson = .ok e) := by
  refine ⟨ofJson_toJson_eq_ok_iff_normal?, ?_, ofJson_toJson_eq_ok_iff_settled,
    toJson_apply_one, fun operator es => toJson_apply_of_length_ne_one operator,
    ofJson_toJson_apply_iff, ?_⟩
  · intro e
    rw [← normal?_eq_none_iff, ← toOption_ofJson_toJson, toOption_eq_none_iff]
  · intro j e h
    exact (ofJson_toJson_eq_ok_iff_settled e).2 (settled_of_ofJson h)

/-- Two operands are written as an array, and a text among them as what was read from it. -/
theorem json_of_spelled_operand :
    [not (named "gt"), named "lt"].length ≠ 1 ∧
    (and (not (named "gt")) (named "lt")).toJson =
      .object [("and", .array [.object [("not", .text "gt")], .text "lt"])] ∧
    ofJson (.object [("and", .array [.text "not:gt", .text "lt"])]) =
      .ok (and (not (named "gt")) (named "lt")) ∧
    ofJson (and (not (named "gt")) (named "lt")).toJson =
      .ok (and (not (named "gt")) (named "lt")) :=
  ⟨by decide, json_exact.2.2.2.2.1 "and" _ (by decide), rfl,
    json_exact.2.2.2.2.2.2 (.object [("and", .array [.text "not:gt", .text "lt"])]) _ rfl⟩

/-- A leaf with a colon is not written as what it is. -/
example : ofJson (named "not:lt").toJson = .ok (not (named "lt")) := rfl

end Expr

end Verdict
