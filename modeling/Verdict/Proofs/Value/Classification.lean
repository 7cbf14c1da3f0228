import Verdict.Proofs.Binary64.Widening
import Verdict.Proofs.Value.Plain

/-
  Documents as values and back. A value has no place for an object, nor for an integer that no
  signed word holds, so what comes back is the document with null in place of every object and the
  nearest real in place of every such integer, at any depth, and nothing else is lost
  (`Json.ReducesTo`, `toJson_ofJson_eq_iff`). What comes back has the same value as the document,
  and a document that loses nothing (`Json.isKept`) is determined by its value. `retraction_exact`
  says so of both ways to classify a document.
-/
namespace Verdict

namespace Json

mutual
/-- The second document is what classification leaves of the first. -/
inductive ReducesTo : Json → Json → Prop
  | null : ReducesTo .null .null
  | boolean (b : Bool) : ReducesTo (.boolean b) (.boolean b)
  | text (s : String) : ReducesTo (.text s) (.text s)
  | word (i : Whole) (fits : i.val < 0x8000000000000000) :
    ReducesTo (.number (.integer i)) (.number (.integer i))
  /-- An integer that no signed word holds becomes the real nearest to it. -/
  | large (i : Whole) (r : Finite64) (beyond : 0x8000000000000000 ≤ i.val)
    (nearest : r.IsNearest i.val) : ReducesTo (.number (.integer i)) (.number (.real r))
  | real (r : Finite64) : ReducesTo (.number (.real r)) (.number (.real r))
  | array {js ks : List Json} (items : ItemsReduceTo js ks) : ReducesTo (.array js) (.array ks)
  /-- Objects have no comparable form. -/
  | object (members : List (String × Json)) : ReducesTo (.object members) .null

/-- Items are reduced one by one, in their order. -/
inductive ItemsReduceTo : List Json → List Json → Prop
  | nil : ItemsReduceTo [] []
  | cons {j k : Json} {js ks : List Json} (head : ReducesTo j k) (tail : ItemsReduceTo js ks) :
    ItemsReduceTo (j :: js) (k :: ks)
end

mutual
/-- No object is part of the document, and no integer that no signed word holds. -/
def isKept : Json → Bool
  | .null | .boolean _ | .text _ | .number (.real _) => true
  | .number (.integer i) => decide (i.val < 0x8000000000000000)
  | .array items => isKeptItems items
  | .object _ => false

def isKeptItems : List Json → Bool
  | [] => true
  | j :: js => isKept j && isKeptItems js
end

mutual
/-- A document is reduced to itself exactly when nothing of it is lost. -/
theorem reducesTo_self_iff : (j : Json) → (j.ReducesTo j ↔ j.isKept = true)
  | .null => ⟨fun _ => rfl, fun _ => .null⟩
  | .boolean b => ⟨fun _ => rfl, fun _ => .boolean b⟩
  | .text s => ⟨fun _ => rfl, fun _ => .text s⟩
  | .number (.real r) => ⟨fun _ => rfl, fun _ => .real r⟩
  | .number (.integer i) => by
    constructor
    · intro h
      cases h with
      | word i fits => exact decide_eq_true fits
    · intro h
      exact .word i (of_decide_eq_true h)
  | .array items => by
    constructor
    · intro h
      cases h with
      | array hitems => exact (itemsReduceTo_self_iff items).1 hitems
    · intro h
      exact .array ((itemsReduceTo_self_iff items).2 h)
  | .object members => by
    constructor
    · intro h
      cases h
    · intro h
      cases h

theorem itemsReduceTo_self_iff : (js : List Json) → (ItemsReduceTo js js ↔ isKeptItems js = true)
  | [] => ⟨fun _ => rfl, fun _ => .nil⟩
  | j :: js => by
    rw [isKeptItems, Bool.and_eq_true, ← reducesTo_self_iff j, ← itemsReduceTo_self_iff js]
    constructor
    · intro h
      cases h with
      | cons head tail => exact ⟨head, tail⟩
    · intro h
      exact .cons h.1 h.2
end

/-- An integer that a signed word holds is that word as a number. -/
theorem ofInt64_ofInt {i : Whole} (h : i.val < 0x8000000000000000) :
    ofInt64 (Int64.ofInt i.val) = .number (.integer i) := by
  have hval : (Int64.ofInt i.val).toInt = i.val := Int64.toInt_ofInt_of_le i.low h
  unfold ofInt64
  simp only [hval]

/-- An integer of a document has a nearest real. -/
theorem Whole.exists_nearest (i : Whole) :
    ∃ r, Binary64.ofInt i.val = .finite r ∧ r.IsNearest i.val := by
  have hlow := i.low
  have hhigh := i.high
  exact Binary64.ofInt_isNearest (Binary64.not_overflows_of_word (by omega))

end Json

namespace Value

/-! ## What comes back -/

theorem reducesTo_number (n : Json.Number) :
    (Json.number n).ReducesTo (toJson (ofNumber n)) := by
  cases n with
  | real r => exact .real r
  | integer i =>
    unfold ofNumber
    dsimp only
    split
    · next h =>
      rw [toJson, Json.ofInt64_ofInt h]
      exact .word i h
    · next h =>
      obtain ⟨r, hr, hnear⟩ := i.exists_nearest
      rw [hr, toJson]
      exact .large i r (Int.not_lt.1 h) hnear

mutual
theorem reducesTo_toJson_ofJson : (j : Json) → j.ReducesTo (toJson (ofJson j))
  | .null => .null
  | .boolean b => .boolean b
  | .text s => .text s
  | .number n => reducesTo_number n
  | .array items => .array (itemsReduceTo_toItems_ofItems items)
  | .object members => .object members

theorem itemsReduceTo_toItems_ofItems :
    (js : List Json) → Json.ItemsReduceTo js (toItems (ofItems js))
  | [] => .nil
  | j :: js => .cons (reducesTo_toJson_ofJson j) (itemsReduceTo_toItems_ofItems js)
end

mutual
/-- A document is reduced in one way only. -/
theorem eq_of_reducesTo : (j : Json) → {k l : Json} → j.ReducesTo k → j.ReducesTo l → k = l
  | .null, _, _, .null, .null => rfl
  | .boolean _, _, _, .boolean _, .boolean _ => rfl
  | .text _, _, _, .text _, .text _ => rfl
  | .number (.real _), _, _, .real _, .real _ => rfl
  | .number (.integer _), _, _, .word _ _, .word _ _ => rfl
  | .number (.integer _), _, _, .word _ fits, .large _ _ beyond _ =>
    absurd fits (Int.not_lt.2 beyond)
  | .number (.integer _), _, _, .large _ _ beyond _, .word _ fits =>
    absurd fits (Int.not_lt.2 beyond)
  | .number (.integer _), _, _, .large _ _ _ hr, .large _ _ _ hq => by rw [hr.unique hq]
  | .array js, _, _, .array hk, .array hl => by rw [eq_of_itemsReduceTo js hk hl]
  | .object _, _, _, .object _, .object _ => rfl

theorem eq_of_itemsReduceTo : (js : List Json) → {ks ls : List Json} →
    Json.ItemsReduceTo js ks → Json.ItemsReduceTo js ls → ks = ls
  | [], _, _, .nil, .nil => rfl
  | j :: js, _, _, .cons hk hks, .cons hl hls => by
    rw [eq_of_reducesTo j hk hl, eq_of_itemsReduceTo js hks hls]
end

/-- What comes back is what classification leaves of the document, and nothing else is. -/
theorem toJson_ofJson_eq_iff (j k : Json) : toJson (ofJson j) = k ↔ j.ReducesTo k := by
  constructor
  · intro h
    rw [← h]
    exact reducesTo_toJson_ofJson j
  · exact eq_of_reducesTo j (reducesTo_toJson_ofJson j)

theorem toJson_ofJson_eq_self_iff (j : Json) : toJson (ofJson j) = j ↔ j.isKept = true := by
  rw [toJson_ofJson_eq_iff, Json.reducesTo_self_iff]

/-! ## The value of what comes back -/

theorem isFinite_ofNumber (n : Json.Number) : (ofNumber n).isFinite = true := by
  cases n with
  | real r => rfl
  | integer i =>
    unfold ofNumber
    dsimp only
    split
    · rfl
    · obtain ⟨r, hr, -⟩ := i.exists_nearest
      rw [hr]
      rfl

mutual
/-- No document stands for a value with an infinity or NaN in it. -/
theorem isFinite_ofJson : (j : Json) → (ofJson j).isFinite = true
  | .null | .boolean _ | .text _ | .object _ => rfl
  | .number n => isFinite_ofNumber n
  | .array items => isFiniteItems_ofItems items

theorem isFiniteItems_ofItems : (js : List Json) → isFiniteItems (ofItems js) = true
  | [] => rfl
  | j :: js => by
    rw [ofItems, isFiniteItems, isFinite_ofJson j, isFiniteItems_ofItems js]
    rfl
end

theorem ofJson_toJson_ofJson (j : Json) : ofJson (toJson (ofJson j)) = ofJson j := by
  rw [ofJson_toJson]
  exact finitePart_of_isFinite _ (isFinite_ofJson j)

/-- Looked at or given up, a document has the same value, in which every real is finite. Written
back, the value is the document with null for every object and the nearest real for every integer
that no signed word holds, and nothing else is changed; this document has the value again. So
exactly the documents without such parts come back as they are, and no two of them have the same
value. -/
theorem retraction_exact :
    (∀ j : Json, takeJson j = ofJson j) ∧
    (∀ j k : Json, toJson (ofJson j) = k ↔ j.ReducesTo k) ∧
    (∀ j : Json, ofJson (toJson (ofJson j)) = ofJson j ∧
      takeJson (toJson (takeJson j)) = takeJson j) ∧
    (∀ j : Json, (ofJson j).isFinite = true) ∧
    (∀ j : Json, toJson (ofJson j) = j ↔ j.isKept = true) ∧
    ∀ j k : Json, j.isKept = true → k.isKept = true → ofJson j = ofJson k → j = k := by
  refine ⟨takeJson_eq_ofJson, toJson_ofJson_eq_iff, fun j => ⟨ofJson_toJson_ofJson j, ?_⟩,
    isFinite_ofJson, toJson_ofJson_eq_self_iff, fun j k hj hk h => ?_⟩
  · simp only [takeJson_eq_ofJson]
    exact ofJson_toJson_ofJson j
  · calc
      j = toJson (ofJson j) := ((toJson_ofJson_eq_self_iff j).2 hj).symm
      _ = toJson (ofJson k) := by rw [h]
      _ = k := (toJson_ofJson_eq_self_iff k).2 hk

/-- The widest word, a negative zero and an absent value come back from within an array. -/
theorem retraction_widest :
    let j : Json := .array [.number (.integer ⟨0x7fffffffffffffff, by decide, by decide⟩),
      .array [.number (.real ⟨true, Finite64.zero.index⟩), .null], .text "a"]
    j.isKept = true ∧ (toJson (ofJson j)).isKept = true ∧
      ofJson j = ofJson (toJson (ofJson j)) ∧ j = toJson (ofJson j) :=
  ⟨rfl, rfl, rfl, retraction_exact.2.2.2.2.2 _ _ rfl rfl rfl⟩

/-- The widest integer has the value of the real `2 ^ 64`, and an object has none. -/
example : ofJson (.array [.number (.integer ⟨0xffffffffffffffff, by decide, by decide⟩),
    .object [("a", .null)]]) =
      .sequence [.real (.finite ⟨false, ⟨1087 * 0x10000000000000, by decide⟩⟩), .absent] := by
  decide +kernel

end Value

end Verdict
