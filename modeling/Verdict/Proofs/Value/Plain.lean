import Verdict.Value.Json
import Verdict.Proofs.Json.RoundTrip

/-
  Values as plain documents and back. A document has no place for a real that is not finite, and
  what comes back is the value with absence in place of each of them (`finitePart`), however deep
  it stands. Nothing else is lost: integers stay integers, reals stay reals with their bits, and
  sequences keep their items in order. `plain_exact` says so on documents and, for values that
  are not nested too deep, on the compact texts of the documents.
-/
namespace Verdict

namespace Value

mutual
/-- The value with absence in place of every real that is not finite. -/
def finitePart : Value → Value
  | integer i => integer i
  | real r => if r.isFinite then real r else absent
  | text s => text s
  | boolean b => boolean b
  | sequence items => sequence (finiteParts items)
  | absent => absent

def finiteParts : List Value → List Value
  | [] => []
  | v :: vs => finitePart v :: finiteParts vs
end

theorem finiteParts_eq_map (vs : List Value) : finiteParts vs = vs.map finitePart := by
  induction vs with
  | nil => rfl
  | cons v vs ih => rw [finiteParts, List.map_cons, ih]

/-! ## What is left is finite -/

mutual
theorem isFinite_finitePart : (v : Value) → v.finitePart.isFinite = true
  | integer _ | text _ | boolean _ | absent => rfl
  | real r => by
    cases h : r.isFinite with
    | true => simp [finitePart, isFinite, h]
    | false => simp [finitePart, isFinite, h]
  | sequence items => isFiniteItems_finiteParts items

theorem isFiniteItems_finiteParts : (vs : List Value) → isFiniteItems (finiteParts vs) = true
  | [] => rfl
  | v :: vs => by
    rw [finiteParts, isFiniteItems, isFinite_finitePart v, isFiniteItems_finiteParts vs]
    rfl
end

mutual
/-- A finite value is its own finite part. -/
theorem finitePart_of_isFinite : (v : Value) → v.isFinite = true → v.finitePart = v
  | integer _, _ | text _, _ | boolean _, _ | absent, _ => rfl
  | real r, h => by
    rw [isFinite] at h
    rw [finitePart, if_pos h]
  | sequence items, h => by
    rw [isFinite] at h
    rw [finitePart, finiteParts_of_isFiniteItems items h]

theorem finiteParts_of_isFiniteItems :
    (vs : List Value) → isFiniteItems vs = true → finiteParts vs = vs
  | [], _ => rfl
  | v :: vs, h => by
    rw [isFiniteItems, Bool.and_eq_true] at h
    rw [finiteParts, finitePart_of_isFinite v h.1, finiteParts_of_isFiniteItems vs h.2]
end

theorem finitePart_eq_self_iff (v : Value) : v.finitePart = v ↔ v.isFinite = true := by
  constructor
  · intro h
    rw [← h]
    exact isFinite_finitePart v
  · exact finitePart_of_isFinite v

/-! ## On documents -/

mutual
theorem ofJson_toJson : (v : Value) → ofJson (toJson v) = v.finitePart
  | integer i => ofJson_integer i
  | real (.finite _) | real .nan | real (.infinite _) => rfl
  | text _ | boolean _ | absent => rfl
  | sequence items => by rw [toJson, ofJson, ofItems_toItems items, finitePart]

theorem ofItems_toItems : (vs : List Value) → ofItems (toItems vs) = finiteParts vs
  | [] => rfl
  | v :: vs => by rw [toItems, ofItems, ofJson_toJson v, ofItems_toItems vs, finiteParts]
end

mutual
/-- A value and its document are nested alike. -/
theorem depth_toJson : (v : Value) → (toJson v).depth = v.depth
  | integer _ | text _ | boolean _ | absent => rfl
  | real (.finite _) | real .nan | real (.infinite _) => rfl
  | sequence items => by rw [toJson, Json.depth, depthItems_toItems items, depth]

theorem depthItems_toItems : (vs : List Value) → Json.depthItems (toItems vs) = depthItems vs
  | [] => rfl
  | v :: vs => by
    rw [toItems, Json.depthItems, depth_toJson v, depthItems_toItems vs, depthItems]
end

/-! ## On texts -/

theorem read_toJson (v : Value) : read v.toJson.source = .ok v.finitePart := by
  rw [read_of_document? (Json.document?_source _), ofJson_toJson]

/-- The compact text of a plain document is read as the finite part of its value. -/
theorem decode_read_compact {v : Value} (h : v.depth ≤ Json.maxDepth) :
    Json.decode read (Json.compact v.toJson) = .ok v.finitePart := by
  rw [← depth_toJson] at h
  rw [Json.decode_compact read h, read_toJson]

/-- Turned into a plain document and back, a value loses its reals that are not finite, at any
depth, and nothing else: sequences come back item by item, exactly the finite values come back as
they are, and the second time nothing is lost. The same holds of the compact texts of documents
that are not nested too deep. -/
theorem plain_exact :
    (∀ v : Value, ofJson (toJson v) = v.finitePart) ∧
    (∀ vs : List Value, ofJson (toJson (sequence vs)) =
      sequence (vs.map fun v => ofJson (toJson v))) ∧
    (∀ v : Value, ofJson (toJson v) = v ↔ v.isFinite = true) ∧
    (∀ v : Value, ofJson (toJson (ofJson (toJson v))) = ofJson (toJson v)) ∧
    ∀ v : Value, v.depth ≤ Json.maxDepth →
      Json.ofText? (Json.compact v.toJson) = some v.toJson ∧
      Json.decode read (Json.compact v.toJson) = .ok v.finitePart := by
  refine ⟨ofJson_toJson, fun vs => ?_, fun v => ?_, fun v => ?_, fun v h => ⟨?_, ?_⟩⟩
  · simp only [ofJson_toJson, finitePart, finiteParts_eq_map]
  · rw [ofJson_toJson]
    exact finitePart_eq_self_iff v
  · rw [ofJson_toJson, ofJson_toJson]
    exact finitePart_of_isFinite _ (isFinite_finitePart v)
  · exact Json.ofText?_compact (depth_toJson v ▸ h)
  · exact decode_read_compact h

/-- Zero stays an integer or a real in the text too, and an infinity is lost where it stands. -/
theorem decode_nested_infinity :
    (sequence [integer 0, sequence [real .zero, real (.infinite true)]]).depth ≤ Json.maxDepth ∧
    Json.decode read
        (Json.compact (sequence [integer 0, sequence [real .zero, real (.infinite true)]]).toJson) =
      .ok (sequence [integer 0, sequence [real .zero, absent]]) :=
  ⟨by decide, (plain_exact.2.2.2.2 _ (by decide)).2⟩

end Value

end Verdict
