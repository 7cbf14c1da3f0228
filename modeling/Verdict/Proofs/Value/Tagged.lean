import Verdict.Proofs.Json.RoundTrip
import Verdict.Value.Tagged

/-
  Values as tagged documents and back. A tag keeps the kind, so what is written is read as the same
  value (`readTagged_source`), and a real that is not finite, written as null under its tag, is
  refused and never taken for absence. A sequence takes two levels of nesting, its object and its
  array (`taggedDepth`, `depth_toTagged`); of a document that is nested too deep some part is
  refused, and with it the value (`readTagged_sourceAt_of_lt`). `tagged_exact` has both on
  documents and on their compact texts.
-/
namespace Verdict

namespace Value

mutual
/-- How deep the tagged document of a value is nested. -/
def taggedDepth : Value → Nat
  | sequence items => taggedDepthItems items + 2
  | integer _ | real _ | text _ | boolean _ | absent => 1

def taggedDepthItems : List Value → Nat
  | [] => 0
  | v :: vs => max (taggedDepth v) (taggedDepthItems vs)
end

mutual
theorem depth_toTagged : (v : Value) → v.toTagged.depth = v.taggedDepth
  | integer _ | text _ | boolean _ | absent => rfl
  | real (.finite _) | real .nan | real (.infinite _) => rfl
  | sequence items => by
    have h := depthItems_toTaggedItems items
    simp [toTagged, Json.depth, Json.depthMembers, taggedDepth, h]

theorem depthItems_toTaggedItems :
    (vs : List Value) → Json.depthItems (toTaggedItems vs) = taggedDepthItems vs
  | [] => rfl
  | v :: vs => by
    rw [toTaggedItems, Json.depthItems, depth_toTagged v, depthItems_toTaggedItems vs,
      taggedDepthItems]
end

mutual
/-- Tags take twice the nesting of the plain document, and one level more around a leaf. -/
theorem taggedDepth_bounds :
    (v : Value) → 2 * v.depth ≤ v.taggedDepth ∧ v.taggedDepth ≤ 2 * v.depth + 1
  | integer _ | real _ | text _ | boolean _ | absent => by simp [depth, taggedDepth]
  | sequence items => by
    have h := taggedDepthItems_bounds items
    rw [depth, taggedDepth]
    omega

theorem taggedDepthItems_bounds :
    (vs : List Value) →
      2 * depthItems vs ≤ taggedDepthItems vs ∧ taggedDepthItems vs ≤ 2 * depthItems vs + 1
  | [] => by simp [depthItems, taggedDepthItems]
  | v :: vs => by
    have hv := taggedDepth_bounds v
    have hvs := taggedDepthItems_bounds vs
    rw [depthItems, taggedDepthItems]
    omega
end

/-! ## Tag and content -/

theorem readTagged_tag (k : Kind) :
    readTagged .direct (.object [("type", .text k.name)]) =
      if k = .absent then some absent else none := by
  simp [readTagged, Json.Source.isBroken, contents, ofMembers?, isOwn, tagOf, Kind.ofName?_name]

theorem readTagged_tag_content (k : Kind) {s : Json.Source} (h : s.isBroken = false) :
    readTagged .direct (.object [("type", .text k.name), ("value", s)]) =
      ofContent? k ⟨s, taggedItems .direct s⟩ := by
  have htext : (Json.Source.text k.name).isBroken = false := rfl
  simp [readTagged, htext, h, Reading.ofMembers, contents, ofMembers?, isOwn, tagOf,
    Kind.ofName?_name]

theorem ofContent?_ofInt64 (i : Int64) (items : Option (List Value)) :
    ofContent? .integer ⟨(Json.ofInt64 i).source, items⟩ = some (integer i) := by
  have h : i.toInt < 0x8000000000000000 := Int64.toInt_lt i
  simp [Json.ofInt64, Json.source, ofContent?, h]

/-! ## On documents -/

mutual
/-- A finite value is read as itself, and every other one is refused. -/
theorem readTagged_source :
    (v : Value) → readTagged .direct v.toTagged.source = if v.isFinite then some v else none
  | integer i => (readTagged_tag_content .integer rfl).trans (ofContent?_ofInt64 i _)
  | real (.finite _) | real .nan | real (.infinite _) => readTagged_tag_content .real rfl
  | text _ => readTagged_tag_content .text rfl
  | boolean _ => readTagged_tag_content .boolean rfl
  | absent => readTagged_tag .absent
  | sequence items => by
    refine (readTagged_tag_content .sequence rfl).trans ?_
    show (readTaggedItems .direct (Json.sources (toTaggedItems items))).map sequence = _
    rw [readTaggedItems_sources items, isFinite]
    cases isFiniteItems items <;> rfl

theorem readTaggedItems_sources :
    (vs : List Value) → readTaggedItems .direct (Json.sources (toTaggedItems vs)) =
      if isFiniteItems vs then some vs else none
  | [] => rfl
  | v :: vs => by
    rw [toTaggedItems, Json.sources, readTaggedItems, readTagged_source v,
      readTaggedItems_sources vs, isFiniteItems]
    cases v.isFinite <;> cases isFiniteItems vs <;> rfl
end

/-! ## On texts -/

mutual
/-- Inside so many containers that some part lies too deep, every value is refused. -/
theorem readTagged_sourceAt_of_lt :
    (v : Value) → (depth : Nat) → Json.maxDepth < depth + v.taggedDepth →
      readTagged .direct (v.toTagged.sourceAt depth) = none
  | integer _, depth, h | text _, depth, h | boolean _, depth, h | absent, depth, h
  | real (.finite _), depth, h | real .nan, depth, h | real (.infinite _), depth, h => by
    have hdepth : Json.maxDepth < depth + 1 := h
    rw [toTagged, Json.sourceAt, Json.atDepth_of_lt hdepth]
    rfl
  | sequence items, depth, h => by
    rw [taggedDepth] at h
    rw [toTagged, Json.sourceAt]
    rcases Nat.lt_or_ge Json.maxDepth (depth + 1) with hobject | hobject
    · rw [Json.atDepth_of_lt hobject]
      rfl
    rw [Json.atDepth_of_le hobject]
    rcases Nat.lt_or_ge Json.maxDepth (depth + 2) with harray | harray
    · have hrefused : (Json.array (toTaggedItems items)).sourceAt (depth + 1) = .refused :=
        Json.atDepth_of_lt harray _
      rw [Json.memberSourcesAt, Json.memberSourcesAt, Json.memberSourcesAt, hrefused]
      exact readTagged_tag_content .sequence rfl
    · have harray' : (Json.array (toTaggedItems items)).sourceAt (depth + 1) =
          .array (Json.sourcesAt (depth + 2) (toTaggedItems items)) := Json.atDepth_of_le harray _
      rw [Json.memberSourcesAt, Json.memberSourcesAt, Json.memberSourcesAt, harray']
      refine (readTagged_tag_content .sequence rfl).trans ?_
      rw [ofContent?, taggedItems,
        readTaggedItems_sourcesAt_of_lt items (depth + 2) harray (by omega)]
      rfl

theorem readTaggedItems_sourcesAt_of_lt :
    (vs : List Value) → (depth : Nat) → depth ≤ Json.maxDepth →
      Json.maxDepth < depth + taggedDepthItems vs →
      readTaggedItems .direct (Json.sourcesAt depth (toTaggedItems vs)) = none
  | [], depth, hle, h => absurd h (Nat.not_lt.2 hle)
  | v :: vs, depth, hle, h => by
    rw [taggedDepthItems] at h
    rw [toTaggedItems, Json.sourcesAt, readTaggedItems]
    rcases Nat.lt_or_ge Json.maxDepth (depth + v.taggedDepth) with hv | hv
    · rw [readTagged_sourceAt_of_lt v depth hv]
    · rw [readTaggedItems_sourcesAt_of_lt vs depth hle (by omega)]
      cases readTagged .direct (v.toTagged.sourceAt depth) <;> rfl
end

theorem decode_readTaggedValue_eq_ok_iff (v w : Value) :
    Json.decode readTaggedValue (Json.compact v.toTagged) = .ok w ↔
      readTagged .direct (v.toTagged.sourceAt 0) = some w := by
  rw [Json.decode_compact_sourceAt, readTaggedValue]
  cases readTagged .direct (v.toTagged.sourceAt 0) <;> simp

/-- The compact text of a tagged document is read as its value when the value is finite and the
document not nested too deep, and is never read as another value. -/
theorem decode_compact_toTagged_iff (v w : Value) :
    Json.decode readTaggedValue (Json.compact v.toTagged) = .ok w ↔
      w = v ∧ v.isFinite = true ∧ v.taggedDepth ≤ Json.maxDepth := by
  rw [decode_readTaggedValue_eq_ok_iff]
  rcases Nat.lt_or_ge Json.maxDepth v.taggedDepth with hdeep | hdeep
  · rw [readTagged_sourceAt_of_lt v 0 (by omega)]
    simp only [reduceCtorEq, false_iff]
    intro h
    exact absurd h.2.2 (Nat.not_le.2 hdeep)
  · have hle : 0 + v.toTagged.depth ≤ Json.maxDepth := by
      rw [depth_toTagged]
      omega
    rw [Json.sourceAt_of_le v.toTagged 0 hle, readTagged_source]
    cases v.isFinite <;> simp [hdeep, eq_comm]

/-- Turned into a tagged document and back, every finite value is the same, and every other one is
refused. The document takes two levels for a sequence and one for a leaf, and a finite value comes
back from its compact text when these are 127 at most, and else is refused too. -/
theorem tagged_exact :
    (∀ v : Value, readTagged .direct v.toTagged.source = some v ↔ v.isFinite = true) ∧
    (∀ v : Value, v.isFinite = false → readTagged .direct v.toTagged.source = none) ∧
    (∀ v : Value, v.toTagged.depth = v.taggedDepth ∧
      2 * v.depth ≤ v.taggedDepth ∧ v.taggedDepth ≤ 2 * v.depth + 1) ∧
    (∀ v : Value, v.isFinite = true →
      (Json.decode readTaggedValue (Json.compact v.toTagged) = .ok v ↔ v.taggedDepth ≤ 127) ∧
      ((∃ fault, Json.decode readTaggedValue (Json.compact v.toTagged) = .error fault) ↔
        127 < v.taggedDepth)) := by
  refine ⟨fun v => ?_, fun v h => ?_, fun v => ⟨depth_toTagged v, taggedDepth_bounds v⟩,
    fun v h => ?_⟩
  · rw [readTagged_source]
    cases v.isFinite <;> simp
  · rw [readTagged_source, h]
    rfl
  · have hread := decode_compact_toTagged_iff v
    have hdepth : Json.decode readTaggedValue (Json.compact v.toTagged) = .ok v ↔
        v.taggedDepth ≤ 127 := by
      rw [hread]
      simp [h, Json.maxDepth]
    refine ⟨hdepth, ?_⟩
    rw [← Nat.not_le, ← hdepth]
    cases hdecode : Json.decode readTaggedValue (Json.compact v.toTagged) with
    | error fault => simp
    | ok w => simp [((hread w).1 hdecode).1]

/-- A value inside `n` sequences of one item each. -/
def nest : Nat → Value → Value
  | 0, v => v
  | n + 1, v => sequence [nest n v]

theorem isFinite_nest (n : Nat) (v : Value) : (nest n v).isFinite = v.isFinite := by
  induction n with
  | zero => rfl
  | succ n ih => simp [nest, isFinite, isFiniteItems, ih]

theorem taggedDepth_nest (n : Nat) (v : Value) :
    (nest n v).taggedDepth = 2 * n + v.taggedDepth := by
  induction n with
  | zero => simp [nest]
  | succ n ih =>
    rw [nest, taggedDepth, taggedDepthItems, taggedDepthItems, ih]
    omega

/-- Around a leaf there is room for 63 sequences and not for one more, and NaN is not taken for the
absence that stands next to it. -/
theorem tagged_nested_zero :
    ((nest 63 (real .zero)).isFinite = true ∧
      Json.decode readTaggedValue (Json.compact (nest 63 (real .zero)).toTagged) =
        .ok (nest 63 (real .zero))) ∧
    ((nest 64 (real .zero)).isFinite = true ∧
      ∃ fault, Json.decode readTaggedValue (Json.compact (nest 64 (real .zero)).toTagged) =
        .error fault) ∧
    (sequence [absent, real .nan]).isFinite = false ∧
    readTagged .direct (sequence [absent, real .nan]).toTagged.source = none := by
  obtain ⟨-, hrefused, -, htext⟩ := tagged_exact
  have hfinite : ∀ n, (nest n (real .zero)).isFinite = true := fun n => isFinite_nest n _
  refine ⟨⟨hfinite 63, ?_⟩, ⟨hfinite 64, ?_⟩, rfl, hrefused _ rfl⟩
  · refine (htext _ (hfinite 63)).1.2 ?_
    rw [taggedDepth_nest]
    decide
  · refine (htext _ (hfinite 64)).2.2 ?_
    rw [taggedDepth_nest]
    decide

end Value

end Verdict
