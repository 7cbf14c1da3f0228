import Verdict.Proofs.Binary64.Overflow
import Verdict.Proofs.Json.RoundTrip

/-
  Texts that stand for no document although nothing in them is misspelled. The compact text of a
  document that is nested too deep is one (`ofText?_compact_eq_none_iff`), and no text at all
  stands for such a document: what is read with any fuel inside any number of containers is
  nested at most 127 deep (`readsShallow`, `depth_le_of_ofText?`). A number between blanks is the
  other, exactly when it is rounded past the largest real (`Literal.IsIn.ofText?_eq_none_iff`).
-/
namespace Verdict

namespace Json

/-! ## Too deep -/

theorem document?_atDepth_eq_some {depth : Nat} {s : Source} {j : Json}
    (h : (atDepth depth s).document? = some j) : depth ≤ maxDepth ∧ s.document? = some j := by
  unfold atDepth at h
  split at h
  · next hle => exact ⟨hle, h⟩
  · cases h

mutual
/-- Where it lies too deep, a document is refused. -/
theorem document?_sourceAt_of_lt :
    (j : Json) → (depth : Nat) → depth ≤ maxDepth → maxDepth < depth + j.depth →
      (sourceAt depth j).document? = none
  | .null, _, h, hlt | .boolean _, _, h, hlt | .number _, _, h, hlt | .text _, _, h, hlt => by
    rw [Json.depth] at hlt
    omega
  | .array items, depth, _, hlt => by
    rw [Json.depth] at hlt
    rw [sourceAt]
    by_cases hle : depth + 1 ≤ maxDepth
    · rw [atDepth_of_le hle, Source.document?,
        documents?_sourcesAt_of_lt items (depth + 1) hle (by omega)]
      rfl
    · rw [atDepth_of_lt (Nat.lt_of_not_le hle)]
      rfl
  | .object members, depth, _, hlt => by
    rw [Json.depth] at hlt
    rw [sourceAt]
    by_cases hle : depth + 1 ≤ maxDepth
    · rw [atDepth_of_le hle, Source.document?,
        memberDocuments?_memberSourcesAt_of_lt members (depth + 1) hle (by omega)]
      rfl
    · rw [atDepth_of_lt (Nat.lt_of_not_le hle)]
      rfl

theorem documents?_sourcesAt_of_lt :
    (js : List Json) → (depth : Nat) → depth ≤ maxDepth → maxDepth < depth + depthItems js →
      Source.documents? (sourcesAt depth js) = none
  | [], _, _, hlt => by
    rw [depthItems] at hlt
    omega
  | j :: js, depth, h, hlt => by
    rw [depthItems] at hlt
    rw [sourcesAt, Source.documents?]
    by_cases hj : maxDepth < depth + j.depth
    · rw [document?_sourceAt_of_lt j depth h hj]
    · rw [documents?_sourcesAt_of_lt js depth h (by omega)]
      cases (sourceAt depth j).document? <;> rfl

theorem memberDocuments?_memberSourcesAt_of_lt :
    (ms : List (String × Json)) → (depth : Nat) → depth ≤ maxDepth →
      maxDepth < depth + depthMembers ms →
      Source.memberDocuments? (memberSourcesAt depth ms) = none
  | [], _, _, hlt => by
    rw [depthMembers] at hlt
    omega
  | (k, j) :: ms, depth, h, hlt => by
    rw [depthMembers] at hlt
    rw [memberSourcesAt, Source.memberDocuments?]
    by_cases hj : maxDepth < depth + j.depth
    · rw [document?_sourceAt_of_lt j depth h hj]
    · rw [memberDocuments?_memberSourcesAt_of_lt ms depth h (by omega)]
      cases (sourceAt depth j).document? <;> rfl
end

/-- Exactly the documents that are nested too deep are not read back. -/
theorem ofText?_compact_eq_none_iff (j : Json) :
    ofText? (compact j) = none ↔ maxDepth < j.depth := by
  constructor
  · intro hnone
    refine Nat.lt_of_not_le fun hle => ?_
    rw [ofText?_compact hle] at hnone
    cases hnone
  · intro hlt
    unfold ofText? Source.ofText?
    rw [scan_compact]
    exact document?_sourceAt_of_lt j 0 (Nat.zero_le _) (by omega)

/-! ## Every text -/

theorem documents?_cons_eq_some {s : Source} {ss : List Source} {js : List Json}
    (h : Source.documents? (s :: ss) = some js) :
    ∃ i is, s.document? = some i ∧ Source.documents? ss = some is ∧ js = i :: is := by
  rw [Source.documents?] at h
  split at h
  · next i is hi his => exact ⟨i, is, hi, his, (Option.some.inj h).symm⟩
  · cases h

theorem memberDocuments?_consMember_eq_some {k : Option String} {s : Source}
    {ss : List (String × Source)} {ms : List (String × Json)}
    (h : Source.memberDocuments? (consMember k s ss) = some ms) :
    ∃ i is, s.document? = some i ∧ Source.memberDocuments? ss = some is ∧
      depthMembers ms = max i.depth (depthMembers is) := by
  cases k with
  | some k =>
    rw [consMember, Source.memberDocuments?] at h
    split at h
    · next i is hi his =>
      cases h
      exact ⟨i, is, hi, his, rfl⟩
    · cases h
  | none => cases h

/-- With this fuel nothing is read that is nested too deep inside `depth` containers. -/
structure ReadsShallow (fuel : Nat) : Prop where
  value : ∀ depth cs j, depth ≤ maxDepth →
    (readValue fuel depth cs).1.document? = some j → depth + j.depth ≤ maxDepth
  items : ∀ depth cs js, depth ≤ maxDepth →
    Source.documents? (readItems fuel depth cs).1 = some js → depth + depthItems js ≤ maxDepth
  members : ∀ depth cs ms, depth ≤ maxDepth →
    Source.memberDocuments? (readMembers fuel depth cs).1 = some ms →
      depth + depthMembers ms ≤ maxDepth

theorem readsShallow_zero : ReadsShallow 0 where
  value := fun _ _ _ _ h => by cases h
  items := fun _ _ _ _ h => by cases h
  members := fun _ _ _ _ h => by cases h

theorem depth_of_array {depth : Nat} {ss : List Source} {j : Json}
    (h : (atDepth (depth + 1) (.array ss)).document? = some j)
    (hitems : depth + 1 ≤ maxDepth → ∀ js, Source.documents? ss = some js →
      depth + 1 + depthItems js ≤ maxDepth) : depth + j.depth ≤ maxDepth := by
  obtain ⟨hle, hdoc⟩ := document?_atDepth_eq_some h
  rw [Source.document?, Option.map_eq_some_iff] at hdoc
  obtain ⟨js, hjs, rfl⟩ := hdoc
  have := hitems hle js hjs
  rw [Json.depth]
  omega

theorem depth_of_object {depth : Nat} {ss : List (String × Source)} {j : Json}
    (h : (atDepth (depth + 1) (.object ss)).document? = some j)
    (hmembers : depth + 1 ≤ maxDepth → ∀ ms, Source.memberDocuments? ss = some ms →
      depth + 1 + depthMembers ms ≤ maxDepth) : depth + j.depth ≤ maxDepth := by
  obtain ⟨hle, hdoc⟩ := document?_atDepth_eq_some h
  rw [Source.document?, Option.map_eq_some_iff] at hdoc
  obtain ⟨ms, hms, rfl⟩ := hdoc
  have := hmembers hle ms hms
  rw [Json.depth]
  omega

theorem ReadsShallow.value_succ {fuel : Nat} (ih : ReadsShallow fuel) {depth : Nat}
    {cs : List Char} {j : Json} (hdepth : depth ≤ maxDepth)
    (h : (readValue (fuel + 1) depth cs).1.document? = some j) : depth + j.depth ≤ maxDepth := by
  rw [readValue] at h
  split at h
  · cases h
    exact hdepth
  · cases h
    exact hdepth
  · cases h
    exact hdepth
  · split at h
    · cases h
      exact hdepth
    · cases h
    · cases h
  · split at h
    · exact depth_of_array h fun hle js hjs => by
        cases hjs
        exact hle
    · exact depth_of_array h fun hle js hjs => ih.items _ _ js hle hjs
  · split at h
    · exact depth_of_object h fun hle js hjs => by
        cases hjs
        exact hle
    · exact depth_of_object h fun hle js hjs => ih.members _ _ js hle hjs
  · split at h
    · split at h
      · cases h
        exact hdepth
      · cases h
    · cases h

theorem ReadsShallow.items_succ {fuel : Nat} (ih : ReadsShallow fuel) {depth : Nat}
    {cs : List Char} {js : List Json} (hdepth : depth ≤ maxDepth)
    (h : Source.documents? (readItems (fuel + 1) depth cs).1 = some js) :
    depth + depthItems js ≤ maxDepth := by
  rw [readItems] at h
  split at h
  · obtain ⟨_, _, _, hbroken, _⟩ := documents?_cons_eq_some h
    cases hbroken
  · next s rest hvalue =>
    have hs : ∀ i, s.document? = some i → depth + i.depth ≤ maxDepth := fun i hi =>
      ih.value depth cs i hdepth (by rw [hvalue]; exact hi)
    split at h
    · obtain ⟨i, is, hi, his, rfl⟩ := documents?_cons_eq_some h
      cases his
      have := hs i hi
      rw [depthItems, depthItems]
      omega
    · obtain ⟨i, is, hi, his, rfl⟩ := documents?_cons_eq_some h
      have := hs i hi
      have := ih.items depth _ is hdepth his
      rw [depthItems]
      omega
    · obtain ⟨_, _, _, hbroken, _⟩ := documents?_cons_eq_some h
      cases hbroken

theorem ReadsShallow.members_succ {fuel : Nat} (ih : ReadsShallow fuel) {depth : Nat}
    {cs : List Char} {ms : List (String × Json)} (hdepth : depth ≤ maxDepth)
    (h : Source.memberDocuments? (readMembers (fuel + 1) depth cs).1 = some ms) :
    depth + depthMembers ms ≤ maxDepth := by
  rw [readMembers] at h
  split at h
  · split at h
    · cases h
    · next k _ _ =>
      split at h
      · split at h
        · obtain ⟨_, _, _, hbroken, _⟩ := memberDocuments?_consMember_eq_some h
          cases hbroken
        · next s rest hvalue =>
          have hs : ∀ i, s.document? = some i → depth + i.depth ≤ maxDepth := fun i hi =>
            ih.value depth _ i hdepth (by rw [hvalue]; exact hi)
          split at h
          · obtain ⟨i, is, hi, his, hms⟩ := memberDocuments?_consMember_eq_some h
            cases his
            have := hs i hi
            rw [hms, depthMembers]
            omega
          · obtain ⟨i, is, hi, his, hms⟩ := memberDocuments?_consMember_eq_some h
            have := hs i hi
            have := ih.members depth _ is hdepth his
            rw [hms]
            omega
          · obtain ⟨_, _, _, hbroken, _⟩ := memberDocuments?_consMember_eq_some h
            cases hbroken
      · cases h
  · cases h

theorem readsShallow (fuel : Nat) : ReadsShallow fuel := by
  induction fuel with
  | zero => exact readsShallow_zero
  | succ fuel ih => exact ⟨fun _ _ _ => ih.value_succ, fun _ _ _ => ih.items_succ,
      fun _ _ _ => ih.members_succ⟩

/-- Whatever a text stands for is not nested too deep. -/
theorem depth_le_of_ofText? {text : String} {j : Json} (h : ofText? text = some j) :
    j.depth ≤ maxDepth := by
  unfold ofText? Source.ofText? at h
  dsimp only at h
  split at h
  · have := (readsShallow _).value 0 _ j (Nat.zero_le _) h
    omega
  · cases h

/-! ## Too large -/

/-- The literal is rounded past the largest real, by one exact rounding. A reader that only does its
best can refuse literals just below this bound, such as `1.7976931348623158e308`. -/
def Literal.Overflows (l : Literal) : Prop :=
  Binary64.DecimalOverflows (numeral (l.whole ++ l.fraction.getD []))
    (l.exponent.getD 0 - (l.fraction.getD []).length)

instance (l : Literal) : Decidable l.Overflows :=
  inferInstanceAs (Decidable (Binary64.DecimalOverflows _ _))

theorem Literal.real?_eq_none_iff (l : Literal) : l.real? = none ↔ l.Overflows := by
  unfold real?
  dsimp only
  by_cases h : l.Overflows
  · rw [Binary64.ofDecimal_overflows l.negative h]
    exact iff_of_true rfl h
  · obtain ⟨r, hr⟩ := Binary64.ofDecimal_fits l.negative h
    rw [hr]
    exact iff_of_false (fun hnone => by cases hnone) h

theorem Number.natAbs_lt_of_ofInt? {i : Int} {n : Number} (h : Number.ofInt? i = some n) :
    i.natAbs < 0x10000000000000000 := by
  unfold ofInt? at h
  split at h
  · omega
  · cases h

/-- An integer of 64 bits is far below the largest real. -/
theorem Literal.not_overflows_of_lt {l : Literal} (hfraction : l.fraction = none)
    (hexponent : l.exponent = none) (h : numeral l.whole < 0x10000000000000000) :
    ¬ l.Overflows := by
  have hbound : 0x10000000000000000 < 0x3fffffffffffff * twoTo 970 := by decide +kernel
  have hwhole : l.whole ++ l.fraction.getD [] = l.whole := by
    rw [hfraction]
    exact List.append_nil _
  have hplaces : l.exponent.getD 0 - (l.fraction.getD []).length = 0 := by
    rw [hfraction, hexponent]
    rfl
  have hnone : tenTo (-0 : Int).toNat = 1 := rfl
  have hone : tenTo (0 : Int).toNat = 1 := rfl
  unfold Overflows Binary64.DecimalOverflows Binary64.Overflows
  rw [hwhole, hplaces, hnone, hone, Nat.mul_one, Nat.mul_one]
  omega

theorem Literal.number?_eq_none_iff (l : Literal) : l.number? = none ↔ l.Overflows := by
  unfold number?
  split
  · next hform =>
    simp only [Bool.and_eq_true, Option.isNone_iff_eq_none] at hform
    dsimp only
    split
    · exact l.real?_eq_none_iff
    · split
      · next i hi =>
        refine iff_of_false (fun hnone => by cases hnone) ?_
        have hfits := Number.natAbs_lt_of_ofInt? hi
        exact not_overflows_of_lt hform.1 hform.2 (by split at hfits <;> omega)
      · exact l.real?_eq_none_iff
  · exact l.real?_eq_none_iff

/-- The text is a number between blanks. -/
def Literal.IsIn (l : Literal) (text : String) : Prop :=
  ∃ rest, readLiteral (skipSpace text.toList) = some (l, rest) ∧ skipSpace rest = []

theorem Literal.IsIn.ofText?_eq {l : Literal} {text : String} (h : l.IsIn text) :
    ofText? text = l.source.document? := by
  obtain ⟨rest, hread, hend⟩ := h
  have hlast : isEnd (some rest) = true := by
    show (skipSpace rest).isEmpty = true
    rw [hend]
    rfl
  unfold ofText? Source.ofText? scan
  dsimp only
  rw [readValue_literal _ _ hread, if_pos hlast]
  rfl

/-- Exactly the numbers that are too large stand for nothing. -/
theorem Literal.IsIn.ofText?_eq_none_iff {l : Literal} {text : String} (h : l.IsIn text) :
    ofText? text = none ↔ l.Overflows := by
  rw [h.ofText?_eq, ← l.number?_eq_none_iff]
  unfold source
  cases l.number? with
  | none => exact iff_of_true rfl rfl
  | some n => exact iff_of_false (fun hnone => by cases hnone) (fun hnone => by cases hnone)

end Json

end Verdict
