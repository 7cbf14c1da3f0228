import Verdict.Json.Record
import Verdict.Proofs.Json.Number
import Verdict.Proofs.Json.Text

/-
  Compact texts read back. `ReadsBack j` says that the text of `j` is read as `j` at every place,
  except that a container that lies too deep there is refused (`sourceAt`), when nothing that
  follows goes on with a number and there is fuel for two calls a character. It holds of every
  leaf, and of a container when it holds of what is inside (`readsBack_array`,
  `readsBack_object`), so it holds of every document. Main statements: `ofText?_compact` gives
  back a document from its text, and `decode_compact` reads the text as its reader reads the
  document, if it is not nested too deep; `decode_compact_sourceAt` has the other texts too.
-/
namespace Verdict

namespace Json

universe u

/-! ## Beginnings and ends -/

theorem skipSpace_cons {c : Char} (h : isSpace c = false) (cs : List Char) :
    skipSpace (c :: cs) = c :: cs := by
  have hc : ¬ isSpace c = true := by
    rw [h]
    decide
  exact List.dropWhile_cons_of_neg hc

theorem isSpace_of_number {c : Char} (h : c = '-' ∨ c.isDigit = true) : isSpace c = false := by
  refine Bool.eq_false_iff.2 fun hspace => ?_
  simp only [isSpace, Bool.or_eq_true, decide_eq_true_eq] at hspace
  rcases hspace with ((rfl | rfl) | rfl) | rfl <;> exact absurd h (by decide)

/-- A document starts with no blank and with no closing bracket. -/
theorem writeCompact_head (j : Json) :
    ∃ c rest, writeCompact j = c :: rest ∧ isSpace c = false ∧ c ≠ ']' := by
  match j with
  | .null => exact ⟨_, _, rfl, by decide, by decide⟩
  | .boolean true => exact ⟨_, _, rfl, by decide, by decide⟩
  | .boolean false => exact ⟨_, _, rfl, by decide, by decide⟩
  | .number n =>
    obtain ⟨c, rest, hn, hc⟩ := writeNumber_head n
    refine ⟨c, rest, hn, isSpace_of_number hc, ?_⟩
    rintro rfl
    exact absurd hc (by decide)
  | .text s => exact ⟨_, _, rfl, by decide, by decide⟩
  | .array [] => exact ⟨_, _, rfl, by decide, by decide⟩
  | .array (_ :: _) => exact ⟨_, _, rfl, by decide, by decide⟩
  | .object [] => exact ⟨_, _, rfl, by decide, by decide⟩
  | .object ((_, _) :: _) => exact ⟨_, _, rfl, by decide, by decide⟩

theorem length_writeCompact_pos (j : Json) : 0 < (writeCompact j).length := by
  obtain ⟨c, rest, hj, -⟩ := writeCompact_head j
  rw [hj]
  exact Nat.succ_pos _

theorem writeText_append (s : String) (cs : List Char) :
    writeText s ++ cs = '"' :: (s.toList.flatMap escape ++ '"' :: cs) := by
  simp [writeText]

theorem endsNumber_writeItems (js : List Json) (cs : List Char) :
    EndsNumber (writeItems js ++ cs) := by
  cases js with
  | nil => exact endsNumber_cons (by decide) _
  | cons j js => exact endsNumber_cons (by decide) _

theorem endsNumber_writeMembers (ms : List (String × Json)) (cs : List Char) :
    EndsNumber (writeMembers ms ++ cs) := by
  cases ms with
  | nil => exact endsNumber_cons (by decide) _
  | cons m ms => exact endsNumber_cons (by decide) _

theorem writeItems_cons_append (j : Json) (js : List Json) (cs : List Char) :
    writeItems (j :: js) ++ cs = ',' :: (writeCompact j ++ (writeItems js ++ cs)) := by
  simp [writeItems]

theorem writeMembers_cons_append (k : String) (j : Json) (ms : List (String × Json))
    (cs : List Char) :
    writeMembers ((k, j) :: ms) ++ cs =
      ',' :: (writeText k ++ ':' :: (writeCompact j ++ (writeMembers ms ++ cs))) := by
  simp [writeMembers]

/-! ## One call -/

theorem readValue_quote (fuel depth : Nat) {cs rest : List Char} {s : String}
    (h : readText cs = some (some s, rest)) :
    readValue (fuel + 1) depth ('"' :: cs) = (.text s, some rest) := by
  simp [readValue, skipSpace_cons, isSpace, h]

/-- What a literal is read as. -/
def Literal.source (l : Literal) : Source :=
  match l.number? with
  | some n => .number n
  | none => .refused

theorem readValue_literal (fuel depth : Nat) {cs rest : List Char} {l : Literal}
    (hread : readLiteral (skipSpace cs) = some (l, rest)) :
    readValue (fuel + 1) depth cs = (l.source, some rest) := by
  obtain ⟨c, ds, hcs, hc⟩ := readLiteral_head hread
  rw [hcs] at hread
  rw [readValue, hcs]
  split
  -- no other value starts with a sign or a digit
  iterate 6
    next heq =>
      obtain ⟨rfl, -⟩ := List.cons.inj heq
      exact absurd hc (by decide)
  rw [hread]
  unfold Literal.source
  dsimp only
  cases l.number? <;> rfl

theorem readValue_bracket (fuel depth : Nat) {c : Char} (hspace : isSpace c = false)
    (hc : c ≠ ']') (cs : List Char) :
    readValue (fuel + 1) depth ('[' :: c :: cs) =
      (atDepth (depth + 1) (.array (readItems fuel (depth + 1) (c :: cs)).1),
        (readItems fuel (depth + 1) (c :: cs)).2) := by
  have hopen : isSpace '[' = false := by decide
  simp only [readValue, skipSpace_cons hopen, skipSpace_cons hspace]
  split
  · next heq => exact absurd (List.cons.inj heq).1 hc
  · rfl

theorem readValue_brace (fuel depth : Nat) (cs : List Char) :
    readValue (fuel + 1) depth ('{' :: '"' :: cs) =
      (atDepth (depth + 1) (.object (readMembers fuel (depth + 1) ('"' :: cs)).1),
        (readMembers fuel (depth + 1) ('"' :: cs)).2) := rfl

theorem readItems_last {fuel depth : Nat} {cs rest : List Char} {s : Source}
    (h : readValue fuel depth cs = (s, some (']' :: rest))) :
    readItems (fuel + 1) depth cs = ([s], some rest) := by
  rw [readItems, h]
  rfl

theorem readItems_comma {fuel depth : Nat} {cs rest : List Char} {s : Source}
    (h : readValue fuel depth cs = (s, some (',' :: rest))) :
    readItems (fuel + 1) depth cs =
      (s :: (readItems fuel depth rest).1, (readItems fuel depth rest).2) := by
  rw [readItems, h]
  rfl

theorem readMembers_last {fuel depth : Nat} {cs₁ cs₂ rest : List Char} {k : String} {s : Source}
    (hk : readText cs₁ = some (some k, ':' :: cs₂))
    (h : readValue fuel depth cs₂ = (s, some ('}' :: rest))) :
    readMembers (fuel + 1) depth ('"' :: cs₁) = ([(k, s)], some rest) := by
  simp [readMembers, skipSpace_cons, isSpace, hk, h, consMember]

theorem readMembers_comma {fuel depth : Nat} {cs₁ cs₂ rest : List Char} {k : String} {s : Source}
    (hk : readText cs₁ = some (some k, ':' :: cs₂))
    (h : readValue fuel depth cs₂ = (s, some (',' :: rest))) :
    readMembers (fuel + 1) depth ('"' :: cs₁) =
      ((k, s) :: (readMembers fuel depth rest).1, (readMembers fuel depth rest).2) := by
  simp [readMembers, skipSpace_cons, isSpace, hk, h, consMember]

theorem atDepth_of_le {depth : Nat} (h : depth ≤ maxDepth) (s : Source) : atDepth depth s = s :=
  if_pos h

theorem atDepth_of_lt {depth : Nat} (h : maxDepth < depth) (s : Source) :
    atDepth depth s = .refused := if_neg (Nat.not_le.2 h)

/-! ## Containers that lie too deep -/

mutual
/-- A document as it is read inside `depth` containers: those that lie too deep are refused. -/
def sourceAt : Nat → Json → Source
  | _, .null => .null
  | _, .boolean b => .boolean b
  | _, .number n => .number n
  | _, .text s => .text s
  | depth, .array items => atDepth (depth + 1) (.array (sourcesAt (depth + 1) items))
  | depth, .object members => atDepth (depth + 1) (.object (memberSourcesAt (depth + 1) members))

def sourcesAt : Nat → List Json → List Source
  | _, [] => []
  | depth, j :: js => sourceAt depth j :: sourcesAt depth js

def memberSourcesAt : Nat → List (String × Json) → List (String × Source)
  | _, [] => []
  | depth, (k, j) :: ms => (k, sourceAt depth j) :: memberSourcesAt depth ms
end

mutual
/-- Where it is not nested too deep, nothing of a document is refused. -/
theorem sourceAt_of_le :
    (j : Json) → (depth : Nat) → depth + j.depth ≤ maxDepth → sourceAt depth j = j.source
  | .null, _, _ | .boolean _, _, _ | .number _, _, _ | .text _, _, _ => rfl
  | .array items, depth, h => by
    rw [Json.depth] at h
    have hitems := sourcesAt_of_le items (depth + 1) (by omega)
    rw [sourceAt, hitems, atDepth_of_le (by omega), source]
  | .object members, depth, h => by
    rw [Json.depth] at h
    have hmembers := memberSourcesAt_of_le members (depth + 1) (by omega)
    rw [sourceAt, hmembers, atDepth_of_le (by omega), source]

theorem sourcesAt_of_le :
    (js : List Json) → (depth : Nat) → depth + depthItems js ≤ maxDepth →
      sourcesAt depth js = sources js
  | [], _, _ => rfl
  | j :: js, depth, h => by
    rw [depthItems] at h
    rw [sourcesAt, sourceAt_of_le j depth (by omega), sourcesAt_of_le js depth (by omega), sources]

theorem memberSourcesAt_of_le :
    (ms : List (String × Json)) → (depth : Nat) → depth + depthMembers ms ≤ maxDepth →
      memberSourcesAt depth ms = memberSources ms
  | [], _, _ => rfl
  | (k, j) :: ms, depth, h => by
    rw [depthMembers] at h
    rw [memberSourcesAt, sourceAt_of_le j depth (by omega),
      memberSourcesAt_of_le ms depth (by omega), memberSources]
end

/-! ## One document -/

/-- The text of the document is read as the document, but for containers that lie too deep. -/
def ReadsBack (j : Json) : Prop :=
  ∀ fuel depth cs, 2 * (writeCompact j).length ≤ fuel + 1 → EndsNumber cs →
    readValue (fuel + 1) depth (writeCompact j ++ cs) = (j.sourceAt depth, some cs)

theorem readsBack_null : ReadsBack .null := fun _ _ _ _ _ => rfl

theorem readsBack_boolean (b : Bool) : ReadsBack (.boolean b) := by
  intro fuel depth cs _ _
  cases b <;> rfl

theorem readsBack_text (s : String) : ReadsBack (.text s) := by
  intro fuel depth cs _ _
  rw [writeCompact, writeText_append]
  exact readValue_quote fuel depth (readText_writeText s cs)

theorem readsBack_number (n : Number) : ReadsBack (.number n) := by
  intro fuel depth cs _ hcs
  obtain ⟨l, hread, hnumber⟩ := readLiteral_writeNumber n hcs
  obtain ⟨c, rest, hn, hc⟩ := writeNumber_head n
  rw [writeCompact, hn]
  rw [hn, List.cons_append, ← skipSpace_cons (isSpace_of_number hc)] at hread
  refine (readValue_literal fuel depth hread).trans ?_
  rw [Literal.source, hnumber]
  rfl

theorem readsBack_emptyArray : ReadsBack (.array []) := fun _ _ _ _ _ => rfl

theorem readsBack_emptyObject : ReadsBack (.object []) := fun _ _ _ _ _ => rfl

theorem exists_succ_of_fuel {j : Json} {n fuel : Nat}
    (h : 2 * ((writeCompact j).length + n) ≤ fuel + 1) : ∃ m, fuel = m + 1 := by
  have := length_writeCompact_pos j
  exact ⟨fuel - 1, by omega⟩

/-- Items are read back one after the other. -/
theorem readItems_writeItems {j : Json} {js : List Json} (hj : ReadsBack j)
    (hjs : ∀ i ∈ js, ReadsBack i) (fuel depth : Nat)
    (hfuel : 2 * ((writeCompact j).length + (writeItems js).length) ≤ fuel + 1)
    (cs : List Char) :
    readItems (fuel + 1) depth (writeCompact j ++ (writeItems js ++ cs)) =
      (sourcesAt depth (j :: js), some cs) := by
  -- on the items behind the first: the comma before each pays for the call that reads on
  induction js generalizing j fuel with
  | nil =>
    obtain ⟨fuel, rfl⟩ := exists_succ_of_fuel hfuel
    rw [writeItems, List.length_singleton] at hfuel
    exact readItems_last (hj fuel depth _ (by omega) (endsNumber_writeItems [] cs))
  | cons i js ih =>
    obtain ⟨fuel, rfl⟩ := exists_succ_of_fuel hfuel
    rw [writeItems, List.length_append, List.length_cons] at hfuel
    have hread := hj fuel depth (writeItems (i :: js) ++ cs) (by omega)
      (endsNumber_writeItems _ cs)
    obtain ⟨hi, hjs⟩ := List.forall_mem_cons.1 hjs
    have hrest := ih hi hjs fuel (by omega)
    rw [writeItems_cons_append] at hread ⊢
    rw [readItems_comma hread, hrest]
    rfl

/-- Members are read back one after the other. -/
theorem readMembers_writeMembers {k : String} {j : Json} {ms : List (String × Json)}
    (hj : ReadsBack j) (hms : ∀ m ∈ ms, ReadsBack m.2) (fuel depth : Nat)
    (hfuel : 2 * ((writeCompact j).length + (writeMembers ms).length) ≤ fuel + 1)
    (cs : List Char) :
    readMembers (fuel + 1) depth
        (writeText k ++ ':' :: (writeCompact j ++ (writeMembers ms ++ cs))) =
      (memberSourcesAt depth ((k, j) :: ms), some cs) := by
  induction ms generalizing k j fuel with
  | nil =>
    obtain ⟨fuel, rfl⟩ := exists_succ_of_fuel hfuel
    rw [writeMembers, List.length_singleton] at hfuel
    rw [writeText_append]
    exact readMembers_last (readText_writeText k _)
      (hj fuel depth _ (by omega) (endsNumber_writeMembers [] cs))
  | cons m ms ih =>
    obtain ⟨l, i⟩ := m
    obtain ⟨fuel, rfl⟩ := exists_succ_of_fuel hfuel
    rw [writeMembers, List.length_append, List.length_append, List.length_cons, List.length_cons]
      at hfuel
    have hread := hj fuel depth (writeMembers ((l, i) :: ms) ++ cs) (by omega)
      (endsNumber_writeMembers _ cs)
    obtain ⟨hi, hms⟩ := List.forall_mem_cons.1 hms
    have hrest := @ih l i hi hms fuel (by omega)
    rw [writeMembers_cons_append] at hread ⊢
    rw [writeText_append, readMembers_comma (readText_writeText k _) hread, hrest]
    rfl

theorem readsBack_array {j : Json} {js : List Json} (hj : ReadsBack j)
    (hjs : ∀ i ∈ js, ReadsBack i) : ReadsBack (.array (j :: js)) := by
  intro fuel depth cs hfuel _
  rw [writeCompact, List.length_append, List.length_cons] at hfuel
  obtain ⟨fuel, rfl⟩ : ∃ n, fuel = n + 1 := ⟨fuel - 1, by omega⟩
  obtain ⟨c, rest, hhead, hspace, hc⟩ := writeCompact_head j
  have hread := readItems_writeItems hj hjs fuel (depth + 1) (by omega) cs
  rw [writeCompact, List.append_assoc, List.cons_append]
  rw [hhead, List.cons_append] at hread ⊢
  rw [readValue_bracket (fuel + 1) depth hspace hc, hread]
  rfl

theorem readsBack_object {k : String} {j : Json} {ms : List (String × Json)} (hj : ReadsBack j)
    (hms : ∀ m ∈ ms, ReadsBack m.2) : ReadsBack (.object ((k, j) :: ms)) := by
  intro fuel depth cs hfuel _
  rw [writeCompact, List.length_append, List.length_append, List.length_cons, List.length_cons]
    at hfuel
  obtain ⟨fuel, rfl⟩ : ∃ n, fuel = n + 1 := ⟨fuel - 1, by omega⟩
  have hread := readMembers_writeMembers (k := k) hj hms fuel (depth + 1) (by omega) cs
  have hshape : writeCompact (.object ((k, j) :: ms)) ++ cs =
      '{' :: (writeText k ++ ':' :: (writeCompact j ++ (writeMembers ms ++ cs))) := by
    simp [writeCompact]
  rw [hshape]
  rw [writeText_append] at hread ⊢
  rw [readValue_brace, hread]
  rfl

/-! ## Every document -/

mutual
theorem readsBack : (j : Json) → ReadsBack j
  | .null => readsBack_null
  | .boolean b => readsBack_boolean b
  | .number n => readsBack_number n
  | .text s => readsBack_text s
  | .array [] => readsBack_emptyArray
  | .array (j :: js) => readsBack_array (readsBack j) (readsBack_items js)
  | .object [] => readsBack_emptyObject
  | .object ((_, j) :: ms) => readsBack_object (readsBack j) (readsBack_members ms)

theorem readsBack_items : (js : List Json) → ∀ j ∈ js, ReadsBack j
  | [] => fun _ h => absurd h List.not_mem_nil
  | j :: js => List.forall_mem_cons.2 ⟨readsBack j, readsBack_items js⟩

theorem readsBack_members : (ms : List (String × Json)) → ∀ m ∈ ms, ReadsBack m.2
  | [] => fun _ h => absurd h List.not_mem_nil
  | (_, j) :: ms => List.forall_mem_cons.2 ⟨readsBack j, readsBack_members ms⟩
end

/-- A scan of the compact text ends with the text. -/
theorem scan_compact (j : Json) : scan (compact j) = (j.sourceAt 0, some []) := by
  have hread := readsBack j (2 * (writeCompact j).length + 1) 0 [] (by omega) endsNumber_nil
  rw [List.append_nil] at hread
  unfold scan compact
  rw [String.toList_ofList]
  exact hread

/-- A reader finds the document in its compact text, but for containers that lie too deep. -/
theorem decode_compact_sourceAt {α : Type u} (read : Source → Except Fault α) (j : Json) :
    decode read (compact j) = read (j.sourceAt 0) := by
  unfold decode
  rw [scan_compact]
  dsimp only
  cases read (j.sourceAt 0) <;> rfl

/-- A document that is not nested too deep is the document of its compact text. -/
theorem ofText?_compact {j : Json} (h : j.depth ≤ maxDepth) : ofText? (compact j) = some j := by
  unfold ofText? Source.ofText?
  rw [scan_compact, sourceAt_of_le j 0 (by omega)]
  exact document?_source j

/-- A reader finds the document in its compact text. -/
theorem decode_compact {α : Type u} (read : Source → Except Fault α) {j : Json}
    (h : j.depth ≤ maxDepth) : decode read (compact j) = read j.source := by
  rw [decode_compact_sourceAt, sourceAt_of_le j 0 (by omega)]

end Json

end Verdict
