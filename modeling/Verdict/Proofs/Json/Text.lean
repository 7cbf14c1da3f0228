import Verdict.Json.Reader
import Verdict.Json.Writer

/-
  Quoted texts read back. A character between quotation marks is written as itself, after a
  backslash, or as a unit of four hexadecimal digits, and is read as one part, which stands for it
  (`readPieces_escape`). No unit that is written is half of a surrogate pair, so the parts of a
  text can be joined one by one. `readText_writeText` is the statement on texts, with anything
  behind the closing mark.
-/
namespace Verdict

namespace Json

/-- The part stands for the character, whatever follows it. -/
def Piece.IsFor (p : Piece) (c : Char) : Prop := p = .char c ∨ p = .unit c.toNat ∧ c.toNat < 0x20

/-- The digits of a control that has no letter of its own. -/
theorem unit?_digitChar {n : Nat} (h : n < 0x20) :
    unit? '0' '0' (Nat.digitChar (n / 16)) (Nat.digitChar (n % 16)) = some n := by
  have hall : ∀ m < 0x20,
      unit? '0' '0' (Nat.digitChar (m / 16)) (Nat.digitChar (m % 16)) = some m := by decide
  exact hall n h

theorem readPieces_char {c : Char} (hmark : c ≠ '"') (hslash : c ≠ '\\') (h : 0x20 ≤ c.toNat)
    (done : List Piece) (cs : List Char) :
    readPieces done (c :: cs) = readPieces (.char c :: done) cs := by
  rw [readPieces.eq_def]
  split
  · next heq => cases heq
  · next heq => exact absurd (List.cons.inj heq).1 hmark
  · next heq => exact absurd (List.cons.inj heq).1 hslash
  · next heq => exact absurd (List.cons.inj heq).1 hslash
  · next heq =>
    obtain ⟨rfl, rfl⟩ := List.cons.inj heq
    rw [if_neg]
    rintro (hc | hc)
    · omega
    · exact hslash hc

/-- A character as it is written is read as one part. -/
theorem readPieces_escape (c : Char) (done : List Piece) (cs : List Char) :
    ∃ p : Piece, p.IsFor c ∧ readPieces done (escape c ++ cs) = readPieces (p :: done) cs := by
  by_cases hnamed : c ∈ ['"', '\\', '\n', '\r', '\t', '\x08', '\x0c']
  · refine ⟨.char c, Or.inl rfl, ?_⟩
    simp only [List.mem_cons, List.not_mem_nil, or_false] at hnamed
    rcases hnamed with rfl | rfl | rfl | rfl | rfl | rfl | rfl <;> rfl
  · simp only [List.mem_cons, List.not_mem_nil, or_false, not_or] at hnamed
    obtain ⟨hmark, hslash, hn, hr, ht, hb, hf⟩ := hnamed
    unfold escape
    rw [if_neg hmark, if_neg hslash, if_neg hn, if_neg hr, if_neg ht, if_neg hb, if_neg hf]
    by_cases h : c.toNat < 0x20
    · refine ⟨.unit c.toNat, Or.inr ⟨rfl, h⟩, ?_⟩
      rw [if_pos h]
      simp only [List.cons_append, List.nil_append, readPieces, unit?_digitChar h]
    · refine ⟨.char c, Or.inl rfl, ?_⟩
      rw [if_neg h]
      exact readPieces_char hmark hslash (Nat.le_of_not_lt h) done cs

theorem joinPieces_isFor {p : Piece} {c : Char} (h : p.IsFor c) (done : List Char)
    (ps : List Piece) : joinPieces done (p :: ps) = joinPieces (c :: done) ps := by
  rcases h with rfl | ⟨rfl, hlt⟩
  · rfl
  · have hhigh : isHigh c.toNat = false := by
      unfold isHigh
      rw [decide_eq_false (by omega), Bool.false_and]
    have hlow : isLow c.toNat = false := by
      unfold isLow
      rw [decide_eq_false (by omega), Bool.false_and]
    -- only the first unit of a pair is joined to the unit behind it
    match ps with
    | [] => simp [joinPieces, hhigh, hlow]
    | .char _ :: _ => simp [joinPieces, hhigh, hlow]
    | .unit _ :: _ => simp [joinPieces, hhigh, hlow]

/-- The parts of a text, and the characters that they are joined to. -/
theorem readPieces_flatMap (s : List Char) (done : List Piece) (cs : List Char) :
    ∃ ps : List Piece,
      readPieces done (s.flatMap escape ++ '"' :: cs) = some (done.reverse ++ ps, cs) ∧
      ∀ front : List Char, joinPieces front ps = some (front.reverse ++ s) := by
  induction s generalizing done with
  | nil =>
    refine ⟨[], ?_, fun front => ?_⟩
    · rw [List.append_nil]
      rfl
    · rw [List.append_nil]
      rfl
  | cons c s ih =>
    obtain ⟨p, hp, hread⟩ := readPieces_escape c done (s.flatMap escape ++ '"' :: cs)
    obtain ⟨ps, hps, hjoin⟩ := ih (p :: done)
    refine ⟨p :: ps, ?_, fun front => ?_⟩
    · rw [List.flatMap_cons, List.append_assoc, hread, hps, List.reverse_cons, List.append_assoc]
      rfl
    · rw [joinPieces_isFor hp, hjoin, List.reverse_cons, List.append_assoc]
      rfl

/-- A written text, from after its opening mark. -/
theorem readText_writeText (s : String) (cs : List Char) :
    readText (s.toList.flatMap escape ++ '"' :: cs) = some (some s, cs) := by
  obtain ⟨ps, hread, hjoin⟩ := readPieces_flatMap s.toList [] cs
  unfold readText
  rw [hread]
  dsimp only [Option.map_some, List.reverse_nil, List.nil_append]
  rw [hjoin]
  dsimp only [Option.map_some, List.reverse_nil, List.nil_append]
  rw [String.ofList_toList]

end Json

end Verdict
