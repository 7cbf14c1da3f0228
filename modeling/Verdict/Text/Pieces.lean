/-
  Cutting a text at a mark. There is always a first piece, so a text without the mark is one
  piece. `join_pieces` says that nothing is lost, `mark_not_mem_pieces` that no mark is left.
-/
namespace Verdict.Text

/-- The pieces of a text between marks: the first one and the others. -/
def pieces (mark : Char) : List Char → List Char × List (List Char)
  | [] => ([], [])
  | c :: cs =>
    let r := pieces mark cs
    if c = mark then ([], r.1 :: r.2) else (c :: r.1, r.2)

theorem pieces_nil (mark : Char) : pieces mark [] = ([], []) := rfl

theorem pieces_cons (mark c : Char) (cs : List Char) :
    pieces mark (c :: cs) =
      if c = mark then ([], (pieces mark cs).1 :: (pieces mark cs).2)
      else (c :: (pieces mark cs).1, (pieces mark cs).2) := rfl

/-- Pieces with marks between them. -/
def joinPieces (mark : Char) (first : List Char) (rest : List (List Char)) : List Char :=
  first ++ rest.flatMap fun p => mark :: p

theorem join_pieces (mark : Char) (cs : List Char) :
    joinPieces mark (pieces mark cs).1 (pieces mark cs).2 = cs := by
  induction cs with
  | nil => rfl
  | cons c cs ih =>
    rw [pieces_cons]
    split
    · next h => simpa [joinPieces, h] using ih
    · simpa [joinPieces] using ih

theorem mark_not_mem_pieces (mark : Char) (cs : List Char) :
    mark ∉ (pieces mark cs).1 ∧ ∀ p ∈ (pieces mark cs).2, mark ∉ p := by
  induction cs with
  | nil => simp [pieces_nil]
  | cons c cs ih =>
    rw [pieces_cons]
    split
    · exact ⟨by simp, List.forall_mem_cons.2 ih⟩
    · next h =>
      refine ⟨?_, ih.2⟩
      intro hc
      rcases List.mem_cons.1 hc with hc | hc
      · exact h hc.symm
      · exact ih.1 hc

theorem joinPieces_eq_intercalate (mark : Char) (first : List Char) (rest : List (List Char)) :
    joinPieces mark first rest = [mark].intercalate (first :: rest) := by
  induction rest generalizing first with
  | nil => simp [joinPieces]
  | cons p rest ih =>
    rw [List.intercalate_cons_cons, ← ih]
    simp [joinPieces]

theorem mark_not_mem_piece (mark : Char) (cs : List Char) :
    ∀ p ∈ (pieces mark cs).1 :: (pieces mark cs).2, mark ∉ p :=
  List.forall_mem_cons.2 (mark_not_mem_pieces mark cs)

/-- The pieces are what the marks divide. -/
theorem splitOn_eq_pieces (mark : Char) (cs : List Char) :
    cs.splitOn mark = (pieces mark cs).1 :: (pieces mark cs).2 := by
  have h := List.splitOn_intercalate mark (mark_not_mem_piece mark cs) (List.cons_ne_nil _ _)
  rw [← joinPieces_eq_intercalate, join_pieces] at h
  exact h

end Verdict.Text
