import Verdict.Json.Writer
import Verdict.Text.Pieces
import Verdict.Text.Width

/-
  Tables of documents: an array of objects, one row for each, under the names of the first object
  in its order. A member that a later object does not have is an empty cell, and one that the first
  object does not have is not shown.
-/
namespace Verdict

/-- Rows of cells under a header. -/
structure Table where
  header : List String
  rows : List (List String)
deriving DecidableEq

namespace Table

mutual
/-- A document in a cell: texts without quotation marks, arrays as lists, objects as a count. -/
def cell : Json → String
  | .null => ""
  | .boolean b => String.ofList (Json.writeBoolean b)
  | .number n => String.ofList (Json.writeNumber n)
  | .text s => s
  | .array items => ", ".intercalate (cells items)
  | .object members => "\x7b" ++ toString members.length ++ " fields\x7d"

def cells : List Json → List String
  | [] => []
  | j :: js => cell j :: cells js
end

/-- The cells of an object under a header. -/
def row? (header : List String) : Json → Option (List String)
  | .object members =>
    some (header.map fun k =>
      match Json.member? k members with
      | some j => cell j
      | none => "")
  | _ => none

/-- The rows of objects; none if an item is no object. -/
def rows? (header : List String) : List Json → Option (List (List String))
  | [] => some []
  | j :: js =>
    match row? header j, rows? header js with
    | some r, some rs => some (r :: rs)
    | _, _ => none

/-- The table of items, the first of which gives the header. -/
def ofItems? : List Json → Option Table
  | .object members :: js =>
    let header := members.map Prod.fst
    (rows? header (.object members :: js)).map fun rows => ⟨header, rows⟩
  | _ => none

/-! ## Layout -/

/-- The lines of a cell. -/
def lines (s : String) : List (List Char) :=
  let ps := Text.pieces '\n' s.toList
  ps.1 :: ps.2

/-- The columns of the widest line. -/
def cellWidth (s : String) : Nat := ((lines s).map Text.width).foldl max 0

/-- The columns of the widest cells at each place. -/
def widths (t : Table) : List Nat :=
  t.rows.foldl (fun ws r => List.zipWith max ws (r.map cellWidth)) (t.header.map cellWidth)

/-- A line of a cell with a blank at both sides, filled up to a width. -/
def field (n : Nat) (cs : List Char) : List Char :=
  ' ' :: cs ++ List.replicate (n - Text.width cs + 1) ' '

/-- Parts between two ends with marks between them. -/
def bordered (left mark right : Char) (parts : List (List Char)) : List Char :=
  left :: [mark].intercalate parts ++ [right]

/-- The number of lines of a row. -/
def height (r : List String) : Nat := (r.map fun s => (lines s).length).foldl max 1

/-- The lines of a row. -/
def rowLines (ws : List Nat) (r : List String) : List (List Char) :=
  (List.range (height r)).map fun i =>
    bordered '│' '│' '│' (List.zipWith (fun n s => field n ((lines s)[i]?.getD [])) ws r)

/-- A rule across all columns. -/
def rule (left mark right : Char) (ws : List Nat) : List Char :=
  bordered left mark right (ws.map fun n => List.replicate (n + 2) '─')

/-- The table in a frame with a rule between any two rows. -/
def render (t : Table) : String :=
  if t.header.isEmpty then ""
  else
    let ws := t.widths
    let body := (t.header :: t.rows).map (rowLines ws)
    let inner := [rule '├' '┼' '┤' ws].intercalate body
    String.ofList (['\n'].intercalate
      (rule '┌' '┬' '┐' ws :: inner ++ [rule '└' '┴' '┘' ws]))

end Table

/-- A document as a table, if it is an array of objects; an empty one is named. -/
def Json.table? : Json → Option String
  | .array [] => some "(empty list)"
  | .array items => (Table.ofItems? items).map Table.render
  | _ => none

end Verdict
