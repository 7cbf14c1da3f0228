import Verdict.Json.Basic
import Verdict.Decimal.Shortest

/-
  Written documents: a compact form without blanks, and one that gives every item its line under
  an indentation of two. Reals are written with the fewest digits that read back, and always so
  that they are not read as integers.
-/
namespace Verdict

namespace Json

/-- A character inside quotation marks: marks, backslashes and controls are escaped. -/
def escape (c : Char) : List Char :=
  if c = '"' then ['\\', '"']
  else if c = '\\' then ['\\', '\\']
  else if c = '\n' then ['\\', 'n']
  else if c = '\r' then ['\\', 'r']
  else if c = '\t' then ['\\', 't']
  else if c = '\x08' then ['\\', 'b']
  else if c = '\x0c' then ['\\', 'f']
  else if c.toNat < 0x20 then
    ['\\', 'u', '0', '0', Nat.digitChar (c.toNat / 16), Nat.digitChar (c.toNat % 16)]
  else [c]

/-- A text between quotation marks. -/
def writeText (s : String) : List Char := '"' :: s.toList.flatMap escape ++ ['"']

/-- The magnitude of a real: digits around a point when the first digit stands between the fifth
place after the point and the sixteenth before it, else with an exponent. -/
def writeMagnitude (r : Finite64) : List Char :=
  if r.isZero then ['0', '.', '0']
  else
    let d := Decimal.shortest .even r
    if -5 ≤ d.leading ∧ d.leading < 16 then
      if 0 ≤ d.exponent then d.positional ++ ['.', '0'] else d.positional
    else d.scientific

def writeReal (r : Finite64) : List Char :=
  if r.negative then '-' :: writeMagnitude r else writeMagnitude r

/-- An integer in decimal digits. -/
def writeInt (i : Int) : List Char :=
  if i < 0 then '-' :: Decimal.digitChars i.natAbs else Decimal.digitChars i.natAbs

def writeNumber : Number → List Char
  | .integer i => writeInt i.val
  | .real r => writeReal r

def writeBoolean (b : Bool) : List Char :=
  if b then ['t', 'r', 'u', 'e'] else ['f', 'a', 'l', 's', 'e']

def writeNull : List Char := ['n', 'u', 'l', 'l']

/-! ## The compact form -/

mutual
def writeCompact : Json → List Char
  | .null => writeNull
  | .boolean b => writeBoolean b
  | .number n => writeNumber n
  | .text s => writeText s
  | .array [] => ['[', ']']
  | .array (j :: js) => '[' :: writeCompact j ++ writeItems js
  | .object [] => ['{', '}']
  | .object ((k, j) :: ms) => '{' :: writeText k ++ ':' :: writeCompact j ++ writeMembers ms

/-- The items after the first, and the closing bracket. -/
def writeItems : List Json → List Char
  | [] => [']']
  | j :: js => ',' :: writeCompact j ++ writeItems js

/-- The members after the first, and the closing brace. -/
def writeMembers : List (String × Json) → List Char
  | [] => ['}']
  | (k, j) :: ms => ',' :: writeText k ++ ':' :: writeCompact j ++ writeMembers ms
end

/-- The compact text of a document. -/
def compact (j : Json) : String := String.ofList (writeCompact j)

/-! ## The indented form -/

/-- A new line indented by `n` steps. -/
def newLine (n : Nat) : List Char := '\n' :: List.replicate (2 * n) ' '

mutual
/-- The document under an indentation of `n` steps; its first line is not indented. -/
def writePretty (n : Nat) : Json → List Char
  | .null => writeNull
  | .boolean b => writeBoolean b
  | .number m => writeNumber m
  | .text s => writeText s
  | .array [] => ['[', ']']
  | .array (j :: js) =>
    '[' :: newLine (n + 1) ++ writePretty (n + 1) j ++ writePrettyItems n js
  | .object [] => ['{', '}']
  | .object ((k, j) :: ms) =>
    '{' :: newLine (n + 1) ++ writeText k ++ ':' :: ' ' :: writePretty (n + 1) j ++
      writePrettyMembers n ms

def writePrettyItems (n : Nat) : List Json → List Char
  | [] => newLine n ++ [']']
  | j :: js => ',' :: newLine (n + 1) ++ writePretty (n + 1) j ++ writePrettyItems n js

def writePrettyMembers (n : Nat) : List (String × Json) → List Char
  | [] => newLine n ++ ['}']
  | (k, j) :: ms =>
    ',' :: newLine (n + 1) ++ writeText k ++ ':' :: ' ' :: writePretty (n + 1) j ++
      writePrettyMembers n ms
end

/-- The indented text of a document. -/
def pretty (j : Json) : String := String.ofList (writePretty 0 j)

end Json

end Verdict
