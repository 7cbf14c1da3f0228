import Verdict.Value.Basic
import Verdict.Decimal.Shortest
import Verdict.Text.Quoted

/-
  Values as they are shown in labels and messages. A real always has a point or is named, so it is
  never shown like an integer; a text stands in quotation marks, so it is never shown like
  anything else.
-/
namespace Verdict

namespace Finite64

/-- The exact digits of an integral number, else the fewest digits that read back, in both cases
around a point. -/
def showMagnitude (r : Finite64) : List Char :=
  if r.isIntegral then Decimal.digitChars (r.units / unitsPerOne) ++ ['.', '0']
  else (Decimal.shortest .up r).positional

def showChars (r : Finite64) : List Char :=
  if r.negative then '-' :: r.showMagnitude else r.showMagnitude

end Finite64

namespace Value

def showInt (i : Int) : List Char :=
  if i < 0 then '-' :: Decimal.digitChars i.natAbs else Decimal.digitChars i.natAbs

def showReal : Binary64 → List Char
  | .nan => ['N', 'a', 'N']
  | .infinite false => ['i', 'n', 'f']
  | .infinite true => ['-', 'i', 'n', 'f']
  | .finite r => r.showChars

mutual
/-- The characters of a value as it is shown. -/
def showChars : Value → List Char
  | integer i => showInt i.toInt
  | real r => showReal r
  | text s => (Text.quote s).toList
  | boolean b => if b then ['t', 'r', 'u', 'e'] else ['f', 'a', 'l', 's', 'e']
  | sequence [] => ['[', ']']
  | sequence (v :: vs) => '[' :: showChars v ++ showItems vs
  | absent => ['a', 'b', 's', 'e', 'n', 't']

/-- The items after the first, and the closing bracket. -/
def showItems : List Value → List Char
  | [] => [']']
  | v :: vs => ',' :: ' ' :: showChars v ++ showItems vs
end

/-- The value as it is shown. -/
def display (v : Value) : String := String.ofList v.showChars

end Value

end Verdict
