import Verdict.Json.Source

/-
  Reading JSON texts. Blanks are space, tab, line feed and carriage return; numbers have no
  leading zeros and no bare points; texts hold no raw controls; arrays and objects are nested at
  most 127 deep. Numbers are read exactly and rounded once. A text that breaks is read up to there,
  and everything that it breaks inside of ends with a mark. The recursion is bounded by the length
  of the text, because every call is followed by a character that is consumed.
-/
namespace Verdict

namespace Json

/-- Space, tab, line feed and carriage return. -/
def isSpace (c : Char) : Bool := c = ' ' || c = '\t' || c = '\n' || c = '\r'

def skipSpace (cs : List Char) : List Char := cs.dropWhile isSpace

/-! ## Texts -/

/-- A part of a quoted text: a character, or a 16-bit unit written in hexadecimal. -/
inductive Piece
  | char (c : Char)
  | unit (n : Nat)
deriving DecidableEq

/-- The value of a hexadecimal digit. -/
def hexDigit? (c : Char) : Option Nat :=
  if '0' ≤ c ∧ c ≤ '9' then some (c.toNat - 48)
  else if 'a' ≤ c ∧ c ≤ 'f' then some (c.toNat - 87)
  else if 'A' ≤ c ∧ c ≤ 'F' then some (c.toNat - 55)
  else none

/-- The unit that four hexadecimal digits stand for. -/
def unit? (a b c d : Char) : Option Nat :=
  match hexDigit? a, hexDigit? b, hexDigit? c, hexDigit? d with
  | some a, some b, some c, some d => some (((a * 16 + b) * 16 + c) * 16 + d)
  | _, _, _, _ => none

/-- The character that a letter stands for after a backslash. -/
def escaped? (c : Char) : Option Char :=
  if c = '"' ∨ c = '\\' ∨ c = '/' then some c
  else if c = 'b' then some '\x08'
  else if c = 'f' then some '\x0c'
  else if c = 'n' then some '\n'
  else if c = 'r' then some '\r'
  else if c = 't' then some '\t'
  else none

/-- The parts up to the closing mark behind those of `done`, the last first, and what follows
the mark. -/
def readPieces (done : List Piece) : List Char → Option (List Piece × List Char)
  | [] => none
  | '"' :: cs => some (done.reverse, cs)
  | '\\' :: 'u' :: a :: b :: c :: d :: cs =>
    match unit? a b c d with
    | some n => readPieces (.unit n :: done) cs
    | none => none
  | '\\' :: c :: cs =>
    match escaped? c with
    | some c => readPieces (.char c :: done) cs
    | none => none
  | c :: cs =>
    if c.toNat < 0x20 ∨ c = '\\' then none else readPieces (.char c :: done) cs

/-- The first unit of a surrogate pair. -/
def isHigh (n : Nat) : Bool := decide (0xd800 ≤ n) && decide (n ≤ 0xdbff)

/-- The second unit of a surrogate pair. -/
def isLow (n : Nat) : Bool := decide (0xdc00 ≤ n) && decide (n ≤ 0xdfff)

/-- The character of a surrogate pair. -/
def pairChar (n m : Nat) : Char := Char.ofNat (0x10000 + (n - 0xd800) * 0x400 + (m - 0xdc00))

/-- The characters of a quoted text behind those of `done`, the last first; none if half of a
surrogate pair stands alone. -/
def joinPieces (done : List Char) : List Piece → Option (List Char)
  | [] => some done.reverse
  | .char c :: ps => joinPieces (c :: done) ps
  | .unit n :: .unit m :: ps =>
    if isHigh n then
      if isLow m then joinPieces (pairChar n m :: done) ps else none
    else if isLow n then none
    else joinPieces (Char.ofNat n :: done) (.unit m :: ps)
  | .unit n :: ps =>
    if isHigh n || isLow n then none else joinPieces (Char.ofNat n :: done) ps

/-! ## Numbers -/

/-- The number that decimal digits stand for. -/
def numeral (cs : List Char) : Nat := cs.foldl (fun n c => n * 10 + (c.toNat - 48)) 0

/-- A number as it is written. -/
structure Literal where
  negative : Bool
  whole : List Char
  fraction : Option (List Char)
  exponent : Option Int
deriving DecidableEq

/-- The digits at the front of a text. -/
def readDigits (cs : List Char) : List Char × List Char :=
  (cs.takeWhile Char.isDigit, cs.dropWhile Char.isDigit)

/-- At least one digit. -/
def readSomeDigits (cs : List Char) : Option (List Char × List Char) :=
  match readDigits cs with
  | ([], _) => none
  | r => some r

/-- The whole part: a single zero, or digits that start with another one. -/
def readWhole (cs : List Char) : Option (List Char × List Char) :=
  match readDigits cs with
  | ([], _) => none
  | ('0' :: _ :: _, _) => none
  | r => some r

def readFraction : List Char → Option (Option (List Char) × List Char)
  | '.' :: cs => (readSomeDigits cs).map fun r => (some r.1, r.2)
  | cs => some (none, cs)

/-- The exponent after its letter: a sign, if there is one, and digits. -/
def readSigned : List Char → Option (Int × List Char)
  | '-' :: cs => (readSomeDigits cs).map fun r => (-(numeral r.1 : Int), r.2)
  | '+' :: cs => (readSomeDigits cs).map fun r => ((numeral r.1 : Int), r.2)
  | cs => (readSomeDigits cs).map fun r => ((numeral r.1 : Int), r.2)

def readExponent : List Char → Option (Option Int × List Char)
  | 'e' :: cs => (readSigned cs).map fun r => (some r.1, r.2)
  | 'E' :: cs => (readSigned cs).map fun r => (some r.1, r.2)
  | cs => some (none, cs)

def readUnsigned (negative : Bool) (cs : List Char) : Option (Literal × List Char) :=
  match readWhole cs with
  | none => none
  | some (whole, cs) =>
    match readFraction cs with
    | none => none
    | some (fraction, cs) =>
      match readExponent cs with
      | none => none
      | some (exponent, cs) => some (⟨negative, whole, fraction, exponent⟩, cs)

def readLiteral : List Char → Option (Literal × List Char)
  | '-' :: cs => readUnsigned true cs
  | cs => readUnsigned false cs

/-- The real nearest to a literal; none beyond the largest. That written numbers are read back needs
this one exact rounding. A reader that only does its best rounds the digits and a power of ten
apart; it may then take `31.245270191439438` for a neighbour of the nearest real, and refuse
`1.7976931348623158e308` although the largest real is nearest to it. -/
def Literal.real? (l : Literal) : Option Number :=
  let fraction := l.fraction.getD []
  match Binary64.ofDecimal l.negative (numeral (l.whole ++ fraction))
      (l.exponent.getD 0 - fraction.length) with
  | .finite r => some (.real r)
  | _ => none

/-- The number of a literal. One without point and exponent is an integer if it fits 64 bits;
minus zero is the real one. -/
def Literal.number? (l : Literal) : Option Number :=
  if l.fraction.isNone && l.exponent.isNone then
    let n := numeral l.whole
    if l.negative && n == 0 then l.real?
    else
      match Number.ofInt? (if l.negative then -(n : Int) else n) with
      | some i => some i
      | none => l.real?
  else l.real?

/-! ## Documents -/

/-- How deep arrays and objects may be nested. -/
def maxDepth : Nat := 127

/-- A container at a depth; refused when it lies too deep. -/
def atDepth (depth : Nat) (s : Source) : Source := if depth ≤ maxDepth then s else .refused

/-- A quoted text from after its opening mark. -/
def readText (cs : List Char) : Option (Option String × List Char) :=
  (readPieces [] cs).map fun r => ((joinPieces [] r.1).map String.ofList, r.2)

/-- The mark that the members of an object break off. -/
def breakMark : String × Source := ("", .broken)

/-- A member before others. A name that stands for no text is not read past. -/
def consMember (k : Option String) (s : Source) (ms : List (String × Source)) :
    List (String × Source) :=
  match k with
  | some k => (k, s) :: ms
  | none => [breakMark]

mutual
/-- A value at the front of a text, inside `depth` containers, and what follows it, if the text
does not break. -/
def readValue : Nat → Nat → List Char → Source × Option (List Char)
  | 0, _, _ => (.broken, none)
  | fuel + 1, depth, cs =>
    match skipSpace cs with
    | 'n' :: 'u' :: 'l' :: 'l' :: cs => (.null, some cs)
    | 't' :: 'r' :: 'u' :: 'e' :: cs => (.boolean true, some cs)
    | 'f' :: 'a' :: 'l' :: 's' :: 'e' :: cs => (.boolean false, some cs)
    | '"' :: cs =>
      match readText cs with
      | some (some s, cs) => (.text s, some cs)
      | some (none, cs) => (.refused, some cs)
      | none => (.broken, none)
    | '[' :: cs =>
      match skipSpace cs with
      | ']' :: cs => (atDepth (depth + 1) (.array []), some cs)
      | cs =>
        let r := readItems fuel (depth + 1) cs
        (atDepth (depth + 1) (.array r.1), r.2)
    | '{' :: cs =>
      match skipSpace cs with
      | '}' :: cs => (atDepth (depth + 1) (.object []), some cs)
      | cs =>
        let r := readMembers fuel (depth + 1) cs
        (atDepth (depth + 1) (.object r.1), r.2)
    | cs =>
      match readLiteral cs with
      | some (l, cs) =>
        match l.number? with
        | some n => (.number n, some cs)
        | none => (.refused, some cs)
      | none => (.broken, none)

/-- Items up to the closing bracket; at least one. -/
def readItems : Nat → Nat → List Char → List Source × Option (List Char)
  | 0, _, _ => ([.broken], none)
  | fuel + 1, depth, cs =>
    match readValue fuel depth cs with
    | (s, none) => ([s, .broken], none)
    | (s, some cs) =>
      match skipSpace cs with
      | ']' :: cs => ([s], some cs)
      | ',' :: cs =>
        let r := readItems fuel depth cs
        (s :: r.1, r.2)
      | _ => ([s, .broken], none)

/-- Members up to the closing brace; at least one. -/
def readMembers : Nat → Nat → List Char → List (String × Source) × Option (List Char)
  | 0, _, _ => ([breakMark], none)
  | fuel + 1, depth, cs =>
    match skipSpace cs with
    | '"' :: cs =>
      match readText cs with
      | none => ([breakMark], none)
      | some (k, cs) =>
        match skipSpace cs with
        | ':' :: cs =>
          match readValue fuel depth cs with
          | (s, none) => (consMember k s [breakMark], none)
          | (s, some cs) =>
            match skipSpace cs with
            | '}' :: cs => (consMember k s [], some cs)
            | ',' :: cs =>
              let r := readMembers fuel depth cs
              (consMember k s r.1, r.2)
            | _ => (consMember k s [breakMark], none)
        | _ => ([breakMark], none)
    | _ => ([breakMark], none)
end

/-- A text from its start: the value there, and what follows it, if the text does not break. -/
def scan (text : String) : Source × Option (List Char) :=
  let cs := text.toList
  readValue (2 * cs.length + 2) 0 cs

/-- Nothing but blanks follows. -/
def isEnd : Option (List Char) → Bool
  | some cs => (skipSpace cs).isEmpty
  | none => false

/-- What a text stands for, if it is well formed. -/
def Source.ofText? (text : String) : Option Source :=
  let r := scan text
  if isEnd r.2 then some r.1 else none

/-- The document that a text stands for. -/
def ofText? (text : String) : Option Json := (Source.ofText? text).bind Source.document?

end Json

end Verdict
