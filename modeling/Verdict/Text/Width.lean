import Verdict.Text.Ligature
import Verdict.Text.Emoji

/-
  How many columns a line takes when it is shown. A line is measured from its end, because what
  follows a character decides how it is shown: a selector, a skin tone, a joiner with a picture
  behind it, or the end of a ligature. A picture takes two columns however many characters it is
  made of.
-/
namespace Verdict.Text

/-- The tags of a region, read from their end: letters, or digits behind some letters. -/
inductive Tags
  | letters (n : Nat)
  | digits (n : Nat)
deriving DecidableEq

namespace Tags

/-- One tag more in front. -/
def push (t : Tags) (c : Char) : Option Tags :=
  match t with
  | letters n =>
    if isTagLetter c then (if n < 6 then some (letters (n + 1)) else none)
    else if isTagDigit c && n ≤ 4 then some (digits 1)
    else none
  | digits n => if isTagDigit c && n < 3 then some (digits (n + 1)) else none

/-- The tags name a region. -/
def isRegion : Tags → Bool
  | letters n => 3 ≤ n
  | digits n => n == 3

end Tags

/-- What the rest of a line starts with, as far as it matters for what stands before it. -/
inductive Tail
  | plain
  /-- A selector that asks for a picture, or for text. -/
  | selector (toPicture : Bool)
  /-- The end of a ligature, behind a joiner or not, and the selectors in front of it. -/
  | ending (e : Ending) (joined toText toPicture : Bool)
  | tone
  | indicator
  | indicators
  | picture
  /-- A joiner with a picture behind it, perhaps with the frame of a key before it, and perhaps
  with the selector that asks for a picture before that. -/
  | joint (key selected : Bool)
  /-- Regional indicators before a joiner and a picture: one, an even or an odd number. -/
  | jointIndicator
  | jointFlags
  | jointFlagsAndHalf
  /-- Tags before a joiner and a picture. -/
  | tags (t : Tags)
deriving DecidableEq

namespace Tail

/-- What stands before is asked to be a picture. -/
def asksPicture : Tail → Bool
  | selector toPicture => toPicture
  | ending _ _ _ toPicture => toPicture
  | joint _ selected => selected
  | _ => false

/-- What stands before is asked to be text. -/
def asksText : Tail → Bool
  | selector toPicture => !toPicture
  | ending _ _ toText _ => toText
  | _ => false

/-- The tail behind a selector that asks for a picture. -/
def askPicture : Tail → Tail
  | ending e joined toText _ => ending e joined toText true
  | joint key _ => joint key true
  | _ => selector true

/-- The tail behind a selector that asks for text. -/
def askText : Tail → Tail
  | ending e joined _ toPicture => ending e joined true toPicture
  | _ => selector false

/-- A picture that is asked for in vain is forgotten, and all but a ligature with it. -/
def forgetPicture : Tail → Tail
  | ending e joined toText _ => ending e joined toText false
  | t => if t.asksPicture then plain else t

/-- Text that is asked for in vain is forgotten. -/
def forgetText : Tail → Tail
  | ending e joined _ toPicture => ending e joined false toPicture
  | t => if t.asksText then plain else t

end Tail

/-- The columns of a character that is not shown with the ones after it. -/
def alone (c : Char) : Int × Tail :=
  (columns c,
    match Ending.of? c with
    | some e => .ending e false false false
    | none =>
      if c = pictureSelector then .selector true
      else if c = textSelector then .selector false
      else if isIndicator c then .indicator
      else if isTone c then .tone
      else if isPictorial c then .picture
      else .plain)

/-- The columns that a character adds when it is shown with the ones after it. -/
def together (c : Char) : Tail → Option (Int × Tail)
  | .plain | .selector _ | .joint true _ => none
  | .ending e joined toText toPicture =>
    if e.passes c then some (0, .ending e (joined || c == joiner) toText toPicture)
    else (e.meet joined c).map fun r =>
      (r.1, match r.2 with
        | some e => .ending e false false false
        | none => .plain)
  | .tone =>
    if isToned c then some (0, .picture)
    else if c = joiner then some (0, .joint false false)
    else none
  | .indicator => if isIndicator c then some (1, .indicators) else none
  | .indicators =>
    if isIndicator c then some (1, .indicators)
    else if c = joiner then some (0, .joint false false)
    else none
  | .picture => if c = joiner then some (0, .joint false false) else none
  | .joint false _ =>
    if c = keyFrame then some (0, .joint true false)
    else if isIndicator c then some (1, .jointIndicator)
    else if isTone c then some (0, .tone)
    else if isTagEnd c then some (0, .tags (.letters 0))
    else if isPictorial c then some (0, .picture)
    else none
  | .jointIndicator => if isIndicator c then some (-1, .jointFlags) else none
  | .jointFlags =>
    if isIndicator c then some (3, .jointFlagsAndHalf)
    else if c = joiner then some (0, .joint false false)
    else none
  | .jointFlagsAndHalf =>
    if isIndicator c then some (-1, .jointFlags)
    else if c = joiner then some (0, .joint false false)
    else none
  | .tags t =>
    if c = blackFlag && t.isRegion then some (0, .picture) else (t.push c).map fun t => (0, .tags t)

/-- The columns that a character adds to those of the rest of its line. -/
def advance (c : Char) (t : Tail) : Int × Tail :=
  if t.asksPicture && isVariant c then
    (match t with
      | .joint _ _ => 0
      | _ => 2, .picture)
  else
    let t := t.forgetPicture
    if c.toNat ≤ 0xa0 then (1, .plain)
    else if c = pictureSelector then (0, t.askPicture)
    else if c = textSelector then (0, t.askText)
    else if t.asksText && isTextVariant c then (1, .plain)
    else (together c t.forgetText).getD (alone c)

/-- The columns of a line, and what it starts with. -/
def measure (cs : List Char) : Int × Tail :=
  cs.foldr (fun c r => let a := advance c r.2; (r.1 + a.1, a.2)) (0, .plain)

/-- The columns of a line. -/
def width (cs : List Char) : Nat := (measure cs).1.toNat

example : width "日本 e\u0301".toList = 6 := by decide +kernel

example : width "👩\u200d🔬❤\ufe0f".toList = 4 := by decide +kernel

end Verdict.Text
