import Verdict.Text.Columns

/-
  Letters that are shown as one with those before them. A ligature is read from its end: the last
  letter waits for what stands before it, and marks that are never seen may stand between them.
-/
namespace Verdict.Text

/-- The joiner, which asks for a ligature. -/
def joiner : Char := '\u200d'

/-- The end of a ligature that waits for what stands before it. -/
inductive Ending
  /-- An Arabic alef, for a lam. -/
  | alef
  /-- A Hebrew lamed, for an alef joined to it. -/
  | lamed
  /-- A Buginese ya, for the sign i joined to it. -/
  | ya
  /-- The sign i and a ya, for the letter a. -/
  | signAndYa
  /-- A Tifinagh consonant, for another one joined to it. -/
  | consonant
  /-- A Tifinagh consonant behind the sign that joins consonants. -/
  | linked
  /-- A closing tone letter of Lisu, for an opening one. -/
  | tone
  /-- An Old Turkic i, for the letter joined to it. -/
  | orkhon
  /-- A Khmer letter that can be written below another one, for the sign of that. -/
  | subscript
deriving DecidableEq

/-- The code points with the shape of the Arabic letter lam. -/
def lamRanges : Ranges := [(0x644, 0x644), (0x6b5, 0x6b8), (0x76a, 0x76a), (0x8a6, 0x8a6),
  (0x8c7, 0x8c7)]

/-- The code points with the shape of the Arabic letter alef. -/
def alefRanges : Ranges := [(0x622, 0x623), (0x625, 0x625), (0x627, 0x627), (0x671, 0x673),
  (0x675, 0x675), (0x773, 0x774), (0x870, 0x882)]

/-- The Tifinagh consonants. -/
def consonantRanges : Ranges := [(0x2d31, 0x2d65), (0x2d6f, 0x2d6f)]

/-- The Khmer letters that can be written below another one. -/
def subscriptRanges : Ranges := [(0x1780, 0x1782), (0x1784, 0x1787), (0x1789, 0x178c),
  (0x178e, 0x1793), (0x1795, 0x1798), (0x179b, 0x179d), (0x17a0, 0x17a0), (0x17a2, 0x17a2),
  (0x17a7, 0x17a7), (0x17ab, 0x17ac), (0x17af, 0x17af)]

/-- Marks that are never seen and may stand inside any ligature. -/
def unseenRanges : Ranges := [(0x34f, 0x34f), (0x17b4, 0x17b5), (0x180b, 0x180d),
  (0x180f, 0x180f), (0xfe00, 0xfe0f), (0xe0100, 0xe01ef)]

/-- The code points that take no column and still part Arabic letters. -/
def partingRanges : Ranges :=
  [(0x605, 0x605), (0x890, 0x891), (0x8e2, 0x8e2), (0x9be, 0x9be), (0x9d7, 0x9d7),
   (0xb3e, 0xb3e), (0xb57, 0xb57), (0xbbe, 0xbbe), (0xbd7, 0xbd7), (0xcc0, 0xcc0),
   (0xcc2, 0xcc2), (0xcc7, 0xcc8), (0xcca, 0xccb), (0xcd5, 0xcd6), (0xd3e, 0xd3e),
   (0xd4e, 0xd4e), (0xd57, 0xd57), (0xdcf, 0xdcf), (0xddf, 0xddf), (0x1160, 0x11ff),
   (0x180e, 0x180e), (0x1b35, 0x1b35), (0x1b3b, 0x1b3b), (0x1b3d, 0x1b3d), (0x1b43, 0x1b43),
   (0x200c, 0x200d), (0x2065, 0x2069), (0x302e, 0x302f), (0x3164, 0x3164), (0xa8fa, 0xa8fa),
   (0xd7b0, 0xd7c6), (0xd7cb, 0xd7fb), (0xff9e, 0xffa0), (0xfff0, 0xfff8), (0x111c2, 0x111c3),
   (0x1133e, 0x1133e), (0x11357, 0x11357), (0x114b0, 0x114b0), (0x114bd, 0x114bd),
   (0x115af, 0x115af), (0x11930, 0x11930), (0x1193f, 0x1193f), (0x11941, 0x11941),
   (0x11a3a, 0x11a3a), (0x11a84, 0x11a89), (0x11d46, 0x11d46), (0x11f02, 0x11f02),
   (0x1d165, 0x1d165), (0x1d16e, 0x1d172), (0xe0000, 0xe0000), (0xe0002, 0xe001f),
   (0xe0080, 0xe00ff), (0xe01f0, 0xe0fff)]

/-- A mark that leaves the Arabic letters around it joined. -/
def isArabicMark (c : Char) : Bool := columns c == 0 && !partingRanges.contains c

namespace Ending

/-- The ending that a letter by itself can be. -/
def of? (c : Char) : Option Ending :=
  if alefRanges.contains c then some .alef
  else if c = '\u05dc' then some .lamed
  else if c = '\u1a10' then some .ya
  else if consonantRanges.contains c then some .consonant
  else if c = '\ua4fc' || c = '\ua4fd' then some .tone
  else if c.toNat = 0x10c03 then some .orkhon
  else if subscriptRanges.contains c then some .subscript
  else none

/-- Marks between the letters of the ligature keep it waiting: those that are never seen, and the
joiner, except between Arabic letters. -/
def passes (e : Ending) (c : Char) : Bool :=
  if e = .alef then isArabicMark c else c == joiner || unseenRanges.contains c

/-- What a character before the ending adds to its columns, and the ending that waits then. -/
def meet (e : Ending) (joined : Bool) (c : Char) : Option (Int × Option Ending) :=
  match e, joined with
  | .alef, _ => if lamRanges.contains c then some (0, none) else none
  | .lamed, true => if c = '\u05d0' then some (0, none) else none
  | .ya, true => if c = '\u1a17' then some (0, some .signAndYa) else none
  | .signAndYa, _ => if c = '\u1a15' then some (0, none) else none
  | .consonant, true =>
    if c = '\u2d7f' then some (1, some .linked)
    else if consonantRanges.contains c then some (0, none)
    else none
  | .consonant, false => if c = '\u2d7f' then some (1, some .linked) else none
  | .linked, _ => if consonantRanges.contains c then some (-1, none) else none
  | .tone, _ => if '\ua4f8' ≤ c ∧ c ≤ '\ua4fb' then some (0, none) else none
  | .orkhon, true => if c.toNat = 0x10c32 then some (0, none) else none
  | .subscript, _ => if c = '\u17d2' then some (-1, none) else none
  | .lamed, false | .ya, false | .orkhon, false => none

end Ending

example : Ending.meet .subscript false '\u17d2' = some (-1, none) := by decide +kernel

end Verdict.Text
