/-
  What is left of a text when it is shown without the control sequences of a terminal. A sequence
  starts with an escape character and takes in what belongs to it; controls outside of sequences
  are left out as well, blanks are kept everywhere but in strings.
-/
namespace Verdict.Text

/-- Where a reader stands in a control sequence. -/
inductive Sequence
  /-- Outside of all sequences. -/
  | none
  | escape
  | escapeRest
  /-- A command, up to its letter. -/
  | command
  /-- A string for a device: its start, its numbers, and what else stands before its letter. -/
  | device
  | deviceNumbers
  | deviceRest
  /-- A string up to its terminator. -/
  | string
  /-- A string for the system, which a bell ends as well. -/
  | title
deriving DecidableEq

/-- The blanks among the controls. -/
def isBlankControl (c : Char) : Bool := c == '\t' || c == '\n' || c == '\x0c' || c == '\r'

/-- One of the bytes of the character is the terminator of strings. -/
def endsString (c : Char) : Bool := (String.utf8EncodeChar c).contains 0x9c

namespace Sequence

/-- The place after a control, and whether the control is kept. -/
def afterControl (c : Char) : Sequence → Sequence × Bool
  | .device => (.device, false)
  | .deviceNumbers => (.deviceNumbers, false)
  | .deviceRest => (.deviceRest, false)
  | .string => (.string, false)
  | .title => (if c = '\x07' then .none else .title, false)
  | s => (s, isBlankControl c)

/-- The place after a printable character of ASCII. -/
def afterPrintable (c : Char) : Sequence → Sequence
  | .none => .none
  | .escape =>
    if c < '0' then .escapeRest
    else if c = '[' then .command
    else if c = ']' then .title
    else if c = 'P' then .device
    else if c = 'X' || c = '^' || c = '_' then .string
    else .none
  | .escapeRest => if c < '0' then .escapeRest else .none
  | .command => if c < '@' then .command else .none
  | .device => if c < '0' then .deviceRest else if c < '@' then .deviceNumbers else .string
  | .deviceNumbers => if c < '0' then .deviceRest else if c < '<' then .deviceNumbers else .string
  | .deviceRest => if c < '0' then .deviceRest else .string
  | .string => .string
  | .title => .title

/-- The place after a character, and whether the character is kept. -/
def after (c : Char) (s : Sequence) : Sequence × Bool :=
  if c = '\x1b' then (.escape, false)
  else if c = '\x18' || c = '\x1a' then (.none, false)
  else if c < ' ' then s.afterControl c
  else if c < '\x7f' then (s.afterPrintable c, s = .none)
  else if c = '\x7f' then (s, false)
  else if s = .string && endsString c then (.none, false)
  else (s, s = .none)

end Sequence

/-- Characters that settle the place wherever they stand. -/
def isDecisive (c : Char) : Bool := c == '\x1b' || c == '\x18' || c == '\x1a' || '\x7f' < c

/-- The place after a character and whether it is kept, seeing whether the last one was. What
follows a kept blank is kept up to the next control, even inside a sequence; the sequence goes on
from there. -/
def visibleStep (s : Sequence) (kept : Bool) (c : Char) : Sequence × Bool :=
  if kept then
    let r := Sequence.none.after c
    (if isDecisive c then r.1 else s, r.2)
  else s.after c

/-- The characters that are kept after others. -/
def visibleAfter (s : Sequence) (kept : Bool) : List Char → List Char
  | [] => []
  | c :: cs =>
    let r := visibleStep s kept c
    if r.2 then c :: visibleAfter r.1 true cs else visibleAfter r.1 false cs

/-- The text without control sequences. -/
def visible (text : String) : String := String.ofList (visibleAfter .none false text.toList)

example : visible "a\x1b[31mb\x1b[0m\tc" = "ab\tc" := by decide +kernel

end Verdict.Text
