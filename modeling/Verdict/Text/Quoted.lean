import Verdict.Text.Graphic
import Verdict.Text.Extender
import Verdict.Text.Ignorable

/-
  Texts between quotation marks, as values and names are shown in messages. Quotation marks and
  backslashes are escaped, so a quoted text ends at its first mark without a backslash; what a
  reader could not see or tell apart is written as its code point.
-/
namespace Verdict.Text

/-- A lower-case hexadecimal numeral. -/
def hex (n : Nat) : List Char := Nat.toDigits 16 n

/-- A reader could not see the character, or not tell it from the one before it. -/
def isObscure (c : Char) : Bool := isExtender c || isIgnorable c || !isGraphic c

/-- A character inside quotation marks. -/
def quoteChar (c : Char) : List Char :=
  if c = '\x00' then ['\\', '0']
  else if c = '\t' then ['\\', 't']
  else if c = '\n' then ['\\', 'n']
  else if c = '\r' then ['\\', 'r']
  else if c = '"' then ['\\', '"']
  else if c = '\\' then ['\\', '\\']
  else if isObscure c then '\\' :: 'u' :: '{' :: hex c.toNat ++ ['}']
  else [c]

/-- The text between quotation marks. -/
def quote (s : String) : String :=
  String.ofList ('"' :: s.toList.flatMap quoteChar ++ ['"'])

example : quote "a\t\"b\"" = "\"a\\t\\\"b\\\"\"" := by decide +kernel

end Verdict.Text
