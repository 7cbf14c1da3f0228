import Verdict.Expr.Basic
import Verdict.Registry.Error
import Verdict.Text.Blank
import Verdict.Text.Pieces

/-
  Operator expressions as text: names with colons between them, each but the last a combinator of
  one operand. Blanks around a name do not count, and no name is empty. Shown, a single operand
  stands behind a colon, as in a negation (`display_not`), and others stand in parentheses.
-/
namespace Verdict

namespace Expr

/-! ## Reading -/

/-- The chain of names, each applied to the rest of the chain. -/
def chain (first : String) : List String → Expr
  | [] => named first
  | name :: rest => apply first [chain name rest]

theorem chain_nil (first : String) : chain first [] = named first := rfl

theorem chain_cons (first name : String) (rest : List String) :
    chain first (name :: rest) = apply first [chain name rest] := rfl

/-- The names of a text: its pieces without the blanks around them. -/
def segments (s : String) : String × List String :=
  let name (cs : List Char) := String.ofList (Text.trim cs)
  (name (Text.pieces ':' s.toList).1, (Text.pieces ':' s.toList).2.map name)

/-- The expression of a text. -/
def parse (s : String) : Except RegistryError Expr :=
  let names := segments s
  if names.1 = "" ∨ "" ∈ names.2 then .error (.emptyIdentifier s)
  else .ok (chain names.1 names.2)

/-- The expression of a text; a text that is none is a name as a whole. -/
def ofText (s : String) : Expr :=
  match parse s with
  | .ok e => e
  | .error _ => named s

/-! ## Writing -/

mutual
/-- The expression as it is shown: a single operand after a colon, others in parentheses. -/
def display : Expr → String
  | named identifier => identifier
  | apply operator [e] => operator ++ ":" ++ display e
  | apply operator [] => operator ++ "()"
  | apply operator (e :: es) => operator ++ "(" ++ display e ++ displayRest es

/-- The operands after the first, and the closing parenthesis. -/
def displayRest : List Expr → String
  | [] => ")"
  | e :: es => ", " ++ display e ++ displayRest es
end

theorem display_not (e : Expr) : (not e).display = "not:" ++ e.display := by
  simp [not, display]

end Expr

end Verdict
