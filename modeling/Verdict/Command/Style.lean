/-
  Colours of messages on a terminal: what kind of message it is stands in colour in front, and
  verdicts are green or red. Without colour the words stand alone.
-/
namespace Verdict

/-- The ways of writing a word. -/
inductive Style
  | error
  | warning
  | success
  | positive
  | negative
deriving DecidableEq

namespace Style

/-- The terminal's code: bold red, yellow and green for messages, plain green and red for
verdicts. -/
def code : Style → String
  | error => "1;31"
  | warning => "1;33"
  | success => "1;32"
  | positive => "32"
  | negative => "31"

/-- A word in a style, if there are colours. -/
def paint (color : Bool) (style : Style) (word : String) : String :=
  if color then "\x1b[" ++ style.code ++ "m" ++ word ++ "\x1b[0m" else word

def errorLine (color : Bool) (message : String) : String :=
  paint color error "Error:" ++ " " ++ message

def warningLine (color : Bool) (message : String) : String :=
  paint color warning "Warning:" ++ " " ++ message

def successLine (color : Bool) (message : String) : String :=
  paint color success "Success:" ++ " " ++ message

/-- A verdict in its colour. -/
def verdict (color : Bool) (b : Bool) : String :=
  if b then paint color positive "true" else paint color negative "false"

end Style

end Verdict
