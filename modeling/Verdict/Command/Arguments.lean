import Verdict.Command.Run

/-
  The command line. Options have a long name, some a short one; those of the program are accepted
  before and after the name of a command, those of a command only after it. A value stands after
  its option, or attached to it; short options without values can be joined. After two hyphens
  everything is an operand. What is given twice, is not known, is too much or is missing is a usage
  error; all but what is missing is one as soon as it is read.
-/
namespace Verdict

namespace Arguments

/-- The commands. -/
inductive CommandName
  | eval
  | filter
  | validate
  | operators
  | help
deriving DecidableEq

def CommandName.ofName? : String → Option CommandName
  | "eval" => some .eval
  | "filter" => some .filter
  | "validate" => some .validate
  | "operators" => some .operators
  | "help" => some .help
  | _ => none

/-- How many operands a command takes. -/
def CommandName.arity : CommandName → Nat
  | .eval => 3
  | .filter | .validate => 1
  | .operators | .help => 0

/-- The operands of a command are paths. -/
def CommandName.takesPath : CommandName → Bool
  | .filter | .validate => true
  | .eval | .operators | .help => false

/-- The options. -/
inductive Opt
  | verbose
  | format
  | output
  | color
  | config
  | queries
  | constraints
  | strict
  | version
  | help
deriving DecidableEq

namespace Opt

/-- The option is followed by a value. -/
def takesValue : Opt → Bool
  | verbose | strict | version | help => false
  | format | output | color | config | queries | constraints => true

/-- The option belongs to a command, or to the program when there is no command yet. -/
def accepted (command : Option CommandName) : Opt → Bool
  | verbose | format | output | color | config | help => true
  | version => command == none
  | queries => command == some .filter
  | constraints | strict => command == some .validate

def ofLong? : String → Option Opt
  | "verbose" => some verbose
  | "format" => some format
  | "output" => some output
  | "color" => some color
  | "config" => some config
  | "queries" => some queries
  | "constraints" => some constraints
  | "strict" => some strict
  | "version" => some version
  | "help" => some help
  | _ => none

def ofShort? : Char → Option Opt
  | 'v' => some verbose
  | 'f' => some format
  | 'o' => some output
  | 'c' => some config
  | 'q' => some queries
  | 'C' => some constraints
  | 's' => some strict
  | 'V' => some version
  | 'h' => some help
  | _ => none

/-- The option of a long name where this command is being read. -/
def long? (command : Option CommandName) (name : String) : Option Opt :=
  (ofLong? name).filter fun o => o.accepted command

/-- The option of a letter where this command is being read. -/
def short? (command : Option CommandName) (c : Char) : Option Opt :=
  (ofShort? c).filter fun o => o.accepted command

/-- The option takes this value. A path is never empty. -/
def validValue (o : Opt) (value : String) : Bool :=
  match o with
  | format => (Format.ofName? value).isSome
  | color => value == "auto" || value == "always" || value == "never"
  | output | config | queries | constraints => value != ""
  | verbose | strict | version | help => false

end Opt

/-- Why reading stops before the end. -/
inductive Stop
  | version
  | help
  | usage
deriving DecidableEq

/-- What has been read: options with their values, and operands. -/
structure Given where
  options : List (Opt × String) := []
  operands : List String := []
deriving DecidableEq

namespace Given

def value? (g : Given) (o : Opt) : Option String := g.options.lookup o

def has (g : Given) (o : Opt) : Bool := (g.value? o).isSome

/-- An option more, unless it has been given. Version and help are answered at once. -/
def add (g : Given) (o : Opt) (value : String) : Except Stop Given :=
  if o = .version then .error .version
  else if o = .help then .error .help
  else if g.has o then .error .usage
  else .ok { g with options := g.options ++ [(o, value)] }

/-- An option with its value more. -/
def addValue (g : Given) (o : Opt) (value : String) : Except Stop Given :=
  if o.validValue value then g.add o value else .error .usage

/-- An operand more, if the command takes one more. A path is never empty. -/
def addOperand (g : Given) (command : CommandName) (s : String) : Except Stop Given :=
  if g.operands.length < command.arity && !(command.takesPath && s == "") then
    .ok { g with operands := g.operands ++ [s] }
  else .error .usage

/-- Operands more. -/
def addOperands (g : Given) (command : CommandName) : List String → Except Stop Given
  | [] => .ok g
  | s :: ss =>
    match g.addOperand command s with
    | .ok g => g.addOperands command ss
    | .error stop => .error stop

end Given

/-- Where reading stands: at an argument, or behind an option that waits for its value. -/
abbrev Waiting := Option Opt

/-- Joined short options. What follows one that takes a value is the value, after a mark of
equality if there is one. -/
def shorts (command : Option CommandName) (g : Given) :
    List Char → Except Stop (Given × Waiting)
  | [] => .ok (g, none)
  | c :: cs =>
    match Opt.short? command c with
    | none => .error .usage
    | some o =>
      if o.takesValue then
        match cs with
        | [] => .ok (g, some o)
        | '=' :: value => (g.addValue o (String.ofList value)).map fun g => (g, none)
        | value => (g.addValue o (String.ofList value)).map fun g => (g, none)
      else
        match g.add o "" with
        | .ok g => shorts command g cs
        | .error stop => .error stop

/-- A long option, with its value behind a mark of equality if there is one. -/
def long (command : Option CommandName) (g : Given) (cs : List Char) :
    Except Stop (Given × Waiting) :=
  let name := String.ofList (cs.takeWhile (· != '='))
  match Opt.long? command name, cs.dropWhile (· != '=') with
  | none, _ => .error .usage
  | some o, [] =>
    if o.takesValue then .ok (g, some o) else (g.add o "").map fun g => (g, none)
  | some o, _ :: value =>
    if o.takesValue then (g.addValue o (String.ofList value)).map fun g => (g, none)
    else .error .usage

/-- An argument that starts with a hyphen and is an option. -/
def option? (command : Option CommandName) (g : Given) (argument : String) :
    Option (Except Stop (Given × Waiting)) :=
  match argument.toList with
  | '-' :: '-' :: cs => some (long command g cs)
  | '-' :: c :: cs => some (shorts command g (c :: cs))
  | _ => none

/-- Read the arguments of a command. -/
def readCommand (command : CommandName) (g : Given) (waiting : Waiting) :
    List String → Except Stop Given
  | [] => if waiting = none then .ok g else .error .usage
  | a :: as =>
    if a = "--" then
      if waiting = none then g.addOperands command as else .error .usage
    else
      match option? (some command) g a with
      | some r =>
        if waiting = none then
          match r with
          | .ok (g, waiting) => readCommand command g waiting as
          | .error stop => .error stop
        else .error .usage
      | none =>
        match waiting with
        | some o =>
          match g.addValue o a with
          | .ok g => readCommand command g none as
          | .error stop => .error stop
        | none =>
          match g.addOperand command a with
          | .ok g => readCommand command g none as
          | .error stop => .error stop

/-- Why reading stops at a wish for help: on the program, or on one command. -/
def helpOn : List String → Stop
  | [] => .help
  | [name] => if (CommandName.ofName? name).isSome then .help else .usage
  | _ => .usage

/-- Read the arguments of the program: options, then a command with arguments of its own. -/
def readProgram (g : Given) (waiting : Waiting) :
    List String → Except Stop (Given × CommandName × Given)
  | [] => .error .usage
  | a :: as =>
    if a = "--" then .error .usage
    else
      match option? none g a with
      | some r =>
        if waiting = none then
          match r with
          | .ok (g, waiting) => readProgram g waiting as
          | .error stop => .error stop
        else .error .usage
      | none =>
        match waiting with
        | some o =>
          match g.addValue o a with
          | .ok g => readProgram g none as
          | .error stop => .error stop
        | none =>
          match CommandName.ofName? a with
          | none => .error .usage
          | some .help => .error (helpOn as)
          | some command => (readCommand command {} none as).map fun h => (g, command, h)

/-- When messages are coloured. -/
inductive ColorMode
  | auto
  | always
  | never
deriving DecidableEq

def ColorMode.ofValue : Option String → ColorMode
  | some "always" => .always
  | some "never" => .never
  | _ => .auto

/-- The request of a command. -/
def requestOf (command : CommandName) (h : Given) : Except Stop Request :=
  match command, h.operands with
  | .eval, [operator, left, right] => .ok (.eval operator left right)
  | .filter, [candidates] =>
    match h.value? .queries with
    | some queries => .ok (.filter queries candidates)
    | none => .error .usage
  | .validate, [properties] =>
    match h.value? .constraints with
    | some constraints => .ok (.validate constraints properties (h.has .strict))
    | none => .error .usage
  | .operators, [] => .ok .operators
  | _, _ => .error .usage

/-- A command line. A value given after the command counts more than one before it. -/
structure Invocation where
  options : Options
  colorMode : ColorMode
  request : Request
deriving DecidableEq

/-- The meaning of the arguments. -/
def parse (arguments : List String) : Except Stop Invocation :=
  match readProgram {} none arguments with
  | .error stop => .error stop
  | .ok (g, command, h) =>
    match requestOf command h with
    | .error stop => .error stop
    | .ok request =>
      let value (o : Opt) := (h.value? o).or (g.value? o)
      .ok {
        options := {
          config := value .config
          verbose := (value .verbose).isSome
          format := ((value .format).bind Format.ofName?).getD .pretty
          output := value .output }
        colorMode := .ofValue (value .color)
        request }

end Arguments

end Verdict
