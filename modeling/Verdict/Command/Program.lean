import Verdict.Command.Arguments

/-
  The whole program: from its arguments and the files around it to an exit status, two texts and
  perhaps a written file. A failure is told in one line and gives the status 1, a usage error the
  status 2.
-/
namespace Verdict

namespace Program

/-- What the program leaves. -/
structure Outcome where
  exit : Nat
  stdout : String := ""
  stderr : String := ""
  written : Option (String × String) := none
deriving DecidableEq

def versionText : String := "metaprop 0.1.0"

def usageText : String :=
  "Usage: metaprop [OPTIONS] <COMMAND>\n\nCommands:\n" ++
  "  eval <OPERATOR> <LEFT> <RIGHT>\n" ++
  "  filter --queries <QUERIES> <CANDIDATES>\n" ++
  "  validate --constraints <CONSTRAINTS> [--strict] <PROPERTIES>\n" ++
  "  operators\n\nOptions:\n" ++
  "  -v, --verbose\n  -f, --format <json|pretty|table>\n  -o, --output <FILE>\n" ++
  "      --color <auto|always|never>\n  -c, --config <FILE>\n  -h, --help\n  -V, --version"

/-- The effects of a command as texts. -/
def outcomeOf (o : Options) (e : Effects) : Outcome where
  exit := if e.failure.isSome then 1 else 0
  stdout := e.printed
  stderr := String.join (e.notes.map (·.render o.color o.verbose)) ++
    match e.failure with
    | some f => Style.errorLine o.color f.message ++ "\n"
    | none => ""
  written := e.written

/-- The options of an invocation, with its colours decided. -/
def optionsOf (terminal : Bool) (i : Arguments.Invocation) : Options :=
  { i.options with
    color := match i.colorMode with
      | .auto => terminal
      | .always => true
      | .never => false }

/-- Run the program where standard output is a terminal or not. -/
def run (files : Files) (terminal : Bool) (arguments : List String) : Outcome :=
  match Arguments.parse arguments with
  | .error .version => { exit := 0, stdout := versionText ++ "\n" }
  | .error .help => { exit := 0, stdout := usageText ++ "\n" }
  | .error .usage => { exit := 2, stderr := usageText ++ "\n" }
  | .ok i =>
    let o := optionsOf terminal i
    outcomeOf o (Command.run files o i.request)

/-- The files that a request reads, in order. -/
def inputs : Request → List String
  | .eval _ _ _ | .operators => []
  | .filter queries candidates => [queries, candidates]
  | .validate constraints properties _ => [constraints, properties]

/-- The files that the program may read. -/
def paths (arguments : List String) : List String :=
  match Arguments.parse arguments with
  | .error _ => []
  | .ok i => i.options.config.toList ++ inputs i.request

end Program

end Verdict
