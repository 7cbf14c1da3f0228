import Verdict.Command.Presentation
import Verdict.Text.Visible

/-
  A command from its request to its effects: notes on standard error, a text on standard output, a
  written file, and failure or success. What is noted on the way is a function of the files and
  the request, like the answer itself. `run_of_failure` says that a command without an answer
  prints and writes nothing.
-/
namespace Verdict

/-- How a command is carried out and presented. -/
structure Options where
  config : Option String := none
  verbose : Bool := false
  format : Format := .pretty
  output : Option String := none
  color : Bool := false
deriving DecidableEq

/-- What a command notes on standard error. -/
inductive Note
  | event (e : Event)
  | line (text : String)
  | verbatim (text : String)
  | warning (text : String)
  | success (text : String)
deriving DecidableEq

namespace Note

/-- A level in front of a record, filled up to five characters. -/
def levelField (l : Level) : String :=
  let cs := l.name.toList
  String.ofList (cs ++ List.replicate (5 - cs.length) ' ')

/-- A message of several lines: all but the first are indented. -/
def indented (message : String) : String :=
  String.ofList (message.toList.flatMap fun c =>
    if c = '\n' then '\n' :: List.replicate 4 ' ' else [c])

/-- The line of a record. What a message holds of control sequences is left out; one that does
not end takes the end of the line with it. -/
def recordLine (e : Event) : String :=
  Text.visible
    ("[" ++ levelField e.level ++ " " ++ e.target ++ "] " ++ indented e.message ++ "\n")

/-- The text of a note. Records are told only when all is to be told, and traces never. -/
def render (color verbose : Bool) : Note → String
  | event e => if verbose && e.level != .trace then recordLine e else ""
  | line text => text ++ "\n"
  | verbatim text => text
  | warning text => Style.warningLine color text ++ "\n"
  | success text => Style.successLine color text ++ "\n"

/-- The record that a note is. -/
def event? : Note → Option Event
  | event e => some e
  | line _ | verbatim _ | warning _ | success _ => none

end Note

/-- What is noted of an answer before it is presented. -/
def Answer.notes : Answer → List Note
  | .selection ids => [.event (.selected ids.length)]
  | .verdict _ | .reports _ | .listing _ => []

/-- The effects of a command. -/
structure Effects where
  notes : List Note := []
  printed : String := ""
  written : Option (String × String) := none
  failure : Option Failure := none
deriving DecidableEq

namespace Command

/-! ## Notes -/

/-- What loading a configuration leaves. -/
def configEvents (files : Files) (config : Option String) : List Event :=
  match config, loadConfig files config with
  | some path, .ok c => [.loaded path c.aliases.size c.disabled.length]
  | _, _ => []

/-- What loading a registry leaves. -/
def registryEvents (files : Files) (config : Option String) : List Event :=
  configEvents files config ++
    match loadConfig files config with
    | .error _ => []
    | .ok c => Journal.ofConfig c

def operandLine (label : String) (v : Value) : Note :=
  .line (label ++ v.display ++ " (" ++ v.kind.name ++ ")")

/-- What evaluating an operator in a registry leaves. -/
def evalNotes (verbose : Bool) (r : Registry) (operator left right : String) : List Note :=
  (Journal.lookup (r.resolveText operator)).map .event ++
    match r.resolveText operator with
    | .error _ => []
    | .ok p =>
      if verbose then
        [.line ("Resolved " ++ operator ++ " as " ++ p.display),
          operandLine "  left:  " (operand left), operandLine "  right: " (operand right)]
      else []

/-- Which candidates are rejected, and by which queries. -/
def rejections (s : Selector) (cs : List Candidate) : List Note :=
  cs.flatMap fun c =>
    (s.mismatches c).map fun q => .line ("  " ++ c.id ++ " rejected by " ++ q.display)

/-- What selecting candidates in a registry leaves. -/
def filterNotes (verbose : Bool) (r : Registry) (qs : List Query) (cs : List Candidate) :
    List Note :=
  (Journal.compile r qs).map .event ++
    match Selector.compile r qs with
    | .error _ => []
    | .ok s =>
      if verbose then
        .line ("Checking " ++ toString cs.length ++ " candidate(s) against " ++
          toString s.size ++ " clause(s)") :: rejections s cs
      else []

/-- A warning for every property that is accepted without a validator. -/
def acceptances (vs : Validators) (strict : Bool) (ps : List Property) : List Note :=
  ps.filterMap fun p =>
    match vs.validate p.typeKey p.value with
    | .error e =>
      if e.isUnknownValidator && !strict then
        some (.warning ("no validator for " ++ p.typeKey ++ ", accepted"))
      else none
    | .ok () => none

/-- What validating properties in a registry leaves. -/
def validateNotes (r : Registry) (strict : Bool) (cs : List Constraint) (ps : List Property) :
    List Note :=
  (Journal.ofConstraints r cs).map .event ++
    match Validators.ofConstraints r cs with
    | .error _ => []
    | .ok vs => acceptances vs strict ps

/-- What finding an answer leaves. -/
def notes (files : Files) (o : Options) (request : Request) : List Note :=
  (registryEvents files o.config).map .event ++
    match loadRegistry files o.config with
    | .error _ => []
    | .ok r =>
      match request with
      | .eval operator left right => evalNotes o.verbose r operator left right
      | .filter queries candidates =>
        match loadSelection files queries candidates with
        | .ok (qs, cs) => filterNotes o.verbose r qs cs
        | .error _ => []
      | .validate constraints properties strict =>
        match loadValidation files constraints properties with
        | .ok (cs, ps) => validateNotes r strict cs ps
        | .error _ => []
      | .operators => []

/-! ## Effects -/

/-- The failure that an answer is in itself: properties that are not valid. -/
def verdictFailure? : Answer → Option Failure
  | .reports rs =>
    let failed := rs.countP fun r => !r.valid
    if 0 < failed then some (.invalidProperties failed rs.length) else none
  | _ => none

/-- The effects of presenting an answer. -/
def present (files : Files) (o : Options) (request : Request) (a : Answer) : Effects :=
  match o.output with
  | none =>
    { printed := Answer.unlines (a.lines o.color o.verbose o.format request)
      failure := verdictFailure? a }
  | some path =>
    let text := a.fileText o.format request
    let told := Note.success ("Output written to " ++ path)
    match files.sink path with
    | .closed cause => { failure := some (.uncreatable path cause) }
    | .full cause => { failure := some (.unwritable path cause) }
    | .taken =>
      { notes := [told]
        written := some (path, text)
        failure := verdictFailure? a }
    | .output =>
      { notes := [told]
        printed := text
        failure := verdictFailure? a }
    | .errors =>
      { notes := [.verbatim text, told]
        failure := verdictFailure? a }

/-- Carry out a request. -/
def run (files : Files) (o : Options) (request : Request) : Effects :=
  let before := notes files o request
  match answer files o.config request with
  | .error f => { notes := before, failure := some f }
  | .ok a =>
    let e := present files o request a
    { e with notes := before ++ a.notes ++ e.notes }

theorem run_of_failure {files : Files} {o : Options} {request : Request} {f : Failure}
    (h : answer files o.config request = .error f) :
    run files o request = { notes := notes files o request, failure := some f } := by
  simp [run, h]

theorem run_of_answer {files : Files} {o : Options} {request : Request} {a : Answer}
    (h : answer files o.config request = .ok a) :
    run files o request =
      { present files o request a with
        notes := notes files o request ++ a.notes ++ (present files o request a).notes } := by
  simp [run, h]

end Command

end Verdict
