import Verdict.Command.Failure
import Verdict.Command.Files
import Verdict.Registry.Config
import Verdict.Value.Json

/-
  What commands read: operands on the command line, records in files, and the registry that a
  configuration file asks for. A path that is not given is the standard registry.
-/
namespace Verdict

namespace Command

/-- The value of an operand: that of the document it is, or else the text itself. -/
def operand (text : String) : Value :=
  match Json.ofText? text with
  | some j => Value.takeJson j
  | none => .text text

theorem operand_of_ofText? {text : String} {j : Json} (h : Json.ofText? text = some j) :
    operand text = Value.ofJson j := by simp [operand, h, Value.takeJson_eq_ofJson]

theorem operand_of_ofText?_eq_none {text : String} (h : Json.ofText? text = none) :
    operand text = .text text := by simp [operand, h]

/-- Read what a file holds. -/
def load {α : Type} (files : Files) (path : String)
    (read : Json.Source → Except Json.Fault α) : Except Failure α :=
  match files.readText path with
  | .error cause => .error (.unreadable path cause)
  | .ok text =>
    match Json.decode read text with
    | .ok a => .ok a
    | .error fault => .error (.unparsed path fault)

/-- The configuration in a file, or the empty one. -/
def loadConfig (files : Files) : Option String → Except Failure Config
  | none => .ok {}
  | some path => load files path Config.read

/-- The registry of the configuration in a file. -/
def loadRegistry (files : Files) (path : Option String) : Except Failure Registry :=
  match loadConfig files path with
  | .error f => .error f
  | .ok c => (Registry.ofConfig c).mapError .configuration

end Command

end Verdict
