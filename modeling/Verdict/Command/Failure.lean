import Verdict.Registry.Error
import Verdict.Json.Record

/-
  Why a command fails, and how it is told: from what was attempted to what stood against it.
  `chain` gives the parts, `message` joins them.
-/
namespace Verdict

/-- A failure of a command. -/
inductive Failure
  | unreadable (path cause : String)
  | unparsed (path : String) (fault : Json.Fault)
  | configuration (error : RegistryError)
  | operator (text : String) (error : RegistryError)
  | queries (path : String) (error : RegistryError)
  | constraints (path : String) (error : RegistryError)
  | uncreatable (path cause : String)
  | unwritable (path cause : String)
  | invalidProperties (failed total : Nat)
deriving DecidableEq

namespace Failure

/-- A part of the account of a failure. -/
inductive Link
  | words (text : String)
  | fault (fault : Json.Fault)
deriving DecidableEq

/-- What is told of a text that is refused. -/
def faultText : Json.Fault → String
  | .malformed => "the text is not a JSON document"
  | .mismatch => "the document does not have the expected form"
  | .rejected reason => reason

def Link.text : Link → String
  | words text => text
  | fault f => faultText f

/-- The account of a failure, the attempt before its cause. -/
def chain : Failure → List Link
  | unreadable path cause => [.words ("Failed to read file: " ++ path), .words cause]
  | unparsed path f => [.words ("Failed to parse JSON file: " ++ path), .fault f]
  | configuration error => [.words "Invalid registry configuration", .words error.message]
  | operator text error =>
    [.words ("Cannot resolve operator '" ++ text ++ "'"), .words error.message]
  | queries path error => [.words ("Invalid query file: " ++ path), .words error.message]
  | constraints path error =>
    [.words ("Invalid constraint file: " ++ path), .words error.message]
  | uncreatable path cause => [.words ("Failed to create output file: " ++ path), .words cause]
  | unwritable path cause => [.words ("Failed to write to output file: " ++ path), .words cause]
  | invalidProperties failed total =>
    [.words (toString failed ++ " of " ++ toString total ++ " propert(ies) failed validation")]

def message (f : Failure) : String := ": ".intercalate (f.chain.map Link.text)

end Failure

end Verdict
