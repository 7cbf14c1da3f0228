import Verdict.Command.Program

/-
  The program on a real file system. The files that it may read are read first; the output file is
  written before anything is told, so that a refusal is part of the account.
-/
namespace Verdict

namespace Main

/-- The number of a failure; some calls give it with a minus sign. -/
def number (code : UInt32) : UInt32 := if code < 0x80000000 then code else 0 - code

def causeText (code : UInt32) (details : String) : String :=
  details.capitalize ++ " (os error " ++ toString (number code) ++ ")"

/-- What the system says of a failure. -/
def cause : IO.Error → String
  | .alreadyExists _ code details | .otherError code details | .resourceBusy code details
  | .resourceVanished code details | .unsupportedOperation code details
  | .hardwareFault code details | .unsatisfiedConstraints code details
  | .illegalOperation code details | .protocolError code details | .timeExpired code details
  | .interrupted _ code details | .noFileOrDirectory _ code details
  | .invalidArgument _ code details | .permissionDenied _ code details
  | .resourceExhausted _ code details | .inappropriateType _ code details
  | .noSuchThing _ code details => causeText code details
  | .unexpectedEof => "unexpected end of file"
  | .userError text => text

/-- Read a file, or say why not. -/
def readFile (path : String) : IO (Except String ByteArray) := do
  try
    let bytes ← IO.FS.readBinFile path
    return .ok bytes
  catch e => return .error (cause e)

/-- Write a file, or say why not. -/
def writeFile (path text : String) : IO Sink := do
  match ← (IO.FS.Handle.mk path .write).toBaseIO with
  | .error e => return .closed (cause e)
  | .ok handle =>
    try
      handle.putStr text
      handle.flush
      return .taken
    catch e => return .full (cause e)

/-- The files that were read, and what became of what was written. -/
def filesOf (read : List (String × Except String ByteArray)) (sink : Sink) : Files where
  read path := (read.lookup path).getD (.error Files.notFound)
  sink _ := sink

/-- Carry out the arguments; the answer is the exit status. -/
def run (arguments : List String) : IO UInt32 := do
  let terminal ← (← IO.getStdout).isTty
  let read ← (Program.paths arguments).mapM fun path => do return (path, ← readFile path)
  let outcome := Program.run (filesOf read .taken) terminal arguments
  let sink ← match outcome.written with
    | some (path, text) => writeFile path text
    | none => pure .taken
  let outcome := Program.run (filesOf read sink) terminal arguments
  IO.print outcome.stdout
  IO.eprint outcome.stderr
  return UInt32.ofNat outcome.exit

end Main

end Verdict

def main (arguments : List String) : IO UInt32 := Verdict.Main.run arguments
