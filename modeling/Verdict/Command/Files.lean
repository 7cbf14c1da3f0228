import Verdict.Json.Record

/-
  The files that a command can see: what reading a path gives, and what becomes of what is written
  to it. A directory of files gives them by name, and around it lies a system with its usual
  directories and devices. A path is followed step by step, and the first step that fails gives
  the cause; a path that is too long is not followed at all.
-/
namespace Verdict

/-- What becomes of what is written to a path. -/
inductive Sink
  /-- It is taken. -/
  | taken
  /-- The path cannot be opened. -/
  | closed (cause : String)
  /-- The path can be opened, and takes nothing. -/
  | full (cause : String)
  /-- It goes to standard output. -/
  | output
  /-- It goes to standard error. -/
  | errors
deriving DecidableEq

/-- What reading a path gives, bytes or the cause of a failure, and what becomes of what is
written to a path. -/
structure Files where
  read : String → Except String ByteArray
  sink : String → Sink

namespace Files

def notFound : String := "No such file or directory (os error 2)"

def noDevice : String := "No such device or address (os error 6)"

def notDirectory : String := "Not a directory (os error 20)"

def isDirectory : String := "Is a directory (os error 21)"

def noSpace : String := "No space left on device (os error 28)"

def tooLong : String := "File name too long (os error 36)"

def notPath : String := "file name contained an unexpected NUL byte"

def notText : String := "stream did not contain valid UTF-8"

def noMemory : String := "out of memory"

/-! ## Paths -/

/-- The bytes that a name may have. -/
def maxName : Nat := 255

/-- The bytes that a path may have. -/
def maxPath : Nat := 4095

/-- What a path is followed for. -/
inductive Purpose
  | reading
  | creating
deriving DecidableEq

/-- The devices. -/
inductive Device
  /-- Holds nothing and takes everything. -/
  | null
  /-- Holds zeros without end and takes everything. -/
  | zero
  /-- Holds zeros without end and takes nothing. -/
  | full
  | output
  | errors
  /-- A terminal, which is not there. -/
  | terminal
deriving DecidableEq

def Device.ofName? : String → Option Device
  | "null" => some null
  | "zero" => some zero
  | "full" => some full
  | "stdout" => some output
  | "stderr" => some errors
  | "tty" => some terminal
  | _ => none

/-- Where the steps of a path stand. -/
inductive Location
  /-- In the directory of files. -/
  | inside
  /-- In a directory of which nothing is known but that it is there. -/
  | outside
  /-- In the directory that holds all others. -/
  | root
  /-- In a directory of the system of which nothing else is known. -/
  | system
  /-- In the directory of devices. -/
  | devices
deriving DecidableEq

/-- What a path leads to. -/
inductive Place
  | file (name : String)
  | directory
  /-- A name in a directory of which nothing is known. -/
  | outside
  | device (d : Device)
  | missing (cause : String)
deriving DecidableEq

/-- The directories that every system has, without that of devices. -/
def systemNames : List String :=
  ["bin", "boot", "etc", "home", "lib", "media", "mnt", "opt", "proc", "root", "run", "sbin",
   "srv", "sys", "tmp", "usr", "var"]

namespace Location

/-- The directory above. -/
def parent : Location → Location
  | inside | outside => outside
  | root | system | devices => root

/-- The directory of a name. -/
def child? : Location → String → Option Location
  | root, name =>
    if name == "dev" then some devices else if systemNames.contains name then some system else none
  | inside, _ | outside, _ | system, _ | devices, _ => none

/-- What a name stands for that is no directory. -/
def entry (l : Location) (name : String) : Place :=
  match l with
  | inside => .file name
  | devices => ((Device.ofName? name).map .device).getD .outside
  | outside | root | system => .outside

/-- A name stands for something that is no directory. -/
def isEntry (names : List String) (l : Location) (name : String) : Bool :=
  match l with
  | inside => names.contains name
  | devices => (Device.ofName? name).isSome
  | outside | root | system => false

end Location

/-- Nothing but marks of separation is left of a path, and at least one. -/
def isTrailing (steps : List String) : Bool := !steps.isEmpty && steps.all (· == "")

/-- Follow the steps of a path among files with these names. No file is created by a path with a
trailing mark of separation. -/
def follow (names : List String) (purpose : Purpose) (l : Location) : List String → Place
  | [] => .directory
  | step :: rest =>
    if step == "" || step == "." then follow names purpose l rest
    else if step == ".." then follow names purpose l.parent rest
    else if purpose = .creating && isTrailing rest then .missing isDirectory
    else if maxName < step.utf8ByteSize then .missing tooLong
    else
      match l.child? step with
      | some l => follow names purpose l rest
      | none =>
        if rest.isEmpty then l.entry step
        else .missing (if l.isEntry names step then notDirectory else notFound)

/-- What a path leads to. -/
def place (names : List String) (purpose : Purpose) (path : String) : Place :=
  if path.toList.contains '\x00' then .missing notPath
  else if maxPath < path.utf8ByteSize then .missing tooLong
  else if path == "" then .missing notFound
  else
    match path.splitOn "/" with
    | "" :: steps => follow names purpose .root steps
    | steps => follow names purpose .inside steps

/-! ## Directories of files -/

/-- What reading a device gives. The output of the program is not read. -/
def Device.read : Device → Except String ByteArray
  | null | output | errors => .ok ByteArray.empty
  | zero | full => .error noMemory
  | terminal => .error noDevice

/-- What becomes of what is written to a device. -/
def Device.sink : Device → Sink
  | null | zero => .taken
  | full => .full noSpace
  | output => .output
  | errors => .errors
  | terminal => .closed noDevice

/-- A directory that holds these files and nothing else. -/
def ofEntries (entries : List (String × ByteArray)) : Files where
  read path :=
    match place (entries.map Prod.fst) .reading path with
    | .file name =>
      match entries.lookup name with
      | some bytes => .ok bytes
      | none => .error notFound
    | .directory => .error isDirectory
    | .outside => .error notFound
    | .device d => d.read
    | .missing cause => .error cause
  sink path :=
    match place (entries.map Prod.fst) .creating path with
    | .file _ | .outside => .taken
    | .directory => .closed isDirectory
    | .device d => d.sink
    | .missing cause => .closed cause

/-- The text of a file. -/
def readText (files : Files) (path : String) : Except String String :=
  match files.read path with
  | .error cause => .error cause
  | .ok bytes =>
    match String.fromUTF8? bytes with
    | some text => .ok text
    | none => .error notText

end Files

end Verdict
