import Verdict.Json.Reader

/-
  Records in JSON texts: an object whose members are the fields in any order, or an array of the
  fields in their declared order. Fields are read in the order of the text and the first fault
  is the one reported, so a reader keeps a draft that each member fills further.
-/
namespace Verdict

namespace Json

/-- Why a text is refused: it is no document, it is one of another shape, or what it names is
rejected for a reason. -/
inductive Fault
  | malformed
  | mismatch
  | rejected (reason : String)
deriving DecidableEq

universe u

variable {α δ : Type u}

/-- Fill an empty slot of a draft. A field that is given twice is refused before it is read. -/
def fill (slot : Option α) (read : Source → Except Fault α) (s : Source) :
    Except Fault (Option α) :=
  match slot with
  | some _ => .error .mismatch
  | none => (read s).map some

/-- A field that has to be there. -/
def required (slot : Option α) : Except Fault α :=
  match slot with
  | some a => .ok a
  | none => .error .mismatch

/-- Why a part that does not have the form that is wanted is refused. -/
def Source.fault : Source → Fault
  | .refused | .broken => .malformed
  | .null | .boolean _ | .number _ | .text _ | .array _ | .object _ => .mismatch

/-- Put members into a draft one after the other, up to where they break off. -/
def putAll (put : δ → String → Source → Except Fault δ) :
    δ → List (String × Source) → Except Fault δ
  | d, [] => .ok d
  | d, (k, s) :: ms =>
    if s.isBroken then .error .malformed
    else
      match put d k s with
      | .ok d => putAll put d ms
      | .error fault => .error fault

/-- Fill a draft from a record with these fields. -/
def readRecord (fields : List String) (put : δ → String → Source → Except Fault δ) (d : δ) :
    Source → Except Fault δ
  | .object members => putAll put d members
  | .array items =>
    match putAll put d (fields.zip items) with
    | .ok d => if fields.length < items.length then .error .mismatch else .ok d
    | .error fault => .error fault
  | s => .error s.fault

/-- A text. -/
def readString : Source → Except Fault String
  | .text s => .ok s
  | s => .error s.fault

/-- Items read one after the other. -/
def readAll (read : Source → Except Fault α) : List Source → Except Fault (List α)
  | [] => .ok []
  | s :: ss =>
    match read s with
    | .error fault => .error fault
    | .ok a =>
      match readAll read ss with
      | .ok as => .ok (a :: as)
      | .error fault => .error fault

/-- An array of items of one type. -/
def readList (read : Source → Except Fault α) : Source → Except Fault (List α)
  | .array items => readAll read items
  | s => .error s.fault

/-- An object as names with values of one type. -/
def readMap (read : Source → Except Fault α) : Source → Except Fault (List (String × α))
  | .object members =>
    match readAll read (members.map Prod.snd) with
    | .ok as => .ok ((members.map Prod.fst).zip as)
    | .error fault => .error fault
  | s => .error s.fault

/-- Read a text through a reader of what it stands for. A text that breaks behind the first fault
has that fault. -/
def decode (read : Source → Except Fault α) (text : String) : Except Fault α :=
  let r := scan text
  match read r.1 with
  | .error fault => .error fault
  | .ok a => if isEnd r.2 then .ok a else .error .malformed

end Json

end Verdict
