import Verdict.Value.Json

/-
  Values with their kind: objects of a member `type`, the name of the kind, and a member `value`,
  the content. Absence has no content. Read back, the two members come in either order, or as
  an array of both; other members are passed over. A content that stands before its tag is put
  aside until the tag is known, and in what is put aside a tag has more forms than one: its place
  among the kinds may stand for its name. `readTagged` takes an integer content for a real, but no
  null.
-/
namespace Verdict

namespace Value

mutual
/-- The tagged document of a value. -/
def toTagged : Value → Json
  | .absent => .object [("type", .text Kind.absent.name)]
  | .integer i => .object [("type", .text Kind.integer.name), ("value", .ofInt64 i)]
  | .real (.finite r) =>
    .object [("type", .text Kind.real.name), ("value", .number (.real r))]
  | .real .nan | .real (.infinite _) =>
    .object [("type", .text Kind.real.name), ("value", .null)]
  | .text s => .object [("type", .text Kind.text.name), ("value", .text s)]
  | .boolean b => .object [("type", .text Kind.boolean.name), ("value", .boolean b)]
  | .sequence items =>
    .object [("type", .text Kind.sequence.name), ("value", .array (toTaggedItems items))]

def toTaggedItems : List Value → List Json
  | [] => []
  | v :: vs => toTagged v :: toTaggedItems vs
end

/-- How a tagged document is read: on its way, or after it was put aside. -/
inductive Reading
  | direct
  | aside
deriving DecidableEq

/-- The kind that a member names as a tag: by its name, or as the only member of an object, with
null, or put aside also with an object that is empty. -/
def tagOf (reading : Reading) : Json.Source → Option Kind
  | .text s => Kind.ofName? s
  | .object [(s, .null)] => Kind.ofName? s
  | .object [(s, .object [])] => if reading = .aside then Kind.ofName? s else none
  | _ => none

/-- The kind that the first item of an array names as a tag: by its name, or put aside also by its
place among the kinds. -/
def tagIn (reading : Reading) : Json.Source → Option Kind
  | .text s => Kind.ofName? s
  | .number (.integer i) =>
    if reading = .aside ∧ 0 ≤ i.val then Kind.all[i.val.toNat]? else none
  | _ => none

/-- A content of the kind real: an integer is widened. -/
def realContent : Json.Number → Binary64
  | .integer i => .ofInt i.val
  | .real r => .finite r

/-- A content: as it is read, and as tagged values if it is an array of them. -/
structure Content where
  source : Json.Source
  items : Option (List Value)

/-- The value of a kind with a content. -/
def ofContent? : Kind → Content → Option Value
  | .integer, ⟨.number (.integer i), _⟩ =>
    if i.val < 0x8000000000000000 then some (.integer (Int64.ofInt i.val)) else none
  | .real, ⟨.number n, _⟩ => some (.real (realContent n))
  | .text, ⟨.text s, _⟩ => some (.text s)
  | .boolean, ⟨.boolean b, _⟩ => some (.boolean b)
  | .sequence, ⟨_, items⟩ => items.map .sequence
  | .absent, ⟨.null, _⟩ => some .absent
  | _, _ => none

/-- The tag and the content among members. -/
def isOwn (name : String) : Bool := name == "type" || name == "value"

/-- How the contents among these members are read: one that stands before its tag is put aside. -/
def Reading.ofMembers (reading : Reading) (members : List (String × Json.Source)) : Reading :=
  match members.find? fun m => isOwn m.1 with
  | some ("value", _) => .aside
  | _ => reading

/-- The value of an object with these members. Tag and content are given once; no part of a
content that is put aside may be refused. -/
def ofMembers? (reading : Reading) (members : List (String × Content)) : Option Value :=
  match members.filter fun m => isOwn m.1 with
  | [("type", tag)] => if tagOf reading tag.source = some .absent then some .absent else none
  | [("type", tag), ("value", content)] =>
    (tagOf reading tag.source).bind fun k => ofContent? k content
  | [("value", content), ("type", tag)] =>
    if content.source.document?.isSome then
      (tagOf reading tag.source).bind fun k => ofContent? k content
    else none
  | _ => none

mutual
/-- The value of a tagged document. -/
def readTagged (reading : Reading) : Json.Source → Option Value
  | .object members =>
    if members.any fun m => m.2.isBroken then none
    else ofMembers? reading (contents (reading.ofMembers members) members)
  | .array [tag, content] =>
    (tagIn reading tag).bind fun k => ofContent? k ⟨content, taggedItems reading content⟩
  | _ => none

/-- The tagged values that an array holds. -/
def taggedItems (reading : Reading) : Json.Source → Option (List Value)
  | .array items => readTaggedItems reading items
  | _ => none

def readTaggedItems (reading : Reading) : List Json.Source → Option (List Value)
  | [] => some []
  | s :: ss =>
    match readTagged reading s, readTaggedItems reading ss with
    | some v, some vs => some (v :: vs)
    | _, _ => none

def contents (reading : Reading) : List (String × Json.Source) → List (String × Content)
  | [] => []
  | (k, s) :: ms => (k, ⟨s, taggedItems reading s⟩) :: contents reading ms
end

/-- The value at a place where a text holds a tagged document. -/
def readTaggedValue (s : Json.Source) : Except Json.Fault Value :=
  match readTagged .direct s with
  | some v => .ok v
  | none => .error .mismatch

end Value

end Verdict
