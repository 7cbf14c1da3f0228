import Verdict.Json.Basic

/-
  A JSON text as it is read: a document some parts of which may be well formed without standing
  for anything, such as a number beyond all reals, half of a surrogate pair or an array nested
  too deep. A reader that passes over such a part does not mind it. Where the text cannot be read
  any further it is broken, and no reader gets past that; `document?` minds both, and
  `document?_source` says that it gives back every document, no part of which is broken
  (`isBroken_source`).
-/
namespace Verdict

namespace Json

/-- What a text stands for; `refused` is a part that is well formed and stands for nothing, and
`broken` stands last where no more can be read. -/
inductive Source
  | refused
  | broken
  | null
  | boolean (b : Bool)
  | number (n : Number)
  | text (s : String)
  | array (items : List Source)
  | object (members : List (String × Source))

namespace Source

instance : Inhabited Source := ⟨.null⟩

/-- Nothing can be read from here on. -/
def isBroken : Source → Bool
  | .broken => true
  | _ => false

mutual
/-- The document, if no part of it is refused or broken. -/
def document? : Source → Option Json
  | .refused | .broken => none
  | .null => some .null
  | .boolean b => some (.boolean b)
  | .number n => some (.number n)
  | .text s => some (.text s)
  | .array items => (documents? items).map .array
  | .object members => (memberDocuments? members).map .object

def documents? : List Source → Option (List Json)
  | [] => some []
  | s :: ss =>
    match document? s, documents? ss with
    | some j, some js => some (j :: js)
    | _, _ => none

def memberDocuments? : List (String × Source) → Option (List (String × Json))
  | [] => some []
  | (k, s) :: ms =>
    match document? s, memberDocuments? ms with
    | some j, some js => some ((k, j) :: js)
    | _, _ => none
end

end Source

mutual
/-- A document as it is read. -/
def source : Json → Source
  | .null => .null
  | .boolean b => .boolean b
  | .number n => .number n
  | .text s => .text s
  | .array items => .array (sources items)
  | .object members => .object (memberSources members)

def sources : List Json → List Source
  | [] => []
  | j :: js => source j :: sources js

def memberSources : List (String × Json) → List (String × Source)
  | [] => []
  | (k, j) :: ms => (k, source j) :: memberSources ms
end

theorem sources_eq_map (js : List Json) : sources js = js.map source := by
  induction js with
  | nil => rfl
  | cons j js ih => rw [sources, ih, List.map_cons]

theorem memberSources_eq_map (ms : List (String × Json)) :
    memberSources ms = ms.map fun m => (m.1, source m.2) := by
  induction ms with
  | nil => rfl
  | cons m ms ih => rw [memberSources, ih, List.map_cons]

theorem isBroken_source (j : Json) : j.source.isBroken = false := by cases j <;> rfl

mutual
theorem document?_source : (j : Json) → j.source.document? = some j
  | .null => rfl
  | .boolean _ => rfl
  | .number _ => rfl
  | .text _ => rfl
  | .array items => by simp [source, Source.document?, documents?_sources items]
  | .object members => by simp [source, Source.document?, memberDocuments?_memberSources members]

theorem documents?_sources : (js : List Json) → Source.documents? (sources js) = some js
  | [] => rfl
  | j :: js => by simp [sources, Source.documents?, document?_source j, documents?_sources js]

theorem memberDocuments?_memberSources :
    (ms : List (String × Json)) → Source.memberDocuments? (memberSources ms) = some ms
  | [] => rfl
  | (k, j) :: ms => by
    simp [memberSources, Source.memberDocuments?, document?_source j,
      memberDocuments?_memberSources ms]
end

end Json

end Verdict
