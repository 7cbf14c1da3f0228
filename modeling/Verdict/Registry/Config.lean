import Verdict.Registry.Resolve

/-
  Configured registries: the standard one without the disabled operators, and with aliases in
  their order. Every disabled name has to be an operator that is still there, and every alias a
  free name for one (`ofConfig_eq_ok_iff`).
-/
namespace Verdict

/-- Changes to the standard registry. -/
structure Config where
  aliases : OrderedMap String := .empty
  disabled : List String := []
deriving DecidableEq

namespace Config

instance : Inhabited Config := ⟨{}⟩

/-- An alias more; one of the same name takes the new target in its place. -/
def withAlias (c : Config) (name target : String) : Config :=
  { c with aliases := c.aliases.insert name target }

/-- A disabled name more. -/
def withDisabled (c : Config) (identifier : String) : Config :=
  { c with disabled := c.disabled ++ [identifier] }

/-- Nothing is changed. -/
def isEmpty (c : Config) : Bool := c.aliases.isEmpty && c.disabled.isEmpty

/-- The document of a configuration. -/
def toJson (c : Config) : Json :=
  .object [("aliases", .object (c.aliases.entries.map fun e => (e.1, .text e.2))),
    ("disabled", .ofTexts c.disabled)]

/-- A configuration of which some fields are read. -/
structure Draft where
  aliases : Option (List (String × String)) := none
  disabled : Option (List String) := none

def Draft.put (d : Draft) (field : String) (s : Json.Source) : Except Json.Fault Draft :=
  if field = "aliases" then
    (Json.fill d.aliases (Json.readMap Json.readString) s).map fun a => { d with aliases := a }
  else if field = "disabled" then
    (Json.fill d.disabled (Json.readList Json.readString) s).map fun a => { d with disabled := a }
  else .error .mismatch

/-- A configuration in a text. Both fields may be missing, and there are no others. -/
def read (s : Json.Source) : Except Json.Fault Config :=
  (Json.readRecord ["aliases", "disabled"] Draft.put {} s).map fun d =>
    { aliases := .ofList (d.aliases.getD []), disabled := d.disabled.getD [] }

end Config

namespace Registry

/-- Remove operators one after the other. -/
def disableAll (r : Registry) : List String → Except RegistryError Registry
  | [] => .ok r
  | identifier :: rest =>
    match r.unregister? identifier with
    | some r => r.disableAll rest
    | none => .error (.unknownOperator identifier)

/-- Add aliases one after the other. -/
def addAliases (r : Registry) : List (String × String) → Except RegistryError Registry
  | [] => .ok r
  | (name, target) :: rest =>
    match r.addAlias name target with
    | .ok r => r.addAliases rest
    | .error e => .error e

/-- The registry of a configuration. -/
def ofConfig (c : Config) : Except RegistryError Registry :=
  match standard.disableAll c.disabled with
  | .ok r => r.addAliases c.aliases.entries
  | .error e => .error e

theorem ofConfig_eq_ok_iff (c : Config) (r : Registry) :
    ofConfig c = .ok r ↔
      ∃ s, standard.disableAll c.disabled = .ok s ∧ s.addAliases c.aliases.entries = .ok r := by
  unfold ofConfig
  cases standard.disableAll c.disabled with
  | error error => simp
  | ok s => simp

example : ofConfig {} = .ok standard := rfl

end Registry

end Verdict
