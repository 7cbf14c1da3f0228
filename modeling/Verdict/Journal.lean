import Verdict.Registry.Config

/-
  The records that activities leave: what was registered, disabled or looked up in vain, in the
  order in which it happened. The records of an activity are a function of its input, beside the
  function of its result. `built_mem_ofConfig_iff` joins the two: a configuration leaves the
  record of a registry when it has one.
-/
namespace Verdict

/-- How much a record matters; the later levels are for following details. -/
inductive Level
  | info
  | debug
  | trace
deriving DecidableEq

namespace Level

def name : Level → String
  | info => "INFO"
  | debug => "DEBUG"
  | trace => "TRACE"

end Level

/-- A record of something that happened. -/
inductive Event
  | standardRegistered (operators : Nat)
  | registered (category : Category) (identifier : String)
  | aliased (name identifier : String)
  | unknown (name : String)
  | disabled (identifier : String)
  | built (operators aliases : Nat)
  | compiled (clauses : Nat)
  | validator (typeKey : String) (clauses : Nat)
  | loaded (path : String) (aliases disabled : Nat)
  | selected (candidates : Nat)
deriving DecidableEq

namespace Event

def level : Event → Level
  | compiled _ => .trace
  | selected _ => .info
  | standardRegistered _ | registered _ _ | aliased _ _ | unknown _ | disabled _ | built _ _
  | validator _ _ | loaded _ _ _ => .debug

/-- The part of the program that the record comes from. -/
def target : Event → String
  | standardRegistered _ | registered _ _ | aliased _ _ | unknown _ | disabled _ | built _ _ =>
    "metaprop_eval::registry"
  | compiled _ => "metaprop_eval::query"
  | validator _ _ => "metaprop_eval::validation"
  | loaded _ _ _ => "metaprop::cli::config"
  | selected _ => "metaprop::cli::filter"

def message : Event → String
  | standardRegistered n => "registered " ++ toString n ++ " standard operators"
  | registered category identifier =>
    "registered " ++ category.name ++ " operator " ++ identifier
  | aliased name identifier => "alias " ++ name ++ " -> " ++ identifier
  | unknown name => "unknown operator " ++ name
  | disabled identifier => "disabled operator " ++ identifier
  | built operators aliases =>
    "built operator registry: " ++ toString operators ++ " operators, " ++ toString aliases ++
      " aliases"
  | compiled n => "compiled selector with " ++ toString n ++ " clause(s)"
  | validator typeKey n =>
    "validator " ++ typeKey ++ " with " ++ toString n ++ " clause(s)"
  | loaded path m n =>
    "loaded registry config from " ++ path ++ ": " ++ toString m ++ " alias(es), " ++
      toString n ++ " disabled"
  | selected n => toString n ++ " candidate(s) selected"

/-- The record with its level and its origin. -/
def text (e : Event) : String := e.level.name ++ " " ++ e.target ++ " " ++ e.message

end Event

namespace Journal

/-! ## Registries -/

/-- What binding the standard identifiers leaves. -/
def addStandard (r : Registry) : List Event := [.standardRegistered r.addStandard.size]

/-- What registering an operator leaves. -/
def register (r : Registry) (identifier : String) (category : Category) : List Event :=
  if r.isFree identifier then [.registered category identifier] else []

/-- What adding an alias leaves. -/
def addAlias (r : Registry) (name target : String) : List Event :=
  match r.canonical? target with
  | some identifier => if r.isFree name then [.aliased name identifier] else []
  | none => []

/-- What a look-up leaves: a record only of a name that is not there. -/
def lookup {α : Type} : Except RegistryError α → List Event
  | .error (.unknownOperator name) => [.unknown name]
  | _ => []

/-- What removing operators one after the other leaves. -/
def disableAll (r : Registry) : List String → List Event
  | [] => []
  | identifier :: rest =>
    match r.unregister? identifier with
    | some r => .disabled identifier :: disableAll r rest
    | none => []

/-- What adding aliases one after the other leaves. -/
def addAliases (r : Registry) : List (String × String) → List Event
  | [] => []
  | (name, target) :: rest =>
    match r.addAlias name target with
    | .ok r' => addAlias r name target ++ addAliases r' rest
    | .error _ => []

/-- What building the registry of a configuration leaves. -/
def ofConfig (c : Config) : List Event :=
  addStandard .empty ++ disableAll .standard c.disabled ++
    match Registry.standard.disableAll c.disabled with
    | .error _ => []
    | .ok r =>
      addAliases r c.aliases.entries ++
        match r.addAliases c.aliases.entries with
        | .ok r => [.built r.size r.aliases.size]
        | .error _ => []

theorem built_notMem_disableAll (m n : Nat) (r : Registry) (identifiers : List String) :
    .built m n ∉ disableAll r identifiers := by
  induction identifiers generalizing r with
  | nil => simp [disableAll]
  | cons identifier rest ih =>
    unfold disableAll
    cases r.unregister? identifier with
    | none => simp
    | some s => simp [ih s]

theorem built_notMem_addAlias (m n : Nat) (r : Registry) (name target : String) :
    .built m n ∉ addAlias r name target := by
  unfold addAlias
  cases r.canonical? target with
  | none => simp
  | some identifier => by_cases h : r.isFree name = true <;> simp [h]

theorem built_notMem_addAliases (m n : Nat) (r : Registry) (es : List (String × String)) :
    .built m n ∉ addAliases r es := by
  induction es generalizing r with
  | nil => simp [addAliases]
  | cons e es ih =>
    unfold addAliases
    cases r.addAlias e.1 e.2 with
    | error error => simp
    | ok s => simp [built_notMem_addAlias, ih s]

/-- The record of a registry that was built is left by the configurations that have a registry, and
tells how large it is. -/
theorem built_mem_ofConfig_iff (c : Config) (m n : Nat) :
    .built m n ∈ ofConfig c ↔
      ∃ r, Registry.ofConfig c = .ok r ∧ r.size = m ∧ r.aliases.size = n := by
  simp only [Registry.ofConfig_eq_ok_iff]
  unfold ofConfig
  cases hd : Registry.standard.disableAll c.disabled with
  | error error => simp [addStandard, built_notMem_disableAll]
  | ok s =>
    cases ha : s.addAliases c.aliases.entries with
    | error error => simp [addStandard, built_notMem_disableAll, built_notMem_addAliases, ha]
    | ok r =>
      simp [addStandard, built_notMem_disableAll, built_notMem_addAliases, ha, eq_comm]

example : ofConfig {} = [.standardRegistered 13, .built 13 0] := by decide +kernel

end Journal

end Verdict
