import Verdict.Command.Program
import Verdict.Proofs.Command.Selection
import Verdict.Proofs.Validation.Grouped

/-
  Validating the properties of a file. Every property has one report, in the order of the file, and
  a report says what the constraints of its type key say (`PropertyReport.Describes`,
  `describes_ofCheck`). A command that can present its answer fails when some report is not valid
  and for nothing else, however the answer is presented (`failure_present`,
  `failure_run_validate`). Strict checking only refuses what has no constraints
  (`reports_strict`). `validate_exact` has all of it.
-/
namespace Verdict

namespace Validators

section Judge

variable {r : Registry} {typeKey : String} {value : Value} {own : List Constraint}

theorem exists_judge_eq_unknown_iff :
    (∃ k, judge r typeKey value own = .error (.unknownValidator k)) ↔ own = [] := by
  unfold judge
  by_cases h : own = []
  · simp [h]
  · rw [if_neg h]
    cases own.find? (Constraint.isViolated r value) <;> simp [h]

end Judge

end Validators

open Constraint (ofKey)
open Validators (judge aboveZero light reserved)

namespace PropertyReport

/-- What a report says of a property: whether there are constraints for its type key and all of
them hold, and else which one is the first that does not, or that there are none. -/
structure Describes (report : PropertyReport) (r : Registry) (cs : List Constraint)
    (strict : Bool) (p : Property) : Prop where
  typeKey_eq : report.typeKey = p.typeKey
  value_eq : report.value = p.value
  kind_eq : report.kind = p.value.kind
  valid_iff : report.valid = true ↔
    (ofKey p.typeKey cs ≠ [] ∧ ∀ c ∈ ofKey p.typeKey cs, c.holds r p.value = .ok true) ∨
    (ofKey p.typeKey cs = [] ∧ strict = false)
  message_eq_none_iff : report.message = none ↔
    ofKey p.typeKey cs ≠ [] ∧ ∀ c ∈ ofKey p.typeKey cs, c.holds r p.value = .ok true
  message_of_violated : ∀ before c after, ofKey p.typeKey cs = before ++ c :: after →
    (∀ earlier ∈ before, earlier.holds r p.value = .ok true) → c.holds r p.value = .ok false →
    report.message = some ("Value " ++ p.value.display ++ " violates constraint " ++
      (c.operator.display ++ " " ++ c.bound.display))
  message_of_unknown : ofKey p.typeKey cs = [] →
    report.message = some ("No validator registered for type key: " ++ p.typeKey)

section OfCheck

variable (strict : Bool) (p : Property)

theorem typeKey_ofCheck (outcome : Except ValidationError Unit) :
    (ofCheck strict p outcome).typeKey = p.typeKey := by cases outcome <;> rfl

theorem valid_ofCheck_iff (outcome : Except ValidationError Unit) :
    (ofCheck strict p outcome).valid = true ↔
      outcome = .ok () ∨ (∃ k, outcome = .error (.unknownValidator k)) ∧ strict = false := by
  cases outcome with
  | ok _ => simp [ofCheck]
  | error e => cases e <;> simp [ofCheck, ValidationError.isUnknownValidator]

theorem message_ofCheck_eq_none_iff (outcome : Except ValidationError Unit) :
    (ofCheck strict p outcome).message = none ↔ outcome = .ok () := by
  cases outcome <;> simp [ofCheck]

theorem message_ofCheck_error {outcome : Except ValidationError Unit} {e : ValidationError}
    (h : outcome = .error e) : (ofCheck strict p outcome).message = some e.message := by
  rw [h]
  rfl

/-- The report of a check that takes the constraints of the type key one by one. -/
theorem describes_ofCheck {r : Registry} {cs : List Constraint}
    (hcs : ∀ c ∈ cs, ∃ p, r.resolve c.operator = .ok p) :
    (ofCheck strict p (judge r p.typeKey p.value (ofKey p.typeKey cs))).Describes r cs strict p := by
  have hown : ∀ c ∈ ofKey p.typeKey cs, ∃ p, r.resolve c.operator = .ok p :=
    fun c hc => hcs c ((Constraint.mem_ofKey_iff p.typeKey cs c).1 hc).1
  refine ⟨typeKey_ofCheck strict p _, ?_, ?_, ?_, ?_, ?_, ?_⟩
  · cases judge r p.typeKey p.value (ofKey p.typeKey cs) <;> rfl
  · cases judge r p.typeKey p.value (ofKey p.typeKey cs) <;> rfl
  · rw [valid_ofCheck_iff, Validators.judge_eq_ok_iff p.typeKey hown,
      Validators.exists_judge_eq_unknown_iff]
  · rw [message_ofCheck_eq_none_iff, Validators.judge_eq_ok_iff p.typeKey hown]
  · intro before c after hsplit hbefore hc
    exact message_ofCheck_error strict p ((Validators.judge_eq_violated_iff p.typeKey hown _ _).2
      ⟨rfl, before, c, after, hsplit, hbefore, hc, rfl⟩)
  · intro hnil
    exact message_ofCheck_error strict p
      ((Validators.judge_eq_unknown_iff r p.typeKey p.value _).2 hnil)

end OfCheck

end PropertyReport

/-- What is written to the target of the output, if there is one, is taken. -/
def Files.Accepts (files : Files) (output : Option String) : Prop :=
  ∀ path, output = some path →
    files.sink path = .taken ∨ files.sink path = .output ∨ files.sink path = .errors

namespace Command

/-! ## Reports -/

section Reports

variable {r : Registry} {cs : List Constraint} {vs : Validators}

theorem reports_eq_map (hvs : Validators.ofConstraints r cs = .ok vs) (strict : Bool)
    (ps : List Property) :
    reports vs strict ps = ps.map fun p =>
      .ofCheck strict p (judge r p.typeKey p.value (ofKey p.typeKey cs)) :=
  List.map_congr_left fun p _ => by rw [Validators.validate_eq_judge hvs]

theorem describes_reports (hvs : Validators.ofConstraints r cs = .ok vs) {strict : Bool}
    {ps : List Property} {i : Nat} {p : Property} {report : PropertyReport}
    (hp : ps[i]? = some p) (hreport : (reports vs strict ps)[i]? = some report) :
    report.Describes r cs strict p := by
  rw [reports_eq_map hvs, List.getElem?_map, hp] at hreport
  rw [← Option.some.inj hreport]
  exact PropertyReport.describes_ofCheck strict p
    ((Validators.ofConstraints_isOk_iff r cs).1 ⟨vs, hvs⟩)

/-- The report of strict checking: without constraints, the property is not valid. -/
def refuseUnknown (cs : List Constraint) (report : PropertyReport) : PropertyReport :=
  if ofKey report.typeKey cs = [] then { report with valid := false } else report

/-- Strict checking only refuses what has no constraints. -/
theorem reports_strict (hvs : Validators.ofConstraints r cs = .ok vs) (ps : List Property) :
    reports vs true ps = (reports vs false ps).map (refuseUnknown cs) := by
  rw [reports_eq_map hvs, reports_eq_map hvs, List.map_map]
  refine List.map_congr_left fun p _ => ?_
  show _ = refuseUnknown cs (.ofCheck false p _)
  unfold refuseUnknown
  rw [PropertyReport.typeKey_ofCheck]
  by_cases hnil : ofKey p.typeKey cs = []
  · rw [if_pos hnil, (Validators.judge_eq_unknown_iff r p.typeKey p.value _).2 hnil]
    rfl
  · rw [if_neg hnil]
    cases hjudge : judge r p.typeKey p.value (ofKey p.typeKey cs) with
    | ok _ => rfl
    | error e =>
      cases e with
      | unknownValidator k =>
        exact absurd (Validators.exists_judge_eq_unknown_iff.1 ⟨k, hjudge⟩) hnil
      | constraintViolated label value => rfl

/-- What strict checking refuses is valid without it. -/
theorem valid_of_unknown (hvs : Validators.ofConstraints r cs = .ok vs) {ps : List Property}
    {report : PropertyReport} (hreport : report ∈ reports vs false ps)
    (hnil : ofKey report.typeKey cs = []) : report.valid = true := by
  rw [reports_eq_map hvs, List.mem_map] at hreport
  obtain ⟨p, -, rfl⟩ := hreport
  have hdescribes := PropertyReport.describes_ofCheck false p
    ((Validators.ofConstraints_isOk_iff r cs).1 ⟨vs, hvs⟩)
  rw [hdescribes.typeKey_eq] at hnil
  exact hdescribes.valid_iff.2 (Or.inr ⟨hnil, rfl⟩)

end Reports

/-! ## Failures -/

theorem failure_present {files : Files} {o : Options} (h : files.Accepts o.output)
    (request : Request) (a : Answer) :
    (present files o request a).failure = verdictFailure? a := by
  unfold present
  cases hpath : o.output with
  | none => rfl
  | some path => rcases h path hpath with hsink | hsink | hsink <;> simp only [hsink]

theorem message_invalidProperties (failed total : Nat) :
    (Failure.invalidProperties failed total).message =
      toString failed ++ " of " ++ toString total ++ " propert(ies) failed validation" := rfl

theorem verdictFailure?_reports_eq_some_iff (rs : List PropertyReport) (failure : Failure) :
    verdictFailure? (.reports rs) = some failure ↔
      (∃ report ∈ rs, report.valid = false) ∧
        failure = .invalidProperties (rs.countP fun report => !report.valid) rs.length := by
  have hpos : 0 < rs.countP (fun report => !report.valid) ↔ ∃ report ∈ rs, report.valid = false := by
    simp [List.countP_pos_iff]
  unfold verdictFailure?
  rw [← hpos]
  by_cases h : 0 < rs.countP fun report => !report.valid
  · simp [h, eq_comm]
  · simp [h]

theorem failure_run_validate {files : Files} {o : Options} {constraints properties : String}
    {strict : Bool} {rs : List PropertyReport} (h : files.Accepts o.output)
    (hvalidate : validate files o.config constraints properties strict = .ok rs) :
    (run files o (.validate constraints properties strict)).failure =
      verdictFailure? (.reports rs) := by
  have hanswer : answer files o.config (.validate constraints properties strict) =
      .ok (.reports rs) := congrArg (Except.map Answer.reports) hvalidate
  rw [run_of_answer hanswer]
  exact failure_present h _ _

theorem loadValidation_eq_ok_iff {files : Files} (constraints properties : String)
    (cs : List Constraint) (ps : List Property) :
    loadValidation files constraints properties = .ok (cs, ps) ↔
      load files constraints (Json.readList Constraint.read) = .ok cs ∧
        load files properties (Json.readList Property.read) = .ok ps := by
  unfold loadValidation
  cases load files constraints (Json.readList Constraint.read) with
  | error f => simp
  | ok cs => cases load files properties (Json.readList Property.read) <;> simp

theorem loadValidation_eq_ok {files : Files} {constraints properties : String}
    {cs : List Constraint} {ps : List Property}
    (hconstraints : load files constraints (Json.readList Constraint.read) = .ok cs)
    (hproperties : load files properties (Json.readList Property.read) = .ok ps) :
    loadValidation files constraints properties = .ok (cs, ps) :=
  (loadValidation_eq_ok_iff _ _ _ _).2 ⟨hconstraints, hproperties⟩

theorem validate_eq_ok_iff {files : Files} {config : Option String} {r : Registry}
    (hr : loadRegistry files config = .ok r) (constraints properties : String) (strict : Bool)
    (rs : List PropertyReport) :
    validate files config constraints properties strict = .ok rs ↔
      ∃ cs ps vs, loadValidation files constraints properties = .ok (cs, ps) ∧
        Validators.ofConstraints r cs = .ok vs ∧ reports vs strict ps = rs := by
  unfold validate
  rw [hr]
  dsimp only
  cases loadValidation files constraints properties with
  | error f => simp
  | ok loaded =>
    obtain ⟨cs, ps⟩ := loaded
    cases hvs : Validators.ofConstraints r cs <;> simp [hvs, and_assoc]

theorem validate_eq_reports {files : Files} {config : Option String}
    {constraints properties : String} {r : Registry} {cs : List Constraint} {ps : List Property}
    {vs : Validators} (hregistry : loadRegistry files config = .ok r)
    (hload : loadValidation files constraints properties = .ok (cs, ps))
    (hvs : Validators.ofConstraints r cs = .ok vs) (strict : Bool) :
    validate files config constraints properties strict = .ok (reports vs strict ps) :=
  (validate_eq_ok_iff hregistry _ _ strict _).2 ⟨cs, ps, vs, hload, hvs, rfl⟩

/-- Validating the properties of a file under the constraints of another, whenever both can be
read and the operators of the constraints resolve. Every property has its report, in the order of
the file, which says what the constraints of its type key say; a command that can present the
reports fails exactly when one of them is not valid, counting these, in whatever form it presents
them; and strict checking changes the reports of properties without constraints, which it takes
for not valid, and no others. -/
theorem validate_exact (files : Files) (config : Option String) (constraints properties : String)
    (r : Registry) (cs : List Constraint) (ps : List Property)
    (hregistry : loadRegistry files config = .ok r)
    (hload : loadValidation files constraints properties = .ok (cs, ps))
    (hresolve : ∀ c ∈ cs, ∃ p, r.resolve c.operator = .ok p) :
    (∀ strict, ∃ rs, validate files config constraints properties strict = .ok rs ∧
      rs.length = ps.length ∧
      (∀ (i : Nat) (p : Property) (report : PropertyReport), ps[i]? = some p →
        rs[i]? = some report → report.Describes r cs strict p) ∧
      ∀ o : Options, o.config = config → files.Accepts o.output →
        ((∃ failure, (run files o (.validate constraints properties strict)).failure =
            some failure) ↔ ∃ report ∈ rs, report.valid = false) ∧
        (∀ failure, (run files o (.validate constraints properties strict)).failure =
            some failure →
          failure.message = toString (rs.countP fun report => !report.valid) ++ " of " ++
            toString rs.length ++ " propert(ies) failed validation") ∧
        (Program.outcomeOf o (run files o (.validate constraints properties strict))).exit =
          if ∃ report ∈ rs, report.valid = false then 1 else 0) ∧
    (∀ lenient strictly, validate files config constraints properties false = .ok lenient →
      validate files config constraints properties true = .ok strictly →
      strictly = lenient.map (refuseUnknown cs) ∧
      ∀ report ∈ lenient, ofKey report.typeKey cs = [] → report.valid = true) := by
  obtain ⟨vs, hvs⟩ := (Validators.ofConstraints_isOk_iff r cs).2 hresolve
  have hvalidate := validate_eq_reports hregistry hload hvs
  refine ⟨fun strict => ⟨_, hvalidate strict, reports_length vs strict ps,
    fun i p report hp hreport => describes_reports hvs hp hreport, ?_⟩, ?_⟩
  · rintro o rfl haccepts
    have hfailure := failure_run_validate haccepts (hvalidate strict)
    have hiff := verdictFailure?_reports_eq_some_iff (reports vs strict ps)
    have hfails : (∃ failure, (run files o (.validate constraints properties strict)).failure =
        some failure) ↔ ∃ report ∈ reports vs strict ps, report.valid = false := by
      rw [hfailure]
      simp only [hiff, exists_and_left, exists_eq, and_true]
    refine ⟨hfails, ?_, ?_⟩
    · intro failure h
      rw [hfailure, hiff] at h
      rw [h.2, message_invalidProperties]
    · rw [← Option.isSome_iff_exists] at hfails
      by_cases hinvalid : ∃ report ∈ reports vs strict ps, report.valid = false
      · exact (if_pos (hfails.2 hinvalid)).trans (if_pos hinvalid).symm
      · exact (if_neg (mt hfails.1 hinvalid)).trans (if_neg hinvalid).symm
  · intro lenient strictly hlenient hstrictly
    rw [hvalidate] at hlenient hstrictly
    rw [← Except.ok.inj hlenient, ← Except.ok.inj hstrictly]
    exact ⟨reports_strict hvs ps, fun report => valid_of_unknown hvs⟩

def propertyDocument (typeKey : String) (value : Json) : Json :=
  .object [("type_key", .text typeKey), ("value", value)]

/-- Constraints on ports and weights, and a port, a zone and a weight. -/
def portFiles : Files :=
  .ofDocuments [("constraints.json", .array ([aboveZero, light, reserved].map Constraint.toJson)),
    ("properties.json", .array [propertyDocument "port" (.ofNat 8080),
      propertyDocument "zone" (.text "eu"), propertyDocument "weight" (.ofNat 3)])]

def portProperties : List Property :=
  [⟨"port", .integer 8080⟩, ⟨"zone", .text "eu"⟩, ⟨"weight", .integer 3⟩]

def tableInFile : Options where
  format := .table
  output := some "out.txt"

theorem loadValidation_portFiles :
    loadValidation portFiles "constraints.json" "properties.json" =
      .ok ([aboveZero, light, reserved], portProperties) :=
  loadValidation_eq_ok (load_of_holds (Files.holds_ofDocuments rfl) (by decide) rfl)
    (load_of_holds (Files.holds_ofDocuments rfl) (by decide) rfl)

/-- The port is refused by its second constraint; the zone has none. -/
def portReports (strict : Bool) : List PropertyReport :=
  [⟨"port", .integer 8080, false, some "Value 8080 violates constraint lt 1024"⟩,
    ⟨"zone", .text "eu", !strict, some "No validator registered for type key: zone"⟩,
    ⟨"weight", .integer 3, true, none⟩]

theorem validate_portFiles :
    validate portFiles none "constraints.json" "properties.json" false =
      .ok (portReports false) := by
  have hregistry : loadRegistry portFiles none = .ok Registry.standard := rfl
  obtain ⟨vs, hvs, hreports⟩ : ∃ vs,
      Validators.ofConstraints Registry.standard [aboveZero, light, reserved] = .ok vs ∧
      reports vs false portProperties = portReports false := ⟨_, rfl, rfl⟩
  rw [validate_eq_reports hregistry loadValidation_portFiles hvs, hreports]

/-- The zone is accepted with a message, and refused with the same message when checking is
strict; the port is refused either way. -/
theorem validate_port :
    loadRegistry portFiles none = .ok Registry.standard ∧
    loadValidation portFiles "constraints.json" "properties.json" =
      .ok ([aboveZero, light, reserved], portProperties) ∧
    (∀ c ∈ [aboveZero, light, reserved], ∃ p, Registry.standard.resolve c.operator = .ok p) ∧
    portFiles.Accepts tableInFile.output ∧
    validate portFiles none "constraints.json" "properties.json" false =
      .ok (portReports false) ∧
    (∃ failure, (run portFiles tableInFile
        (.validate "constraints.json" "properties.json" false)).failure = some failure ∧
      failure.message = "1 of 3 propert(ies) failed validation") ∧
    validate portFiles none "constraints.json" "properties.json" true =
      .ok (portReports true) := by
  have hregistry : loadRegistry portFiles none = .ok Registry.standard := rfl
  have hload := loadValidation_portFiles
  have hresolve : ∀ c ∈ [aboveZero, light, reserved],
      ∃ p, Registry.standard.resolve c.operator = .ok p := by
    intro c hc
    simp only [List.mem_cons, List.not_mem_nil, or_false] at hc
    rcases hc with rfl | rfl | rfl <;> exact ⟨_, rfl⟩
  have haccepts : portFiles.Accepts tableInFile.output := fun _ _ => Or.inl rfl
  obtain ⟨hreports, hmodes⟩ := validate_exact portFiles none "constraints.json" "properties.json"
    Registry.standard _ _ hregistry hload hresolve
  obtain ⟨strictly, hstrictly, -⟩ := hreports true
  obtain ⟨lenient, hlenient, -, -, hrun⟩ := hreports false
  obtain rfl := Except.ok.inj (hlenient.symm.trans validate_portFiles)
  obtain ⟨rfl, -⟩ := hmodes _ strictly hlenient hstrictly
  obtain ⟨hfails, hmessage, -⟩ := hrun tableInFile rfl haccepts
  obtain ⟨failure, hfailure⟩ := hfails.2 ⟨_, List.mem_cons_self, rfl⟩
  exact ⟨hregistry, hload, hresolve, haccepts, hlenient,
    ⟨failure, hfailure, hmessage failure hfailure⟩, hstrictly⟩

end Command

end Verdict
