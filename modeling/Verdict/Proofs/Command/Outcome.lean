import Verdict.Proofs.Command.CommandLine
import Verdict.Proofs.Command.Validation
import Verdict.Proofs.Selection.Compiled

/-
  Outcomes under the options that only say how an answer is presented. A request has an answer
  exactly when everything that it reads can be loaded and every operator in it resolves (`Loads`,
  `answer_isOk_iff`), and neither depends on these options. Without an answer nothing is printed
  and nothing is written, and the status is 1; with one, every run presents this answer where it
  is asked to (`Presents`), with the status of the answer. `outcome_exact` has it for all command
  lines, and that there is one for every choice of options.
-/
namespace Verdict

/-- The exit status of an answer: that of a failure when some property is not valid. -/
def Answer.status : Answer → Nat
  | .reports rs => if ∃ report ∈ rs, report.valid = false then 1 else 0
  | .verdict _ | .selection _ | .listing _ => 0

namespace Command

variable {files : Files} {config : Option String}

/-! ## Requests that have an answer -/

/-- The files of a request can be loaded and its operators resolve in the registry. -/
def Resolves (files : Files) (r : Registry) : Request → Prop
  | .eval operator _ _ => ∃ p, r.resolveText operator = .ok p
  | .filter queries candidates =>
    ∃ qs cs, load files queries (Json.readList Query.read) = .ok qs ∧
      load files candidates (Json.readList Candidate.read) = .ok cs ∧
      ∀ q ∈ qs, ∃ p, r.resolve q.operator = .ok p
  | .validate constraints properties _ =>
    ∃ cs ps, load files constraints (Json.readList Constraint.read) = .ok cs ∧
      load files properties (Json.readList Property.read) = .ok ps ∧
      ∀ c ∈ cs, ∃ p, r.resolve c.operator = .ok p
  | .operators => True

/-- The configuration, the files and the operators of a request can be loaded and resolved. -/
def Loads (files : Files) (config : Option String) (request : Request) : Prop :=
  ∃ c r, loadConfig files config = .ok c ∧ Registry.ofConfig c = .ok r ∧
    Resolves files r request

theorem loadRegistry_eq_ok_iff (r : Registry) :
    loadRegistry files config = .ok r ↔
      ∃ c, loadConfig files config = .ok c ∧ Registry.ofConfig c = .ok r := by
  cases hload : loadConfig files config with
  | error f => simp [loadRegistry, hload]
  | ok c =>
    rw [loadRegistry_of_loadConfig hload]
    constructor
    · intro h
      refine ⟨c, rfl, ?_⟩
      cases hc : Registry.ofConfig c with
      | error e =>
        rw [hc] at h
        cases h
      | ok s =>
        rw [hc] at h
        have hs : s = r := Except.ok.inj h
        rw [hs]
    · intro ⟨c', hc', hr⟩
      cases hc'
      rw [hr]
      rfl

theorem loads_iff (request : Request) :
    Loads files config request ↔
      ∃ r, loadRegistry files config = .ok r ∧ Resolves files r request := by
  simp only [loadRegistry_eq_ok_iff]
  constructor
  · rintro ⟨c, r, hload, hc, hr⟩
    exact ⟨r, ⟨c, hload, hc⟩, hr⟩
  · rintro ⟨r, ⟨c, hload, hc⟩, hr⟩
    exact ⟨c, r, hload, hc, hr⟩

section Answer

variable {r : Registry}

theorem eval_isOk_iff (hr : loadRegistry files config = .ok r) (operator left right : String) :
    (∃ b, eval files config operator left right = .ok b) ↔
      Resolves files r (.eval operator left right) := by
  unfold eval Resolves
  rw [hr]
  dsimp only
  cases r.resolveText operator <;> simp

theorem filter_eq_ok_iff (hr : loadRegistry files config = .ok r) (queries candidates : String)
    (ids : List String) :
    filter files config queries candidates = .ok ids ↔
      ∃ qs cs s, loadSelection files queries candidates = .ok (qs, cs) ∧
        Selector.compile r qs = .ok s ∧ (s.filter cs).map Candidate.id = ids := by
  unfold filter
  rw [hr]
  dsimp only
  cases loadSelection files queries candidates with
  | error f => simp
  | ok loaded =>
    obtain ⟨qs, cs⟩ := loaded
    cases hs : Selector.compile r qs <;> simp [hs, and_assoc]

theorem filter_isOk_iff (hr : loadRegistry files config = .ok r) (queries candidates : String) :
    (∃ ids, filter files config queries candidates = .ok ids) ↔
      Resolves files r (.filter queries candidates) := by
  simp only [filter_eq_ok_iff hr, loadSelection_eq_ok_iff]
  constructor
  · rintro ⟨-, qs, cs, s, ⟨hqs, hcs⟩, hs, -⟩
    exact ⟨qs, cs, hqs, hcs, (Selector.compile_isOk_iff r qs).1 ⟨s, hs⟩⟩
  · rintro ⟨qs, cs, hqs, hcs, hresolve⟩
    obtain ⟨s, hs⟩ := (Selector.compile_isOk_iff r qs).2 hresolve
    exact ⟨_, qs, cs, s, ⟨hqs, hcs⟩, hs, rfl⟩

theorem validate_isOk_iff (hr : loadRegistry files config = .ok r)
    (constraints properties : String) (strict : Bool) :
    (∃ rs, validate files config constraints properties strict = .ok rs) ↔
      Resolves files r (.validate constraints properties strict) := by
  simp only [validate_eq_ok_iff hr, loadValidation_eq_ok_iff]
  constructor
  · rintro ⟨-, cs, ps, vs, ⟨hcs, hps⟩, hvs, -⟩
    exact ⟨cs, ps, hcs, hps, (Validators.ofConstraints_isOk_iff r cs).1 ⟨vs, hvs⟩⟩
  · rintro ⟨cs, ps, hcs, hps, hresolve⟩
    obtain ⟨vs, hvs⟩ := (Validators.ofConstraints_isOk_iff r cs).2 hresolve
    exact ⟨_, cs, ps, vs, ⟨hcs, hps⟩, hvs, rfl⟩

theorem operators_isOk_iff (hr : loadRegistry files config = .ok r) :
    (∃ os, operators files config = .ok os) ↔ Resolves files r .operators := by
  unfold operators
  rw [hr]
  exact iff_of_true ⟨_, rfl⟩ trivial

theorem exists_map_eq_ok_iff {ε α β : Type} (x : Except ε α) (f : α → β) :
    (∃ b, x.map f = .ok b) ↔ ∃ a, x = .ok a := by
  cases x <;> simp [Except.map]

/-- A request has an answer exactly when all that it reads can be loaded and resolved. -/
theorem answer_isOk_iff (request : Request) :
    (∃ a, answer files config request = .ok a) ↔ Loads files config request := by
  rw [loads_iff]
  cases hr : loadRegistry files config with
  | error f =>
    refine iff_of_false ?_ (by simp)
    cases request <;> simp [answer, eval, filter, validate, operators, hr, Except.map]
  | ok r =>
    simp only [Except.ok.injEq, exists_eq_left']
    cases request with
    | eval operator left right =>
      exact (exists_map_eq_ok_iff _ _).trans (eval_isOk_iff hr operator left right)
    | filter queries candidates =>
      exact (exists_map_eq_ok_iff _ _).trans (filter_isOk_iff hr queries candidates)
    | validate constraints properties strict =>
      exact (exists_map_eq_ok_iff _ _).trans (validate_isOk_iff hr constraints properties strict)
    | operators => exact (exists_map_eq_ok_iff _ _).trans (operators_isOk_iff hr)

end Answer

/-! ## Outcomes -/

/-- An outcome presents an answer as the options ask for, where what is written is taken, goes to
standard output or goes to standard error, and has the status of the answer. -/
structure Presents (files : Files) (o : Options) (request : Request) (a : Answer)
    (outcome : Program.Outcome) : Prop where
  exit_eq : outcome.exit = a.status
  printed : o.output = none →
    outcome.stdout = Answer.unlines (a.lines o.color o.verbose o.format request) ∧
      outcome.written = none
  taken : ∀ path, o.output = some path → files.sink path = .taken →
    outcome.stdout = "" ∧ outcome.written = some (path, a.fileText o.format request)
  passed : ∀ path, o.output = some path → files.sink path = .output →
    outcome.stdout = a.fileText o.format request ∧ outcome.written = none
  told : ∀ path, o.output = some path → files.sink path = .errors →
    outcome.stdout = "" ∧ outcome.written = none

/-- In the forms that are not meant for people, what is printed is what is written into a file,
whatever the colours and however much is told. -/
theorem unlines_lines {format : Format} (h : format ≠ .pretty) (color verbose : Bool)
    (request : Request) (a : Answer) :
    Answer.unlines (a.lines color verbose format request) =
      a.fileText format request ++ "\n" := by
  have hone (s : String) : Answer.unlines [s] = s ++ "\n" := by
    simp [Answer.unlines, String.join]
  cases format with
  | pretty => exact absurd rfl h
  | json | table => exact hone _

theorem status_eq (a : Answer) :
    (if (verdictFailure? a).isSome then 1 else 0) = a.status := by
  cases a with
  | verdict | selection | listing => rfl
  | reports rs =>
    have hfails : (verdictFailure? (.reports rs)).isSome = true ↔
        ∃ report ∈ rs, report.valid = false := by
      simp only [Option.isSome_iff_exists, verdictFailure?_reports_eq_some_iff, exists_and_left,
        exists_eq, and_true]
    unfold Answer.status
    simp only [hfails]

theorem presents_outcomeOf {o : Options} {request : Request} {a : Answer}
    (h : answer files o.config request = .ok a) (haccepts : files.Accepts o.output) :
    Presents files o request a (Program.outcomeOf o (run files o request)) := by
  have hfailure := failure_present haccepts request a
  rw [run_of_answer h]
  refine ⟨?_, fun hnone => ?_, fun path hpath hsink => ?_, fun path hpath hsink => ?_,
    fun path hpath hsink => ?_⟩
  · exact (congrArg (fun failure => if failure.isSome then 1 else 0) hfailure).trans (status_eq a)
  · simp [Program.outcomeOf, present, hnone]
  · simp [Program.outcomeOf, present, hpath, hsink]
  · simp [Program.outcomeOf, present, hpath, hsink]
  · simp [Program.outcomeOf, present, hpath, hsink]

/-- The arguments ask for a request under a configuration. -/
structure Asks (arguments : List String) (i : Arguments.Invocation) (config : Option String)
    (request : Request) : Prop where
  parse_eq : Arguments.parse arguments = .ok i
  config_eq : i.options.config = config
  request_eq : i.request = request

theorem Asks.run_eq {arguments : List String} {i : Arguments.Invocation} {request : Request}
    (h : Asks arguments i config request) (terminal : Bool) :
    Program.run files terminal arguments =
      Program.outcomeOf (Program.optionsOf terminal i)
        (run files (Program.optionsOf terminal i) request) := by
  unfold Program.run
  rw [h.parse_eq]
  dsimp only
  rw [h.request_eq]

theorem Asks.config_optionsOf {arguments : List String} {i : Arguments.Invocation}
    {request : Request} (h : Asks arguments i config request) (terminal : Bool) :
    (Program.optionsOf terminal i).config = config := h.config_eq

/-- The notes on rejections agree with the selection. -/
theorem filter_eq_filter_rejections (s : Selector) (cs : List Candidate) :
    s.filter cs = cs.filter fun c => (rejections s [c]).isEmpty := by
  refine List.filter_congr fun c _ => ?_
  rw [Bool.eq_iff_iff, s.selects_iff_mismatches]
  simp [rejections]

/-- Every command line for a request under a configuration has the same outcome, but for how it
presents it. If the configuration, a file or an operator cannot be loaded or resolved, nothing is
printed, no file is written and the status is 1; else there is one answer, which every run
presents with the status of the answer, if its output can be written; as a document or a table it
is the same text with all colours and notes, printed or in a file. Every choice of the options has
a command line, and what is noted on rejected candidates agrees with the selection. -/
theorem outcome_exact (files : Files) (config : Option String) (request : Request) :
    (¬ Loads files config request → ∀ arguments i, Asks arguments i config request →
      ∀ terminal, (Program.run files terminal arguments).stdout = "" ∧
        (Program.run files terminal arguments).written = none ∧
        (Program.run files terminal arguments).exit = 1) ∧
    (Loads files config request → ∃ a, answer files config request = .ok a ∧
      ∀ arguments i, Asks arguments i config request → files.Accepts i.options.output →
        ∀ terminal, Presents files (Program.optionsOf terminal i) request a
          (Program.run files terminal arguments)) ∧
    (∀ (a : Answer) (format : Format) color verbose, format ≠ .pretty →
      Answer.unlines (a.lines color verbose format request) = a.fileText format request ++ "\n") ∧
    (∀ i : Arguments.Invocation, i.IsWritable → Asks i.arguments i i.options.config i.request) ∧
    ∀ s cs, Selector.filter s cs = cs.filter fun c => (rejections s [c]).isEmpty := by
  refine ⟨fun hnot arguments i hasks terminal => ?_, fun hloads => ?_,
    fun a format color verbose h => unlines_lines h color verbose request a,
    fun i hi => ⟨Arguments.parse_arguments hi, rfl, rfl⟩, filter_eq_filter_rejections⟩
  · obtain ⟨failure, hfailure⟩ : ∃ failure, answer files config request = .error failure := by
      cases hanswer : answer files config request with
      | error failure => exact ⟨failure, rfl⟩
      | ok a => exact absurd ((answer_isOk_iff request).1 ⟨a, hanswer⟩) hnot
    rw [← hasks.config_optionsOf terminal] at hfailure
    rw [hasks.run_eq, run_of_failure hfailure]
    exact ⟨rfl, rfl, rfl⟩
  · obtain ⟨a, ha⟩ := (answer_isOk_iff request).2 hloads
    refine ⟨a, ha, fun arguments i hasks haccepts terminal => ?_⟩
    rw [← hasks.config_optionsOf terminal] at ha
    rw [hasks.run_eq]
    exact presents_outcomeOf ha haccepts

/-- All is told, a table is written into a file, and what is printed is coloured. -/
def tableArguments : List String :=
  ["validate", "-vo", "out.txt", "--constraints=constraints.json", "--format", "table",
    "properties.json", "--color=always"]

def tableInvocation : Arguments.Invocation where
  options := { verbose := true, format := .table, output := some "out.txt" }
  colorMode := .always
  request := .validate "constraints.json" "properties.json" false

/-- The operators of a configuration into a file. -/
def listingInvocation : Arguments.Invocation where
  options := { config := some "config.json", format := .json, output := some "out.txt" }
  colorMode := .never
  request := .operators

/-- A port that is not valid gives the status 1 with the reports in a file, and a configuration
that is not there the same status without a file. -/
theorem outcome_port :
    Asks tableArguments tableInvocation none
      (.validate "constraints.json" "properties.json" false) ∧
    Loads portFiles none (.validate "constraints.json" "properties.json" false) ∧
    portFiles.Accepts (some "out.txt") ∧
    (Program.run portFiles true tableArguments).exit = 1 ∧
    (Program.run portFiles true tableArguments).stdout = "" ∧
    (Program.run portFiles true tableArguments).written =
      some ("out.txt", (Answer.reports (portReports false)).fileText .table
        (.validate "constraints.json" "properties.json" false)) ∧
    Answer.unlines ((Answer.reports (portReports false)).lines true true .table
        (.validate "constraints.json" "properties.json" false)) =
      (Answer.reports (portReports false)).fileText .table
        (.validate "constraints.json" "properties.json" false) ++ "\n" ∧
    listingInvocation.IsWritable ∧ ¬ Loads portFiles (some "config.json") .operators ∧
    (Program.run portFiles true listingInvocation.arguments).exit = 1 ∧
    (Program.run portFiles true listingInvocation.arguments).stdout = "" ∧
    (Program.run portFiles true listingInvocation.arguments).written = none := by
  have hasks : Asks tableArguments tableInvocation none
      (.validate "constraints.json" "properties.json" false) := ⟨rfl, rfl, rfl⟩
  have haccepts : portFiles.Accepts (some "out.txt") := fun _ _ => Or.inl rfl
  have hanswer : answer portFiles none (.validate "constraints.json" "properties.json" false) =
      .ok (.reports (portReports false)) := by
    unfold answer
    dsimp only
    rw [validate_portFiles]
    rfl
  have hloads := (answer_isOk_iff _).1 ⟨_, hanswer⟩
  have hwritable : listingInvocation.IsWritable := ⟨by decide, by decide, by decide, rfl⟩
  have hmissing : ¬ Loads portFiles (some "config.json") .operators := by
    rintro ⟨c, -, hload, -⟩
    cases hload
  obtain ⟨-, hpresents, hforms, -, -⟩ := outcome_exact portFiles none
    (.validate "constraints.json" "properties.json" false)
  obtain ⟨a, ha, hpresents⟩ := hpresents hloads
  obtain rfl := Except.ok.inj (ha.symm.trans hanswer)
  have htable := hpresents tableArguments tableInvocation hasks haccepts true
  obtain ⟨hstdout, hwritten⟩ := htable.taken "out.txt" rfl rfl
  obtain ⟨hfails, -, -, hlines, -⟩ := outcome_exact portFiles (some "config.json") .operators
  obtain ⟨hnothing, hnofile, hstatus⟩ :=
    hfails hmissing _ listingInvocation (hlines listingInvocation hwritable) true
  exact ⟨hasks, hloads, haccepts, htable.exit_eq, hstdout, hwritten,
    hforms _ .table true true (by decide), hwritable, hmissing, hstatus, hnothing, hnofile⟩

end Command

end Verdict
