import Verdict.Command.Program

/-
  Command lines that are written. An option is written under its long name, with its value
  attached if it takes one, and the operands stand behind two hyphens, where nothing is an option.
  Options that can be given together are read one after the other (`readProgram_arguments`,
  `readCommand_arguments`), so every invocation in which no path is empty is what its command line
  means: `parse_arguments`.
-/
namespace Verdict

namespace Arguments

/-! ## Written options -/

/-- The long name of an option. -/
def Opt.longName : Opt → String
  | verbose => "verbose"
  | format => "format"
  | output => "output"
  | color => "color"
  | config => "config"
  | queries => "queries"
  | constraints => "constraints"
  | strict => "strict"
  | version => "version"
  | help => "help"

theorem Opt.ofLong?_longName (o : Opt) : ofLong? o.longName = some o := by cases o <;> rfl

/-- No name holds the mark that a value stands behind. -/
theorem Opt.all_longName (o : Opt) : o.longName.toList.all (· != '=') = true := by
  cases o <;> rfl

/-- The characters of an option: its name behind two hyphens, and its value if it takes one. -/
def writeOption (e : Opt × String) : List Char :=
  '-' :: '-' :: (e.1.longName.toList ++ if e.1.takesValue then '=' :: e.2.toList else [])

/-- An option as an argument. -/
def argument (e : Opt × String) : String := String.ofList (writeOption e)

/-- The option with its value can be given to a command. -/
structure Fits (command : Option CommandName) (e : Opt × String) : Prop where
  accepted : e.1.accepted command = true
  valid : e.1.takesValue = true → e.1.validValue e.2 = true
  empty : e.1.takesValue = false → e.2 = ""
  not_version : e.1 ≠ .version
  not_help : e.1 ≠ .help

/-- What has been read, and an option more. -/
def Given.with (g : Given) (e : Opt × String) : Given := { g with options := g.options ++ [e] }

variable {command : Option CommandName} {g : Given} {e : Opt × String}

theorem Given.add_of_fits (h : Fits command e) (hfree : g.has e.1 = false) :
    g.add e.1 e.2 = .ok (g.with e) := by
  unfold add
  rw [if_neg h.not_version, if_neg h.not_help, hfree, if_neg (by decide)]
  rfl

theorem long?_longName (h : Fits command e) : Opt.long? command e.1.longName = some e.1 := by
  unfold Opt.long?
  rw [Opt.ofLong?_longName]
  exact Option.filter_some_pos h.accepted

theorem long_longName (h : Fits command e) (hfree : g.has e.1 = false) :
    long command g (e.1.longName.toList ++ if e.1.takesValue then '=' :: e.2.toList else []) =
      .ok (g.with e, none) := by
  have hname := List.all_eq_true.1 (Opt.all_longName e.1)
  have hadd := Given.add_of_fits h hfree
  have htake : ('=' :: e.2.toList).takeWhile (· != '=') = [] :=
    List.takeWhile_cons_of_neg (by decide)
  have hdrop : ('=' :: e.2.toList).dropWhile (· != '=') = '=' :: e.2.toList :=
    List.dropWhile_cons_of_neg (by decide)
  unfold long
  dsimp only
  rw [List.takeWhile_append_of_pos hname, List.dropWhile_append_of_pos hname]
  cases htakes : e.1.takesValue with
  | true =>
    rw [if_pos rfl, htake, hdrop, List.append_nil, String.ofList_toList, long?_longName h]
    dsimp only
    rw [htakes, if_pos rfl, String.ofList_toList, Given.addValue, if_pos (h.valid htakes), hadd]
    rfl
  | false =>
    rw [if_neg (by decide), List.takeWhile_nil, List.dropWhile_nil, List.append_nil,
      String.ofList_toList, long?_longName h]
    dsimp only
    rw [htakes, if_neg (by decide), ← h.empty htakes, hadd]
    rfl

/-- An option that is written as it can be is read as it is. -/
theorem option?_of_toList {a : String} (ha : a.toList = writeOption e) (h : Fits command e)
    (hfree : g.has e.1 = false) : option? command g a = some (.ok (g.with e, none)) := by
  unfold option?
  rw [ha]
  show some (long command g _) = _
  rw [long_longName h hfree]

theorem ne_marks_of_toList {a : String} (ha : a.toList = writeOption e) : a ≠ "--" := by
  rintro rfl
  have hlength := congrArg List.length ha
  have hname : 0 < e.1.longName.toList.length := by cases e.1 <;> decide
  unfold writeOption at hlength
  rw [List.length_cons, List.length_cons, List.length_append] at hlength
  have hmarks : "--".toList.length = 2 := rfl
  omega

/-! ## Written arguments -/

theorem readProgram_option {a : String} {as : List String} (ha : a.toList = writeOption e)
    (h : Fits none e) (hfree : g.has e.1 = false) :
    readProgram g none (a :: as) = readProgram (g.with e) none as := by
  rw [readProgram, if_neg (ne_marks_of_toList ha), option?_of_toList ha h hfree]
  rfl

theorem readCommand_option {name : CommandName} {a : String} {as : List String}
    (ha : a.toList = writeOption e) (h : Fits (some name) e) (hfree : g.has e.1 = false) :
    readCommand name g none (a :: as) = readCommand name (g.with e) none as := by
  rw [readCommand, if_neg (ne_marks_of_toList ha), option?_of_toList ha h hfree]
  rfl

theorem toList_argument (e : Opt × String) : (argument e).toList = writeOption e :=
  String.toList_ofList

theorem Given.has_with (g : Given) (e : Opt × String) (o : Opt) :
    (g.with e).has o = (g.has o || o == e.1) := by
  obtain ⟨name, value⟩ := e
  unfold Given.has Given.value? Given.with
  dsimp only
  rw [List.lookup_append]
  cases g.options.lookup o with
  | some _ => rfl
  | none =>
    rw [List.lookup_cons]
    cases o == name <;> rfl

/-- The options can all be given, one after the other. -/
structure FitsAll (command : Option CommandName) (g : Given) (es : List (Opt × String)) :
    Prop where
  fits : ∀ e ∈ es, Fits command e
  free : ∀ e ∈ es, g.has e.1 = false
  nodup : (es.map Prod.fst).Nodup

theorem FitsAll.tail {es : List (Opt × String)} (h : FitsAll command g (e :: es)) :
    FitsAll command (g.with e) es := by
  obtain ⟨hnew, hnodup⟩ := List.nodup_cons.1 h.nodup
  refine ⟨fun f hf => h.fits f (List.mem_cons_of_mem e hf), fun f hf => ?_, hnodup⟩
  have hne : f.1 ≠ e.1 := fun heq => hnew (heq ▸ List.mem_map_of_mem hf)
  rw [Given.has_with, h.free f (List.mem_cons_of_mem e hf), beq_false_of_ne hne]
  rfl

/-- What has been read, and options more. -/
def Given.withAll (g : Given) (es : List (Opt × String)) : Given :=
  { g with options := g.options ++ es }

theorem Given.withAll_nil (g : Given) : g.withAll [] = g := by
  unfold withAll
  rw [List.append_nil]

theorem Given.withAll_cons (g : Given) (e : Opt × String) (es : List (Opt × String)) :
    g.withAll (e :: es) = (g.with e).withAll es := by
  unfold withAll Given.with
  rw [List.append_assoc, List.singleton_append]

theorem readProgram_arguments {es : List (Opt × String)} (h : FitsAll none g es)
    (as : List String) :
    readProgram g none (es.map argument ++ as) = readProgram (g.withAll es) none as := by
  induction es generalizing g with
  | nil => rw [Given.withAll_nil, List.map_nil, List.nil_append]
  | cons e es ih =>
    rw [List.map_cons, List.cons_append, readProgram_option (toList_argument e)
      (h.fits e List.mem_cons_self) (h.free e List.mem_cons_self), ih h.tail, Given.withAll_cons]

theorem readCommand_arguments {name : CommandName} {es : List (Opt × String)}
    (h : FitsAll (some name) g es) (as : List String) :
    readCommand name g none (es.map argument ++ as) = readCommand name (g.withAll es) none as := by
  induction es generalizing g with
  | nil => rw [Given.withAll_nil, List.map_nil, List.nil_append]
  | cons e es ih =>
    rw [List.map_cons, List.cons_append, readCommand_option (toList_argument e)
      (h.fits e List.mem_cons_self) (h.free e List.mem_cons_self), ih h.tail, Given.withAll_cons]

/-! ## Written invocations -/

def CommandName.name : CommandName → String
  | .eval => "eval"
  | .filter => "filter"
  | .validate => "validate"
  | .operators => "operators"
  | .help => "help"

def ColorMode.name : ColorMode → String
  | .auto => "auto"
  | .always => "always"
  | .never => "never"

/-- The options of the program that an invocation is written with. -/
def Invocation.given (i : Invocation) : List (Opt × String) :=
  (i.options.config.toList.map fun path => (.config, path)) ++
    (if i.options.verbose then [(.verbose, "")] else []) ++
    [(.format, i.options.format.name), (.color, i.colorMode.name)] ++
    i.options.output.toList.map fun path => (.output, path)

/-- The command of a request, the options that belong to it, and its operands. -/
def commandOf : Request → CommandName × List (Opt × String) × List String
  | .eval operator left right => (.eval, [], [operator, left, right])
  | .filter queries candidates => (.filter, [(.queries, queries)], [candidates])
  | .validate constraints properties strict =>
    (.validate, (.constraints, constraints) :: (if strict then [(.strict, "")] else []),
      [properties])
  | .operators => (.operators, [], [])

/-- The arguments of an invocation. -/
def Invocation.arguments (i : Invocation) : List String :=
  let (command, es, operands) := commandOf i.request
  i.given.map argument ++ command.name :: (es.map argument ++ "--" :: operands)

/-- No path is empty, and colours are not decided yet. -/
structure Invocation.IsWritable (i : Invocation) : Prop where
  config_ne : i.options.config ≠ some ""
  output_ne : i.options.output ≠ some ""
  inputs_ne : "" ∉ Program.inputs i.request
  color_eq : i.options.color = false

theorem Fits.of_value {o : Opt} {value : String} (haccepted : o.accepted command = true)
    (htakes : o.takesValue = true) (hvalid : o.validValue value = true) :
    Fits command (o, value) where
  accepted := haccepted
  valid := fun _ => hvalid
  empty := fun h => by
    rw [htakes] at h
    cases h
  not_version := by
    rintro rfl
    cases htakes
  not_help := by
    rintro rfl
    cases htakes

theorem fits_verbose : Fits command (.verbose, "") := ⟨rfl, nofun, fun _ => rfl, nofun, nofun⟩

theorem fits_strict : Fits (some .validate) (.strict, "") :=
  ⟨rfl, nofun, fun _ => rfl, nofun, nofun⟩

/-- An option with a path, if it is given. -/
theorem fits_path {o : Opt} {path : Option String} (haccepted : o.accepted command = true)
    (htakes : o.takesValue = true) (hvalid : ∀ p, p ≠ "" → o.validValue p = true)
    (hpath : path ≠ some "") : ∀ e ∈ path.toList.map fun p => (o, p), Fits command e := by
  intro e he
  obtain ⟨p, hp, rfl⟩ := List.mem_map.1 he
  have hne : p ≠ "" := fun heq => hpath (heq ▸ Option.mem_toList.1 hp)
  exact .of_value haccepted htakes (hvalid p hne)

theorem Invocation.IsWritable.fits {i : Invocation} (h : i.IsWritable) :
    ∀ e ∈ i.given, Fits none e := by
  unfold given
  simp only [List.forall_mem_append]
  refine ⟨⟨⟨?_, ?_⟩, ?_⟩, ?_⟩
  · exact fits_path rfl rfl (fun _ => bne_iff_ne.2) h.config_ne
  · intro e he
    split at he
    · obtain rfl := List.mem_singleton.1 he
      exact fits_verbose
    · cases he
  · simp only [List.forall_mem_cons]
    refine ⟨.of_value rfl rfl ?_, .of_value rfl rfl ?_, nofun⟩
    · cases i.options.format <;> rfl
    · cases i.colorMode <;> rfl
  · exact fits_path rfl rfl (fun _ => bne_iff_ne.2) h.output_ne

theorem Invocation.nodup_given (i : Invocation) : (i.given.map Prod.fst).Nodup := by
  unfold given
  cases i.options.config <;> cases i.options.verbose <;> cases i.options.output <;> simp

theorem Invocation.IsWritable.fitsAll {i : Invocation} (h : i.IsWritable) :
    FitsAll none {} i.given := ⟨h.fits, fun _ _ => rfl, i.nodup_given⟩

theorem readProgram_name {name : CommandName} (h : name ≠ .help) (as : List String) :
    readProgram g none (name.name :: as) =
      (readCommand name {} none as).map fun own => (g, name, own) := by
  cases name with
  | help => exact absurd rfl h
  | eval | filter | validate | operators => rfl

theorem fitsAll_commandOf {request : Request} (h : "" ∉ Program.inputs request) :
    FitsAll (some (commandOf request).1) {} (commandOf request).2.1 := by
  refine ⟨?_, fun _ _ => rfl, ?_⟩
  · cases request with
    | eval operator left right => nofun
    | operators => nofun
    | filter queries candidates =>
      have hne : queries ≠ "" := by
        rintro rfl
        exact h List.mem_cons_self
      exact List.forall_mem_cons.2 ⟨.of_value rfl rfl (bne_iff_ne.2 hne), nofun⟩
    | validate constraints properties strict =>
      have hne : constraints ≠ "" := by
        rintro rfl
        exact h List.mem_cons_self
      refine List.forall_mem_cons.2 ⟨.of_value rfl rfl (bne_iff_ne.2 hne), ?_⟩
      cases strict with
      | true => exact List.forall_mem_cons.2 ⟨fits_strict, nofun⟩
      | false => nofun
  · cases request with
    | eval | operators => exact List.nodup_nil
    | filter queries candidates => simp [commandOf]
    | validate constraints properties strict =>
      cases strict <;> simp [commandOf]

theorem addOperands_commandOf {request : Request} (h : "" ∉ Program.inputs request)
    (es : List (Opt × String)) :
    Given.addOperands ⟨es, []⟩ (commandOf request).1 (commandOf request).2.2 =
      .ok ⟨es, (commandOf request).2.2⟩ := by
  cases request with
  | eval operator left right => rfl
  | operators => rfl
  | filter queries candidates =>
    have hne : candidates ≠ "" := by
      rintro rfl
      exact h (List.mem_cons_of_mem _ List.mem_cons_self)
    simp [commandOf, Given.addOperands, Given.addOperand, CommandName.arity, hne]
  | validate constraints properties strict =>
    have hne : properties ≠ "" := by
      rintro rfl
      exact h (List.mem_cons_of_mem _ List.mem_cons_self)
    simp [commandOf, Given.addOperands, Given.addOperand, CommandName.arity, hne]

/-- The arguments of a command are read as its own options and its operands. -/
theorem readCommand_commandOf {request : Request} (h : "" ∉ Program.inputs request) :
    readCommand (commandOf request).1 {} none
        ((commandOf request).2.1.map argument ++ "--" :: (commandOf request).2.2) =
      .ok ⟨(commandOf request).2.1, (commandOf request).2.2⟩ := by
  rw [readCommand_arguments (fitsAll_commandOf h), readCommand, if_pos rfl, if_pos rfl]
  exact addOperands_commandOf h _

theorem requestOf_commandOf (request : Request) :
    requestOf (commandOf request).1 ⟨(commandOf request).2.1, (commandOf request).2.2⟩ =
      .ok request := by
  cases request with
  | eval operator left right => rfl
  | operators => rfl
  | filter queries candidates => rfl
  | validate constraints properties strict => cases strict <;> rfl

/-- An option of the program is none that only a command has. -/
theorem value?_commandOf (request : Request) (o : Opt) (h : o.accepted none = true) :
    Given.value? ⟨(commandOf request).2.1, (commandOf request).2.2⟩ o = none := by
  have hqueries : (o == .queries) = false := by cases o <;> first | rfl | cases h
  have hconstraints : (o == .constraints) = false := by cases o <;> first | rfl | cases h
  have hstrict : (o == .strict) = false := by cases o <;> first | rfl | cases h
  unfold Given.value?
  cases request with
  | eval | operators => rfl
  | filter => simp [commandOf, List.lookup_cons, hqueries]
  | validate constraints properties strict =>
    cases strict <;> simp [commandOf, List.lookup_cons, hconstraints, hstrict]

theorem Invocation.value?_given (i : Invocation) :
    (Given.withAll {} i.given).value? .config = i.options.config ∧
    ((Given.withAll {} i.given).value? .verbose).isSome = i.options.verbose ∧
    (Given.withAll {} i.given).value? .format = some i.options.format.name ∧
    (Given.withAll {} i.given).value? .output = i.options.output ∧
    (Given.withAll {} i.given).value? .color = some i.colorMode.name := by
  unfold given
  cases i.options.config <;> cases i.options.verbose <;> cases i.options.output <;>
    exact ⟨rfl, rfl, rfl, rfl, rfl⟩

theorem ofName?_name (f : Format) : Format.ofName? f.name = some f := by cases f <;> rfl

theorem ofValue_name (m : ColorMode) : ColorMode.ofValue (some m.name) = m := by cases m <;> rfl

/-- An invocation is what its command line means. -/
theorem parse_arguments {i : Invocation} (h : i.IsWritable) : parse i.arguments = .ok i := by
  have hname : (commandOf i.request).1 ≠ .help := by cases i.request <;> nofun
  have hown := value?_commandOf i.request
  obtain ⟨hconfig, hverbose, hformat, houtput, hcolor⟩ := i.value?_given
  unfold parse Invocation.arguments
  dsimp only
  rw [readProgram_arguments h.fitsAll, readProgram_name hname, readCommand_commandOf h.inputs_ne]
  dsimp only [Except.map]
  rw [requestOf_commandOf]
  dsimp only
  rw [hown .config rfl, hown .verbose rfl, hown .format rfl, hown .output rfl, hown .color rfl]
  simp only [Option.none_or]
  rw [hconfig, hverbose, hformat, houtput, hcolor, ofValue_name, Option.bind_some, ofName?_name,
    Option.getD_some, ← h.color_eq]

end Arguments

end Verdict
