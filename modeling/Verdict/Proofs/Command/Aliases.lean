import Verdict.Proofs.Command.Operands
import Verdict.Proofs.Expr.Spelling
import Verdict.Proofs.Registry.Configured
import Verdict.Proofs.Registry.Faithful

/-
  Configured aliases as texts. A configuration takes any free name for an alias, but a text is cut
  at its colons and loses the blanks around its pieces before a name is looked up. So an alias can
  be written as a text when it stands for itself there (`IsName`), and then it is read alone by
  every reader of texts (`named_of_isName`). Every other alias is either refused, or read as
  other names; those give another predicate or another error, unless the alias and what is left of
  it between its blanks stand for one predicate (`Legible.resolveText_eq_resolveName_iff`).
  `configured_alias_exact` is the statement on configurations.
-/
namespace Verdict

namespace Expr

theorem isName_iff_parse (s : String) : IsName s ↔ parse s = .ok (named s) := by
  constructor
  · exact parse_padded (padded_self s)
  · intro h
    apply (names_of_parse h).2.2
    rw [names_named]
    exact List.mem_singleton_self s

/-- An alias that is no name of a text is not among the names that are read. -/
theorem not_mem_names_of_parse {s : String} {e : Expr} (h : parse s = .ok e) (hs : ¬ IsName s) :
    s ∉ e.names := fun hmem => hs ((names_of_parse h).2.2 s hmem)

/-- Every reader of texts reads a text that stands for itself as the name. -/
theorem named_of_isName {s : String} (h : IsName s) :
    parse s = .ok (named s) ∧ ofText s = named s ∧ read (Json.text s).source = .ok (named s) := by
  have hparse := (isName_iff_parse s).1 h
  refine ⟨hparse, ofText_of_parse hparse, (read_source_eq_ok_iff _ _).2 ?_⟩
  rw [ofJson_text, ofDocumentText, hparse]

end Expr

/-- What the binding of a name gives for the name alone. -/
def Binding.alone (name : String) : Binding → Except RegistryError Predicate
  | primitive p => .ok p
  | unary _ => .error (.arityMismatch name 1 0)
  | binary _ => .error (.arityMismatch name 2 0)

namespace Registry

/-! ## A name and a text -/

section TextOfName

variable {r : Registry} {name : String} {o : Operator}

theorem resolveName_of_operatorOf? (ho : r.operatorOf? name = some o) :
    r.resolveName name = o.binding.alone name := by
  unfold resolveName bindingFor
  rw [binding_of_operatorOf? ho]
  cases o.binding <;> rfl

/-- An error on the operands of a name is told of an expression that has the name. -/
theorem mem_names_of_arityMismatch {e : Expr} {arity operands : Nat}
    (h : r.resolve e = .error (.arityMismatch name arity operands)) : name ∈ e.names := by
  obtain ⟨before, node, rest, hnodes, hfault, -⟩ := (resolve_eq_error_iff r e _).1 h
  have hnode : node.1 = name := by
    unfold fault? at hfault
    split at hfault
    · cases hfault
    · split at hfault
      · cases hfault
      · cases hfault
        rfl
  rw [← Expr.map_fst_nodes, hnodes, ← hnode]
  exact List.mem_map_of_mem List.mem_append_cons_self

/-- Where an expression without the name has the outcome of the name, that is a predicate. -/
theorem exists_primitive_of_resolve_eq {e : Expr} (ho : r.operatorOf? name = some o)
    (hname : name ∉ e.names) (h : r.resolve e = r.resolveName name) :
    ∃ p, o.binding = .primitive p ∧ r.resolve e = .ok p := by
  rw [resolveName_of_operatorOf? ho] at h
  cases hb : o.binding with
  | primitive p =>
    rw [hb] at h
    exact ⟨p, rfl, h⟩
  | unary f =>
    rw [hb] at h
    exact absurd (mem_names_of_arityMismatch h) hname
  | binary f =>
    rw [hb] at h
    exact absurd (mem_names_of_arityMismatch h) hname

/-- Where every identifier is bound to what reads as it, only a plain name has the predicate of a
name, and then both stand for one identifier. -/
theorem Legible.canonical?_eq (h : r.Legible) {e : Expr} (hchain : e.IsChain) {p : Predicate}
    (he : r.resolve e = .ok p) (hn : r.resolve (.named name) = .ok p) :
    ∃ other, e = .named other ∧ r.canonical? other = r.canonical? name := by
  have hform := h.canonicalForm_of_resolve he
  rw [← h.canonicalForm_of_resolve hn, canonicalForm_named] at hform
  cases hchain with
  | named other =>
    obtain ⟨a, ha⟩ := exists_canonical?_of_named he
    obtain ⟨b, hb⟩ := exists_canonical?_of_named hn
    rw [canonicalForm_named, canonicalName_of_canonical? ha, canonicalName_of_canonical? hb]
      at hform
    refine ⟨other, rfl, ?_⟩
    rw [ha, hb, Expr.named.inj hform]
  | apply other _ =>
    rw [canonicalForm_unary] at hform
    cases hform

/-- A chain without the name has the outcome of the name only when both are one predicate. -/
theorem Legible.resolve_eq_resolveName_iff (h : r.Legible) (ho : r.operatorOf? name = some o)
    {e : Expr} (hchain : e.IsChain) (hname : name ∉ e.names) :
    r.resolve e = r.resolveName name ↔
      o.binding.arity = 0 ∧
        ∃ other, e = .named other ∧ r.canonical? other = r.canonical? name := by
  constructor
  · intro heq
    obtain ⟨p, hb, he⟩ := exists_primitive_of_resolve_eq ho hname heq
    have hn : r.resolve (.named name) = .ok p := by
      rw [resolve_named, ← heq]
      exact he
    refine ⟨?_, h.canonical?_eq hchain he hn⟩
    rw [hb]
    rfl
  · rintro ⟨harity, other, rfl, hcanonical⟩
    have hoo : r.operatorOf? other = some o := by
      unfold operatorOf? at ho ⊢
      rw [hcanonical]
      exact ho
    rw [resolve_named, resolveName_of_operatorOf? ho, resolveName_of_operatorOf? hoo]
    cases hb : o.binding with
    | primitive p => rfl
    | unary f =>
      rw [hb] at harity
      cases harity
    | binary f =>
      rw [hb] at harity
      cases harity

/-- A text that is refused does not have the outcome of a name. -/
theorem resolveText_ne_resolveName {error : RegistryError} (ho : r.operatorOf? name = some o)
    (h : Expr.parse name = .error error) : r.resolveText name ≠ r.resolveName name := by
  rw [resolveText_of_refused h, Expr.error_of_parse h, resolveName_of_operatorOf? ho]
  cases o.binding <;> exact nofun

/-- A text has the outcome of the name that it is when it stands for itself, and else only when
the name is bound to a predicate and what is read of it stands for the same identifier. -/
theorem Legible.resolveText_eq_resolveName_iff (h : r.Legible)
    (ho : r.operatorOf? name = some o) :
    r.resolveText name = r.resolveName name ↔
      Expr.IsName name ∨ o.binding.arity = 0 ∧
        ∃ other, Expr.parse name = .ok (.named other) ∧
          r.canonical? other = r.canonical? name := by
  by_cases hname : Expr.IsName name
  · rw [resolveText_of_parse ((Expr.isName_iff_parse name).1 hname), resolve_named]
    exact ⟨fun _ => Or.inl hname, fun _ => rfl⟩
  rw [or_iff_right hname]
  cases hp : Expr.parse name with
  | error error =>
    refine ⟨fun heq => absurd heq (resolveText_ne_resolveName ho hp), ?_⟩
    rintro ⟨-, other, hother, -⟩
    cases hother
  | ok e =>
    rw [resolveText_of_parse hp, h.resolve_eq_resolveName_iff ho (Expr.names_of_parse hp).1
      (Expr.not_mem_names_of_parse hp hname)]
    simp only [Except.ok.injEq]

end TextOfName

/-! ## Configurations -/

section Configured

variable {c : Config} {r : Registry} {name target : String}

/-- A configured registry has standard operators only. -/
theorem legible_of_ofConfig (h : ofConfig c = .ok r) : r.Legible := by
  intro identifier o ho
  rw [(afterAliases_of_ofConfig h).2.operators_eq] at ho
  unfold without at ho
  rw [OrderedMap.get?_filter, Option.filter_eq_some_iff] at ho
  exact legible_standard identifier o ho.1

/-- An alias and its target stand for one operator. -/
theorem operatorOf?_of_mem (h : ofConfig c = .ok r) (hmem : (name, target) ∈ c.aliases.entries) :
    ∃ o, r.operatorOf? target = some o ∧ r.operatorOf? name = some o := by
  obtain ⟨haccepted, hafter⟩ := afterAliases_of_ofConfig h
  have hkeys : name ∈ c.aliases.keys := List.mem_map_of_mem hmem
  obtain ⟨identifier, hname⟩ :=
    Option.isSome_iff_exists.1 ((hafter.contains_iff_known name).2 (Or.inr hkeys))
  have hfollows := (hafter.follows_of_canonical? hname).of_target
    (haccepted.not_enabled name hkeys) hmem
  have htarget := (canonical?_eq_some_iff_follows h target identifier).2 hfollows
  have hidentifier := (hafter.mem_identifiers identifier).2 hfollows.enables
  obtain ⟨o, ho⟩ := (r.operators.mem_keys_iff identifier).1 hidentifier
  refine ⟨o, ?_, ?_⟩ <;> unfold operatorOf?
  · rw [htarget]
    exact ho
  · rw [hname]
    exact ho

/-- Wherever a text is read as an operator, the text of the name has this outcome: in the library,
for the command on two operands, and in records of queries and constraints. -/
structure ReadsAlone (c : Config) (r : Registry) (name : String)
    (outcome : Except RegistryError Predicate) : Prop where
  text : r.resolveText name = outcome
  lenient : r.resolve (Expr.ofText name) = outcome
  verdict : ∀ left right,
    r.evaluate name left right = outcome.map fun p => p.evaluate left right
  command : ∀ files path, Command.loadConfig files path = .ok c → ∀ left right,
    Command.Agrees name (Command.eval files path name left right)
      (outcome.map fun p => p.evaluate (Command.operand left) (Command.operand right))
  query : ∀ key w, ∃ q, Query.read (Json.object
      [("attribute", .text key), ("operator", .text name), ("value", w)]).source = .ok q ∧
    ∀ candidate, q.holds r candidate =
      outcome.map fun p => p.evaluate (candidate.get key) (Value.ofJson w)
  constraint : ∀ key w, ∃ q, Constraint.read (Json.object
      [("type_key", .text key), ("operator", .text name), ("bound", w)]).source = .ok q ∧
    ∀ v, (Clause.compile r q.operator q.bound).map (fun clause => clause.holds v) =
      outcome.map fun p => p.evaluate v (Value.ofJson w)

theorem readsAlone_of_isName (h : ofConfig c = .ok r) (hname : Expr.IsName name) :
    ReadsAlone c r name (r.resolveName name) := by
  obtain ⟨hparse, hlenient, hread⟩ := Expr.named_of_isName hname
  have htext : r.resolveText name = r.resolveName name := by
    rw [resolveText_of_parse hparse, resolve_named]
  have hverdict : ∀ left right,
      r.evaluate name left right = (r.resolveName name).map fun p => p.evaluate left right := by
    intro left right
    unfold evaluate
    rw [htext]
  exact
    { text := htext
      lenient := by rw [hlenient, resolve_named]
      verdict := hverdict
      command := fun files path hload left right => by
        have hagrees := Command.eval_agrees hload name left right
        unfold Config.evaluate at hagrees
        rw [h] at hagrees
        rw [← hverdict]
        exact hagrees
      query := fun key w => by
        refine ⟨⟨key, .named name, Value.ofJson w⟩, ?_, fun candidate => ?_⟩
        · rw [Query.read_object, hread]
          rfl
        · rw [Query.holds, resolve_named]
          rfl
      constraint := fun key w => by
        refine ⟨⟨key, .named name, Value.ofJson w⟩, ?_, fun v => ?_⟩
        · rw [Constraint.read_object, hread]
          rfl
        · rw [Clause.compile, resolve_named]
          cases r.resolveName name <;> rfl }

/-- Every alias of an accepted configuration, alone and as a text. As a name it has the predicate
of its target, or the error on its operands if that is a combinator, and so has the document that
applies it to nothing. As a text it has the same outcome, wherever it is read, when it stands for
itself; and else only when its target is a predicate and it loses nothing but blanks, to what
stands for the same identifier. -/
theorem configured_alias_exact (h : ofConfig c = .ok r)
    (hmem : (name, target) ∈ c.aliases.entries) :
    ∃ o, r.operatorOf? target = some o ∧
      r.resolveName name = o.binding.alone name ∧
      (∃ e, Expr.ofJson (.object [(name, .array [])]) = .ok e ∧
        r.resolve e = o.binding.alone name) ∧
      (Expr.IsName name → ReadsAlone c r name (o.binding.alone name)) ∧
      (r.resolveText name = r.resolveName name ↔
        Expr.IsName name ∨ o.binding.arity = 0 ∧
          ∃ other, Expr.parse name = .ok (.named other) ∧
            r.canonical? other = r.canonical? name) := by
  obtain ⟨o, htarget, hname⟩ := operatorOf?_of_mem h hmem
  have halone := resolveName_of_operatorOf? hname
  refine ⟨o, htarget, halone, ⟨.apply name [], ?_, ?_⟩, fun hn => ?_,
    (legible_of_ofConfig h).resolveText_eq_resolveName_iff hname⟩
  · rfl
  · rw [resolve_apply_nil, resolve_named, halone]
  · rw [← halone]
    exact readsAlone_of_isName h hn

end Configured

/-- An alias of an alias, and an alias for a combinator. -/
theorem chained_aliases_read_alone :
    ∃ r, ofConfig chained = .ok r ∧
      ("less", "<") ∈ chained.aliases.entries ∧ ("or", "and") ∈ chained.aliases.entries ∧
      ReadsAlone chained r "less" (.ok (.order .less)) ∧
      ReadsAlone chained r "or" (.error (.arityMismatch "or" 2 0)) := by
  have hless : ("less", "<") ∈ chained.aliases.entries := by decide +kernel
  have hor : ("or", "and") ∈ chained.aliases.entries := by decide +kernel
  refine ⟨_, rfl, hless, hor, ?_, ?_⟩
  · obtain ⟨o, -, halone, -, hread, -⟩ := configured_alias_exact rfl hless
    rw [← halone] at hread
    exact hread (by decide)
  · obtain ⟨o, -, halone, -, hread, -⟩ := configured_alias_exact rfl hor
    rw [← halone] at hread
    exact hread (by decide)

/-- An alias with a colon. -/
def prefixed : Config where
  aliases := .ofList [("is:less", "lt")]

/-- An alias with a colon is accepted and resolves as a name, but its text is cut in two. -/
theorem prefixed_alias_not_in_text :
    ∃ r, ofConfig prefixed = .ok r ∧ ("is:less", "lt") ∈ prefixed.aliases.entries ∧
      r.resolve (.named "is:less") = .ok (.order .less) ∧
      r.resolveText "is:less" = .error (.unknownOperator "is") ∧
      r.resolveText "is:less" ≠ r.resolve (.named "is:less") :=
  ⟨_, rfl, by decide +kernel, rfl, rfl, nofun⟩

end Registry

end Verdict
