import Mathlib.Data.List.Induction
import Verdict.Validation.Validator
import Verdict.Proofs.Expr.Spelling
import Verdict.Proofs.Registry.Aliases
import Verdict.Proofs.Registry.Configured

/-
  The two readers of operator texts. One refuses a text that is no expression (`resolveText`); the
  other keeps it as a name (`ofText`), and leaves it to the registry to know no operator of that
  name. But a registry takes any free name, so it may know one. The readers agree on a registry
  exactly when every name that resolves alone is an expression as a text (`readersAgree_iff`), and
  a text that is no expression is always unknown exactly when every name of the registry is an
  expression as a text (`Sound.unknown_iff`). A change keeps that exactly when the name that it
  brings in is one (`NamesParse.step_iff`); from the step follow whole histories
  (`namesParse_afterAll_iff`).
-/
namespace Verdict

namespace Expr

/-- The text is an expression. -/
def Parses (s : String) : Prop := ∃ e, parse s = .ok e

instance : DecidablePred Parses := fun s =>
  match h : parse s with
  | .ok e => isTrue ⟨e, h⟩
  | .error _ => isFalse fun ⟨_, he⟩ => nomatch h.symm.trans he

theorem parse_of_not_parses {s : String} (h : ¬ Parses s) :
    parse s = .error (.emptyIdentifier s) := by
  cases hp : parse s with
  | ok e => exact absurd ⟨e, hp⟩ h
  | error error => rw [error_of_parse hp]

/-- A text that is no expression is kept as a name. -/
theorem ofText_of_not_parses {s : String} (h : ¬ Parses s) : ofText s = named s := by
  unfold ofText
  rw [parse_of_not_parses h]

end Expr

namespace Registry

open Verdict.Expr (Parses ofText)

variable {r : Registry}

/-! ## One registry -/

theorem resolve_ofText {s : String} (h : Parses s) :
    r.resolve (ofText s) = r.resolveText s := by
  obtain ⟨e, he⟩ := h
  rw [Expr.ofText_of_parse he, resolveText_of_parse he]

theorem resolve_ofText_of_not_parses {s : String} (h : ¬ Parses s) :
    r.resolve (ofText s) = r.resolveName s ∧ r.resolveText s = .error (.emptyIdentifier s) := by
  rw [Expr.ofText_of_not_parses h, resolve_named]
  exact ⟨rfl, resolveText_of_refused (Expr.parse_of_not_parses h)⟩

/-- Both readers succeed on the same texts, with the same predicate. -/
def ReadersAgree (r : Registry) : Prop :=
  ∀ s p, r.resolve (ofText s) = .ok p ↔ r.resolveText s = .ok p

/-- The readers agree when no name that resolves alone is refused as a text. -/
theorem readersAgree_iff (r : Registry) :
    r.ReadersAgree ↔ ∀ name p, r.resolveName name = .ok p → Parses name := by
  constructor
  · intro h name p hp
    refine Decidable.byContradiction fun hn => ?_
    obtain ⟨hlenient, hstrict⟩ := resolve_ofText_of_not_parses (r := r) hn
    have hok := (h name p).1 (hlenient.trans hp)
    rw [hstrict] at hok
    cases hok
  · intro h s p
    by_cases hs : Parses s
    · rw [resolve_ofText hs]
    · obtain ⟨hlenient, hstrict⟩ := resolve_ofText_of_not_parses (r := r) hs
      rw [hlenient, hstrict]
      constructor
      · exact fun hp => absurd (h s p hp) hs
      · exact nofun

/-- Every name of the registry is an expression as a text. -/
def NamesParse (r : Registry) : Prop := ∀ name, r.contains name = true → Parses name

/-- A name without an operator is unknown. -/
theorem resolveName_eq_unknown_iff (r : Registry) (name : String) :
    r.resolveName name = .error (.unknownOperator name) ↔ r.operatorOf? name = none := by
  rw [resolveName_eq_error_iff, fault?_eq_unknown_iff]
  exact and_iff_left rfl

/-- What is no expression is unknown in a registry when it has no such name. -/
theorem Sound.unknown_iff (h : r.Sound) :
    (∀ s, ¬ Parses s → r.resolve (ofText s) = .error (.unknownOperator s)) ↔ r.NamesParse := by
  have hs : ∀ s, ¬ Parses s →
      (r.resolve (ofText s) = .error (.unknownOperator s) ↔ r.contains s = false) := by
    intro s hs
    rw [(resolve_ofText_of_not_parses hs).1, resolveName_eq_unknown_iff,
      h.operatorOf?_eq_none_iff]
  constructor
  · intro hunknown name hname
    refine Decidable.byContradiction fun hn => ?_
    have hfalse := (hs name hn).1 (hunknown name hn)
    rw [hname] at hfalse
    cases hfalse
  · intro hnames s hn
    exact (hs s hn).2 (Bool.eq_false_iff.2 fun hc => hn (hnames s hc))

theorem NamesParse.readersAgree (h : r.NamesParse) : r.ReadersAgree := by
  rw [readersAgree_iff]
  intro name p hp
  obtain ⟨identifier, hc⟩ := exists_canonical?_of_named ((resolve_named r name).trans hp)
  apply h
  unfold contains
  rw [hc]
  rfl

/-! ## One change -/

theorem parses_of_standard : ∀ name ∈ standardIdentifiers, Parses name := by decide +kernel

theorem namesParse_iff (r : Registry) :
    r.NamesParse ↔ (∀ name ∈ r.identifiers, Parses name) ∧ ∀ name ∈ r.aliasNames, Parses name := by
  unfold NamesParse
  simp only [contains_iff]
  exact ⟨fun h => ⟨fun name hi => h name (Or.inl hi), fun name ha => h name (Or.inr ha)⟩,
    fun h name hname => hname.elim (h.1 name) (h.2 name)⟩

/-- A change to a registry whose names are expressions keeps it so when, if it is done, the name
that it brings in is one. -/
theorem NamesParse.step_iff {c : Change} {x : Registry × Report} (h : r.NamesParse)
    (hs : Step r c x) :
    x.1.NamesParse ↔ (x.2 = .done → ∀ name, c.name? = some name → Parses name) := by
  obtain ⟨hidentifiers, haliases⟩ := (namesParse_iff r).1 h
  cases hs with
  | unknownTarget | taken | notThere => exact ⟨fun _ => nofun, fun _ => h⟩
  | @bind c identifier o hc hi ha =>
    have hname := (Change.name?_of_operator? hc).1
    rw [namesParse_iff, hname]
    simp only [mem_identifiers_insert]
    constructor
    · rintro ⟨hall, -⟩ - name hn
      exact hall name (Or.inl (Option.some.inj hn).symm)
    · intro hn
      refine ⟨?_, haliases⟩
      rintro other (rfl | hother)
      · exact hn trivial other rfl
      · exact hidentifiers other hother
  | @addAlias name target identifier ht hi ha =>
    rw [namesParse_iff]
    simp only [mem_aliasNames_insert]
    constructor
    · rintro ⟨-, hall⟩ - other ho
      exact hall other (Or.inl (Option.some.inj ho).symm)
    · intro hn
      refine ⟨hidentifiers, ?_⟩
      rintro other (rfl | hother)
      · exact hn trivial other rfl
      · exact haliases other hother
  | @erase identifier hi =>
    refine ⟨fun _ => nofun, fun _ => (namesParse_iff _).2 ⟨?_, ?_⟩⟩ <;> intro name hname
    · exact hidentifiers name ((mem_identifiers_erase r identifier name).1 hname).1
    · obtain ⟨other, hother, -⟩ := (mem_aliasNames_erase r identifier name).1 hname
      exact haliases name ((mem_aliasNames_iff r name).2 ⟨other, hother⟩)
  | addStandard =>
    refine ⟨fun _ _ => nofun, fun _ => (namesParse_iff _).2 ⟨?_, ?_⟩⟩ <;> intro name hname
    · rcases (mem_identifiers_addStandard r name).1 hname with hst | hid
      · exact parses_of_standard name hst
      · exact hidentifiers name hid
    · rw [aliasNames_addStandard] at hname
      exact haliases name hname

/-! ## Histories -/

/-- Every change along a history that is done brings in a name that is an expression as a text. -/
def AdmitsTexts (r : Registry) (cs : List Change) : Prop :=
  ∀ ds c, ds ++ [c] <+: cs → (r.afterAll ds).report c = .done →
    ∀ name, c.name? = some name → Parses name

/-- Along a history all names are expressions as texts when the names that are brought in are. -/
theorem namesParse_afterAll_iff (h : r.NamesParse) (cs : List Change) :
    (∀ ds, ds <+: cs → (r.afterAll ds).NamesParse) ↔ r.AdmitsTexts cs := by
  constructor
  · intro hall ds c hds
    have hbefore := hall ds ((List.prefix_append ds [c]).trans hds)
    have hafter := hall (ds ++ [c]) hds
    rw [afterAll_concat] at hafter
    exact (hbefore.step_iff (step_apply _ c)).1 hafter
  · intro hadmits ds
    induction ds using List.reverseRecOn with
    | nil => exact fun _ => h
    | append_singleton ds c ih =>
      intro hds
      rw [afterAll_concat]
      have hbefore := ih ((List.prefix_append ds [c]).trans hds)
      exact (hbefore.step_iff (step_apply _ c)).2 (hadmits ds c hds)

theorem namesParse_empty : empty.NamesParse := nofun

theorem namesParse_standard : standard.NamesParse :=
  (namesParse_empty.step_iff .addStandard).2 fun _ => nofun

/-- Of the names of a configured registry only the aliases may be no expressions as texts. -/
theorem namesParse_ofConfig_iff {c : Config} (h : ofConfig c = .ok r) :
    r.NamesParse ↔ ∀ name ∈ c.aliases.keys, Parses name := by
  obtain ⟨-, hafter⟩ := afterAliases_of_ofConfig h
  rw [namesParse_iff, hafter.aliasNames_eq]
  refine and_iff_right fun name hname => ?_
  exact parses_of_standard name ((hafter.mem_identifiers name).1 hname).1

/-! ## Queries and constraints -/

/-- Where the readers agree, whatever is made of a predicate is the same from both. -/
theorem ReadersAgree.map_eq_ok_iff {α : Type} (h : r.ReadersAgree) (s : String)
    (f : Predicate → α) (a : α) :
    (r.resolve (ofText s)).map f = .ok a ↔ (r.resolveText s).map f = .ok a := by
  cases hlenient : r.resolve (ofText s) with
  | ok p => rw [(h s p).1 hlenient]
  | error error =>
    cases hstrict : r.resolveText s with
    | ok p =>
      rw [(h s p).2 hstrict] at hlenient
      cases hlenient
    | error error' => exact ⟨nofun, nofun⟩

/-- The lenient and the strict reader of operator texts, in every registry that is reached and
along every history from there. On a text that is an expression they have one outcome. A text that
is none is refused by the strict reader, and the lenient one takes it for a name. So both succeed
on the same texts, with the same predicate, exactly when every name that resolves alone is an
expression as a text; and a text that is none is always unknown exactly when every name of the
registry is an expression as a text. That holds of the empty and of the standard registry, of a
configured one when it holds of the aliases, and along a history when it holds of the names that
are brought in. Where the readers agree, so do queries and constraints whose operators are made
from texts. -/
theorem readers_exact (hr : r.Reachable) (cs : List Change) :
    (∀ s, (Parses s → r.resolve (ofText s) = r.resolveText s) ∧
      (¬ Parses s → r.resolve (ofText s) = r.resolveName s ∧
        r.resolveText s = .error (.emptyIdentifier s))) ∧
    (r.ReadersAgree ↔ ∀ name p, r.resolveName name = .ok p → Parses name) ∧
    ((∀ s, ¬ Parses s → r.resolve (ofText s) = .error (.unknownOperator s)) ↔ r.NamesParse) ∧
    (r.NamesParse → r.ReadersAgree) ∧
    (r = empty ∨ r = standard → r.NamesParse) ∧
    (∀ c, ofConfig c = .ok r → (r.NamesParse ↔ ∀ name ∈ c.aliases.keys, Parses name)) ∧
    (r.NamesParse → ((∀ ds, ds <+: cs → (r.afterAll ds).NamesParse) ↔ r.AdmitsTexts cs)) ∧
    (r.ReadersAgree → ∀ s,
      (∀ attr v candidate b, (Query.ofText attr s v).holds r candidate = .ok b ↔
        r.evaluate s (candidate.get attr) v = .ok b) ∧
      (∀ bound clause, Clause.compile r (ofText s) bound = .ok clause ↔
        (r.resolveText s).map (fun p => ⟨Constraint.label (ofText s) bound, p, bound⟩) =
          .ok clause)) := by
  refine ⟨fun s => ⟨resolve_ofText, resolve_ofText_of_not_parses⟩, readersAgree_iff r,
    hr.sound.unknown_iff, NamesParse.readersAgree, ?_, fun c hc => namesParse_ofConfig_iff hc,
    fun h => namesParse_afterAll_iff h cs, fun h s => ⟨fun attr v candidate b => ?_,
      fun bound clause => ?_⟩⟩
  · rintro (rfl | rfl)
    · exact namesParse_empty
    · exact namesParse_standard
  · exact h.map_eq_ok_iff s _ b
  · exact h.map_eq_ok_iff s _ clause

theorem admitsTexts_of_forall {cs : List Change}
    (h : ∀ c ∈ cs, ∀ name, c.name? = some name → Parses name) : r.AdmitsTexts cs := by
  intro ds c hds _
  exact h c (hds.subset (List.mem_append_right ds List.mem_cons_self))

/-- The standard registry with an alias that is an expression as a text. -/
def withLess : Registry := standard.after (.addAlias "less" "lt")

/-- With such an alias the readers agree on every text, and what is no expression is unknown. -/
theorem readers_agree_with_less :
    standard.Reachable ∧ withLess.Reachable ∧ withLess.ReadersAgree ∧
      withLess.resolve (ofText "less") = .ok (.order .less) ∧
      withLess.resolveText "less" = .ok (.order .less) ∧
      ¬ Parses "less:" ∧
      withLess.resolve (ofText "less:") = .error (.unknownOperator "less:") := by
  have hstandard : standard.Reachable := .initial .standard
  have hless : withLess.Reachable := hstandard.after _
  have hadmits : standard.AdmitsTexts [.addAlias "less" "lt"] := by
    apply admitsTexts_of_forall
    rintro c hc name hname
    obtain rfl := List.mem_singleton.1 hc
    obtain rfl := Option.some.inj hname
    decide
  obtain ⟨-, -, -, -, hinitial, -, hhistory, -⟩ :=
    readers_exact hstandard [.addAlias "less" "lt"]
  have hnames : withLess.NamesParse :=
    (hhistory (hinitial (Or.inr rfl))).2 hadmits _ (List.prefix_refl _)
  obtain ⟨hsame, -, hunknown, hagree, -⟩ := readers_exact hless []
  have hnot : ¬ Parses "less:" := by decide
  have hlenient : withLess.resolve (ofText "less") = .ok (.order .less) := rfl
  have hstrict : withLess.resolveText "less" = .ok (.order .less) := by
    rw [← (hsame "less").1 (by decide)]
    exact hlenient
  exact ⟨hstandard, hless, hagree hnames, hlenient, hstrict, hnot, hunknown.2 hnames _ hnot⟩

/-- An alias that is no expression as a text is accepted, and then the lenient reader finds it
where the strict one refuses the text. -/
theorem readers_disagree_on_colon :
    Initial standard ∧ ¬ Parses "lt:" ∧
      standard.report (.addAlias "lt:" "lt") = .done ∧
      (standard.after (.addAlias "lt:" "lt")).resolve (ofText "lt:") = .ok (.order .less) ∧
      (standard.after (.addAlias "lt:" "lt")).resolveText "lt:" =
        .error (.emptyIdentifier "lt:") :=
  ⟨.standard, by decide, by decide +kernel, rfl, rfl⟩

end Registry

end Verdict
