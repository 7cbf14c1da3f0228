import Verdict.Proofs.Command.CommandLine
import Verdict.Proofs.Command.Selection
import Verdict.Proofs.Json.Refused
import Verdict.Proofs.Value.Plain

/-
  Operands of the command line against values in memory. The compact text of a finite value that
  is not nested too deep stands for the value, and a text that is no document for itself
  (`Denotes`), so the verdict of a command on two operands is that of the configured registry on
  the values that they stand for (`eval_agrees`). Nothing tells a text that was meant as a
  document and is none from any other text; `eval_exact` therefore also says which texts those
  are: the numbers that are too large, the documents that are nested too deep and no other compact
  text.
-/
namespace Verdict

/-- The verdict of an operator in the registry of a configuration. -/
def Config.evaluate (c : Config) (operator : String) (left right : Value) :
    Except RegistryError Bool :=
  match Registry.ofConfig c with
  | .error e => .error e
  | .ok r => r.evaluate operator left right

namespace Command

/-! ## What operands stand for -/

/-- What a text stands for as an operand. -/
inductive Denotes : String → Value → Prop
  /-- The compact text of a value from which nothing is lost. -/
  | plain (v : Value) (finite : v.isFinite = true) (depth : v.depth ≤ 127) :
    Denotes (Json.compact v.toJson) v
  /-- A text that is no document. -/
  | text (t : String) (refused : Json.ofText? t = none) : Denotes t (.text t)

theorem operand_compact {v : Value} (hdepth : v.depth ≤ Json.maxDepth) :
    operand (Json.compact v.toJson) = v.finitePart := by
  rw [← Value.depth_toJson] at hdepth
  rw [operand_of_ofText? (Json.ofText?_compact hdepth), Value.ofJson_toJson]

theorem Denotes.operand_eq {t : String} {v : Value} (h : Denotes t v) : operand t = v := by
  cases h with
  | plain v finite depth =>
    rw [operand_compact depth]
    exact Value.finitePart_of_isFinite v finite
  | text t refused => exact operand_of_ofText?_eq_none refused

/-- A text that is no document is the operand that its quoted text is. -/
theorem operand_quoted {t : String} (h : Json.ofText? t = none) :
    operand (Json.compact (.text t)) = operand t := by
  rw [operand_of_ofText?_eq_none h]
  exact operand_compact (v := .text t) (Nat.zero_le _)

/-! ## Verdicts -/

variable {files : Files} {config : Option String} {c : Config}

/-- A command finds the verdict of an evaluation, or both fail for the same reason, which is told
as one of the configuration or of the operator. -/
structure Agrees (operator : String) (found : Except Failure Bool)
    (evaluated : Except RegistryError Bool) : Prop where
  verdict : ∀ b, found = .ok b ↔ evaluated = .ok b
  failure : ∀ e, evaluated = .error e ↔
    found = .error (.configuration e) ∨ found = .error (.operator operator e)

theorem eval_agrees (h : loadConfig files config = .ok c) (operator left right : String) :
    Agrees operator (eval files config operator left right)
      (c.evaluate operator (operand left) (operand right)) := by
  have hregistry := loadRegistry_of_loadConfig h
  unfold eval Config.evaluate Registry.evaluate
  cases hc : Registry.ofConfig c with
  | error e =>
    have hload : loadRegistry files config = .error (.configuration e) := by
      rw [hregistry, hc]
      rfl
    rw [hload]
    exact ⟨fun b => by simp, fun e' => by simp⟩
  | ok r =>
    have hload : loadRegistry files config = .ok r := by
      rw [hregistry, hc]
      rfl
    rw [hload]
    dsimp only
    cases r.resolveText operator with
    | error e => exact ⟨fun b => by simp [Except.map], fun e' => by simp [Except.map]⟩
    | ok p => exact ⟨fun b => by simp [Except.map], fun e' => by simp [Except.map]⟩

theorem eval_congr_left {left left' : String} (h : operand left = operand left')
    (operator right : String) :
    eval files config operator left right = eval files config operator left' right := by
  unfold eval
  rw [h]

theorem eval_congr_right {right right' : String} (h : operand right = operand right')
    (operator left : String) :
    eval files config operator left right = eval files config operator left right' := by
  unfold eval
  rw [h]

/-- Every configuration can be loaded. -/
theorem exists_loadConfig (c : Config) (path : String) :
    ∃ files, loadConfig files (some path) = .ok c := by
  have hholds : (Files.ofDocuments [(path, c.toJson)]).Holds path c.toJson :=
    Files.holds_ofDocuments (by simp)
  exact ⟨_, loadConfig_of_holds hholds⟩

/-! ## Command lines -/

/-- Behind two hyphens every text is an operand, also one that starts with a hyphen. -/
theorem parse_eval {path : String} (h : path ≠ "") (operator left right : String) :
    Arguments.parse ["--config=" ++ path, "eval", "--", operator, left, right] =
      .ok ⟨{ config := some path }, .auto, .eval operator left right⟩ := by
  have hname : "--config=".toList = '-' :: '-' :: ("config".toList ++ ['=']) := by decide
  have hchars : ("--config=" ++ path).toList = Arguments.writeOption (.config, path) := by
    rw [String.toList_append, hname, List.cons_append, List.cons_append, List.append_assoc]
    rfl
  have hfits : Arguments.Fits none (.config, path) := .of_value rfl rfl (bne_iff_ne.2 h)
  unfold Arguments.parse
  rw [Arguments.readProgram_option hchars hfits rfl]
  rfl

/-- On operands that stand for values a command finds the verdict of the configured registry on
the values, whatever the configuration and the operator, and fails where there is none. The
compact text of every finite value that is nested at most 127 deep stands for the value, and every
text that is no document for itself, whole and untrimmed, as if it were quoted. A number between
blanks is no document exactly when it is too large, the compact text of a document exactly when
it is nested deeper, and no text stands for a document that is. -/
theorem eval_exact :
    (∀ files config c operator left right l r, loadConfig files config = .ok c →
      Denotes left l → Denotes right r →
      Agrees operator (eval files config operator left right) (c.evaluate operator l r)) ∧
    (∀ files config operator text other, Json.ofText? text = none →
      eval files config operator text other =
        eval files config operator (Json.compact (.text text)) other ∧
      eval files config operator other text =
        eval files config operator other (Json.compact (.text text))) ∧
    (∀ (l : Json.Literal) text, l.IsIn text → (Json.ofText? text = none ↔ l.Overflows)) ∧
    (∀ j, Json.ofText? (Json.compact j) = none ↔ 127 < j.depth) ∧
    (∀ text j, Json.ofText? text = some j → j.depth ≤ 127) ∧
    (∀ c path, ∃ files, loadConfig files (some path) = .ok c) ∧
    ∀ path operator left right, path ≠ "" →
      Arguments.parse ["--config=" ++ path, "eval", "--", operator, left, right] =
        .ok ⟨{ config := some path }, .auto, .eval operator left right⟩ := by
  refine ⟨fun files config c operator left right l r h hl hr => ?_,
    fun files config operator text other h => ⟨?_, ?_⟩, fun l text h => h.ofText?_eq_none_iff,
    Json.ofText?_compact_eq_none_iff, fun text j h => Json.depth_le_of_ofText? h,
    exists_loadConfig, fun path operator left right h => parse_eval h operator left right⟩
  · rw [← hl.operand_eq, ← hr.operand_eq]
    exact eval_agrees h operator left right
  · exact eval_congr_left (operand_quoted h).symm operator other
  · exact eval_congr_right (operand_quoted h).symm operator other

/-- `-1e309`. -/
def tooLarge : Json.Literal := ⟨true, ['1'], none, some 309⟩

/-- A number that is too large is a text and so less than no number, which no error tells; the
operand can be given as it is. -/
theorem eval_tooLarge :
    loadConfig urgentFiles (some "config.json") = .ok signs ∧
    tooLarge.IsIn " -1e309" ∧ tooLarge.Overflows ∧ Json.ofText? " -1e309" = none ∧
    Denotes " -1e309" (.text " -1e309") ∧
    Denotes (Json.compact (Value.toJson (.integer 7))) (.integer 7) ∧
    eval urgentFiles (some "config.json") "<" " -1e309"
      (Json.compact (Value.toJson (.integer 7))) = .ok false ∧
    eval urgentFiles (some "config.json") "<" (Json.compact (.text " -1e309"))
      (Json.compact (Value.toJson (.integer 7))) = .ok false ∧
    Json.ofText? (Json.compact (.array [])) = some (.array []) ∧ (Json.array []).depth ≤ 127 ∧
    "config.json" ≠ "" ∧
    Arguments.parse ["--config=" ++ "config.json", "eval", "--", "<", " -1e309", "7"] =
      .ok ⟨{ config := some "config.json" }, .auto, .eval "<" " -1e309" "7"⟩ := by
  obtain ⟨hagrees, hquoted, hlarge, -, hdepth, -, hparse⟩ := eval_exact
  have hload : loadConfig urgentFiles (some "config.json") = .ok signs :=
    loadConfig_of_holds (Files.holds_ofDocuments rfl)
  have hin : tooLarge.IsIn " -1e309" := ⟨[], rfl, rfl⟩
  have hover : tooLarge.Overflows := by decide +kernel
  have hrefused : Json.ofText? " -1e309" = none := (hlarge tooLarge " -1e309" hin).2 hover
  have hleft : Denotes " -1e309" (.text " -1e309") := .text _ hrefused
  have hright : Denotes (Json.compact (Value.toJson (.integer 7))) (.integer 7) :=
    .plain _ rfl (by decide)
  have heval : eval urgentFiles (some "config.json") "<" " -1e309"
      (Json.compact (Value.toJson (.integer 7))) = .ok false :=
    ((hagrees _ _ _ _ _ _ _ _ hload hleft hright).verdict false).2 rfl
  have hempty : Json.ofText? (Json.compact (.array [])) = some (.array []) :=
    Json.ofText?_compact (by decide)
  refine ⟨hload, hin, hover, hrefused, hleft, hright, heval, ?_, hempty,
    hdepth _ _ hempty, by decide, hparse _ _ _ _ (by decide)⟩
  rw [← (hquoted urgentFiles (some "config.json") "<" " -1e309" _ hrefused).1]
  exact heval

end Command

end Verdict
