import Verdict.Value.Display
import Verdict.Validation.Validator
import Verdict.Command.Presentation
import Verdict.Proofs.Json.Number
import Verdict.Proofs.Text.Quoted

/-
  Values can be told apart by how they are shown. A number is shown so that it reads back
  (`readsAs_showMagnitude` for reals, with a point in every case), and every other value starts
  with a character that no number and no other kind of value starts with; so the front of a shown
  value gives away what it is (`readFront_showChars`), but for the contents of a text or of a
  sequence. Those end where they say that they end, whatever stands in them, which for sequences is
  an induction over the items (`determined_sequence`). `display_unambiguous` is the statement on
  values, and on the labels, messages, queries and reports that show them.
-/
namespace Verdict

namespace Value

open Json (EndsNumber ReadsAs endsNumber_cons endsNumber_nil readLiteral)

/-! ## Numbers -/

theorem toInt_lt_unsigned (i : Int64) : i.toInt < 0x10000000000000000 := by
  have h : i.toInt < 0x8000000000000000 := Int64.toInt_lt i
  omega

/-- An integer as a number of a document. -/
def wholeOf (i : Int64) : Json.Whole where
  val := i.toInt
  low := Int64.le_toInt i
  high := toInt_lt_unsigned i

theorem units_of_isZero {r : Finite64} (h : r.isZero = true) : r.units = 0 := by
  have hindex : r.index.val = 0 := by simpa [Finite64.isZero] using h
  simp [Finite64.units, Finite64.significand, hindex]

/-- The magnitude of a real as it is shown is read back under its sign. -/
theorem readsAs_showMagnitude (r : Finite64) :
    ReadsAs r.negative r.showMagnitude (.real r) := by
  unfold Finite64.showMagnitude
  by_cases hr : r.isZero = true
  · have hzero : r.units = 0 * Finite64.unitsPerOne := by
      rw [units_of_isZero hr, Nat.zero_mul]
    rw [if_pos (Decimal.isIntegral_of_units hzero), units_of_isZero hr, Nat.zero_div]
    exact Json.readsAs_zero hr
  · replace hr : r.isZero = false := by simpa using hr
    split
    · next hint =>
      have h := Json.readsAs_zeros (e := 0) hr (Decimal.within_integral hr hint)
      rw [List.replicate_zero, List.append_nil] at h
      exact h
    · next hint =>
      replace hint : r.isIntegral = false := by simpa using hint
      have h := Decimal.within_shortest .up hr
      exact Json.readsAs_positional hr
        (Int.not_le.2 (Decimal.exponent_neg_of_within hint h)) h

theorem readLiteral_showInt (i : Int64) {cs : List Char} (hcs : EndsNumber cs) :
    ∃ l : Json.Literal, readLiteral (showInt i.toInt ++ cs) = some (l, cs) ∧
      l.number? = some (.integer (wholeOf i)) := by
  have h := (Json.readsAs_digitChars (wholeOf i)).readLiteral hcs
  simp only [decide_eq_true_eq] at h
  exact h

theorem readLiteral_showFinite (r : Finite64) {cs : List Char} (hcs : EndsNumber cs) :
    ∃ l : Json.Literal, readLiteral (r.showChars ++ cs) = some (l, cs) ∧
      l.number? = some (.real r) :=
  (readsAs_showMagnitude r).readLiteral hcs

/-! ## Fronts -/

/-- What the front of a shown value gives away: the number that it is, or the character that it
starts with. -/
inductive Front
  | number (n : Json.Number)
  | mark (c : Char)

def front : Value → Front
  | integer i => .number (.integer (wholeOf i))
  | real (.finite r) => .number (.real r)
  | real .nan => .mark 'N'
  | real (.infinite false) => .mark 'i'
  | real (.infinite true) => .mark '-'
  | text _ => .mark '"'
  | boolean true => .mark 't'
  | boolean false => .mark 'f'
  | sequence _ => .mark '['
  | absent => .mark 'a'

/-- The number in front, else the first character. -/
def readFront (cs : List Char) : Option Front :=
  match readLiteral cs with
  | some (l, _) => l.number?.map .number
  | none => cs.head?.map .mark

theorem readFront_of_readLiteral {cs ds : List Char} {l : Json.Literal} {n : Json.Number}
    (hread : readLiteral cs = some (l, ds)) (hnumber : l.number? = some n) :
    readFront cs = some (.number n) := by
  unfold readFront
  rw [hread]
  dsimp only
  rw [hnumber]
  rfl

theorem showChars_sequence (vs : List Value) :
    ∃ rest, (sequence vs).showChars = '[' :: rest := by
  cases vs with
  | nil => exact ⟨_, rfl⟩
  | cons v vs => exact ⟨_, rfl⟩

/-- The front of a shown value can be read, with anything behind it that ends a number. -/
theorem readFront_showChars (v : Value) {cs : List Char} (hcs : EndsNumber cs) :
    readFront (v.showChars ++ cs) = some v.front := by
  cases v with
  | integer i =>
    obtain ⟨l, hread, hnumber⟩ := readLiteral_showInt i hcs
    exact readFront_of_readLiteral hread hnumber
  | real x =>
    cases x with
    | nan => rfl
    | infinite negative => cases negative <;> rfl
    | finite r =>
      obtain ⟨l, hread, hnumber⟩ := readLiteral_showFinite r hcs
      exact readFront_of_readLiteral hread hnumber
  | text s =>
    rw [showChars, Text.toList_quote]
    rfl
  | boolean b => cases b <;> rfl
  | sequence vs =>
    obtain ⟨rest, heq⟩ := showChars_sequence vs
    rw [heq]
    rfl
  | absent => rfl

/-- Values that are shown alike have the same front. -/
theorem front_eq {v w : Value} {cs ds : List Char} (hcs : EndsNumber cs) (hds : EndsNumber ds)
    (h : v.showChars ++ cs = w.showChars ++ ds) : v.front = w.front := by
  have hread := congrArg readFront h
  rw [readFront_showChars v hcs, readFront_showChars w hds] at hread
  exact Option.some.inj hread

/-- The value of a front, unless it has contents. -/
def ofFront? : Front → Option Value
  | .number (.integer i) => some (integer (Int64.ofInt i.val))
  | .number (.real r) => some (real (.finite r))
  | .mark 'N' => some (real .nan)
  | .mark 'i' => some (real (.infinite false))
  | .mark '-' => some (real (.infinite true))
  | .mark 't' => some (boolean true)
  | .mark 'f' => some (boolean false)
  | .mark 'a' => some absent
  | .mark _ => none

theorem ofFront?_front {v : Value} (htext : v.front ≠ .mark '"')
    (hsequence : v.front ≠ .mark '[') : ofFront? v.front = some v := by
  cases v with
  | integer i => exact congrArg (some ∘ integer) (Int64.ofInt_toInt i)
  | real x =>
    cases x with
    | nan => rfl
    | infinite negative => cases negative <;> rfl
    | finite r => rfl
  | text s => exact absurd rfl htext
  | boolean b => cases b <;> rfl
  | sequence vs => exact absurd rfl hsequence
  | absent => rfl

theorem exists_text_of_front {v : Value} (h : v.front = .mark '"') : ∃ s, v = text s := by
  cases v with
  | text s => exact ⟨s, rfl⟩
  | real x =>
    rcases x with _ | (_ | _) | _ <;> cases h
  | boolean b => cases b <;> cases h
  | _ => cases h

theorem exists_sequence_of_front {v : Value} (h : v.front = .mark '[') :
    ∃ vs, v = sequence vs := by
  cases v with
  | sequence vs => exact ⟨vs, rfl⟩
  | real x =>
    rcases x with _ | (_ | _) | _ <;> cases h
  | boolean b => cases b <;> cases h
  | _ => cases h

/-- No value starts like the end of a sequence. -/
theorem front_ne_bracket (v : Value) : v.front ≠ .mark ']' := by
  intro h
  cases v with
  | real x =>
    rcases x with _ | (_ | _) | _ <;> cases h
  | boolean b => cases b <;> cases h
  | _ => cases h

/-! ## Values in front of anything -/

/-- No other value is shown like this one, whatever stands behind the two of them. -/
def Determined (v : Value) : Prop :=
  ∀ (w : Value) (cs ds : List Char), EndsNumber cs → EndsNumber ds →
    v.showChars ++ cs = w.showChars ++ ds → v = w ∧ cs = ds

/-- The front is all that is to be known of a value without contents. -/
theorem determined_of_front {v : Value} (htext : v.front ≠ .mark '"')
    (hsequence : v.front ≠ .mark '[') : Determined v := by
  intro w cs ds hcs hds h
  have hfront := front_eq hcs hds h
  have hw := ofFront?_front (hfront ▸ htext) (hfront ▸ hsequence)
  rw [← hfront, ofFront?_front htext hsequence] at hw
  obtain rfl := Option.some.inj hw
  exact ⟨rfl, List.append_cancel_left h⟩

theorem determined_text (s : String) : Determined (text s) := by
  intro w cs ds hcs hds h
  obtain ⟨t, rfl⟩ := exists_text_of_front (front_eq hcs hds h).symm
  obtain ⟨rfl, hrest⟩ := Text.quote_append_inj h
  exact ⟨rfl, hrest⟩

/-! ## Sequences -/

/-- A bracket or a comma ends a number. -/
theorem endsNumber_showItems (vs : List Value) (cs : List Char) :
    EndsNumber (showItems vs ++ cs) := by
  cases vs with
  | nil => exact endsNumber_cons (by decide) _
  | cons v vs => exact endsNumber_cons (by decide) _

/-- Items behind the first are determined when each of them is. -/
theorem showItems_append_inj {vs ws : List Value} {cs ds : List Char}
    (hvs : ∀ v ∈ vs, Determined v) (h : showItems vs ++ cs = showItems ws ++ ds) :
    vs = ws ∧ cs = ds := by
  induction vs generalizing ws with
  | nil =>
    cases ws with
    | nil => exact ⟨rfl, (List.cons.inj h).2⟩
    | cons w ws => exact absurd (List.cons.inj h).1 (by decide)
  | cons v vs ih =>
    cases ws with
    | nil => exact absurd (List.cons.inj h).1 (by decide)
    | cons w ws =>
      obtain ⟨hv, hvs⟩ := List.forall_mem_cons.1 hvs
      have hitems : v.showChars ++ (showItems vs ++ cs) =
          w.showChars ++ (showItems ws ++ ds) := by
        rw [showItems, showItems] at h
        simpa only [List.cons_append, List.append_assoc, List.cons.injEq, true_and] using h
      obtain ⟨rfl, hrest⟩ :=
        hv w _ _ (endsNumber_showItems vs cs) (endsNumber_showItems ws ds) hitems
      obtain ⟨rfl, rfl⟩ := ih hvs hrest
      exact ⟨rfl, rfl⟩

/-- An item does not start like the end of a sequence. -/
theorem end_ne_showChars (v : Value) {cs ds : List Char} (hds : EndsNumber ds) :
    ']' :: cs ≠ v.showChars ++ ds := by
  intro h
  have hread := congrArg readFront h
  rw [readFront_showChars v hds] at hread
  exact front_ne_bracket v (Option.some.inj hread).symm

/-- A sequence is determined when each of its items is. -/
theorem determined_sequence {vs : List Value} (hvs : ∀ v ∈ vs, Determined v) :
    Determined (sequence vs) := by
  intro w cs ds hcs hds h
  obtain ⟨ws, rfl⟩ := exists_sequence_of_front (front_eq hcs hds h).symm
  cases vs with
  | nil =>
    cases ws with
    | nil => exact ⟨rfl, List.append_cancel_left h⟩
    | cons w ws =>
      rw [showChars, showChars, List.cons_append, List.cons_append, List.append_assoc] at h
      exact absurd (List.cons.inj h).2 (end_ne_showChars w (endsNumber_showItems ws ds))
  | cons v vs =>
    cases ws with
    | nil =>
      rw [showChars, showChars, List.cons_append, List.cons_append, List.append_assoc] at h
      exact absurd (List.cons.inj h).2.symm (end_ne_showChars v (endsNumber_showItems vs cs))
    | cons w ws =>
      obtain ⟨hv, hvs⟩ := List.forall_mem_cons.1 hvs
      rw [showChars, showChars, List.cons_append, List.cons_append, List.append_assoc,
        List.append_assoc] at h
      obtain ⟨rfl, hrest⟩ := hv w _ _ (endsNumber_showItems vs cs) (endsNumber_showItems ws ds)
        (List.cons.inj h).2
      obtain ⟨rfl, rfl⟩ := showItems_append_inj hvs hrest
      exact ⟨rfl, rfl⟩

mutual
theorem determined : (v : Value) → Determined v
  | integer _ => determined_of_front nofun nofun
  | real (.finite _) => determined_of_front nofun nofun
  | real .nan => determined_of_front nofun nofun
  | real (.infinite false) => determined_of_front nofun nofun
  | real (.infinite true) => determined_of_front nofun nofun
  | text s => determined_text s
  | boolean true => determined_of_front nofun nofun
  | boolean false => determined_of_front nofun nofun
  | sequence vs => determined_sequence (determined_items vs)
  | absent => determined_of_front nofun nofun

theorem determined_items : (vs : List Value) → ∀ v ∈ vs, Determined v
  | [] => fun _ h => by cases h
  | v :: vs => List.forall_mem_cons.2 ⟨determined v, determined_items vs⟩
end

/-! ## Texts that show a value -/

theorem toList_display (v : Value) : v.display.toList = v.showChars := by
  unfold display
  exact String.toList_ofList

/-- A shown value with a text behind it that ends a number. -/
theorem display_append_inj {v w : Value} {s t : String} (hs : EndsNumber s.toList)
    (ht : EndsNumber t.toList) : v.display ++ s = w.display ++ t ↔ v = w ∧ s = t := by
  constructor
  · intro h
    have hchars := congrArg String.toList h
    rw [String.toList_append, String.toList_append, toList_display, toList_display] at hchars
    obtain ⟨hv, hrest⟩ := determined v w _ _ hs ht hchars
    exact ⟨hv, String.toList_inj.1 hrest⟩
  · rintro ⟨rfl, rfl⟩
    rfl

theorem display_inj {v w : Value} : v.display = w.display ↔ v = w := by
  have h := display_append_inj (v := v) (w := w) (s := "") (t := "") endsNumber_nil endsNumber_nil
  rw [String.append_empty, String.append_empty] at h
  exact h.trans (and_iff_left rfl)

/-- A text that starts with a space ends a number. -/
theorem endsNumber_space (s : String) : EndsNumber (" " ++ s).toList := by
  rw [String.toList_append]
  exact endsNumber_cons (by decide) _

theorem message_inj {l l' : String} {v w : Value} :
    (ValidationError.constraintViolated l v).message =
      (ValidationError.constraintViolated l' w).message ↔ v = w ∧ l = l' := by
  have hshape : ∀ l : String, " violates constraint " ++ l = " " ++ ("violates constraint " ++ l) :=
    fun l => (@String.append_assoc " " "violates constraint " l).symm
  unfold ValidationError.message
  dsimp only
  rw [String.append_assoc, String.append_assoc, String.append_assoc, String.append_assoc,
    String.append_right_inj, hshape, hshape,
    display_append_inj (endsNumber_space _) (endsNumber_space _), String.append_right_inj,
    String.append_right_inj]

/-- The message that the line of a report tells. -/
def told (verbose valid : Bool) (message : Option String) : Option String :=
  if (verbose || !valid) = true then message else none

/-- What the line of a report tells behind the value. -/
def remark : Option String → String
  | some m => ":" ++ (" " ++ m)
  | none => ""

theorem endsNumber_remark (m : Option String) : EndsNumber (remark m).toList := by
  cases m with
  | none => exact endsNumber_nil
  | some m =>
    rw [remark, String.toList_append]
    exact endsNumber_cons (by decide) _

theorem remark_inj {m m' : Option String} : remark m = remark m' ↔ m = m' := by
  have hne : ∀ m : String, ":" ++ (" " ++ m) ≠ "" := by
    intro m h
    have hchars := congrArg String.toList h
    rw [String.toList_append] at hchars
    cases hchars
  cases m with
  | none =>
    cases m' with
    | none => exact ⟨fun _ => rfl, fun _ => rfl⟩
    | some m' => exact ⟨fun h => absurd h.symm (hne m'), nofun⟩
  | some m =>
    cases m' with
    | none => exact ⟨fun h => absurd h (hne m), nofun⟩
    | some m' =>
      rw [remark, remark, String.append_right_inj, String.append_right_inj, Option.some.injEq]

theorem reportLine_eq (color verbose valid : Bool) (typeKey : String) (v : Value)
    (m : Option String) :
    Answer.reportLine color verbose ⟨typeKey, v, valid, m⟩ =
      (if valid = true then Style.paint color .positive "ok"
        else Style.paint color .negative "invalid") ++ " " ++ typeKey ++ " = " ++
        (v.display ++ remark (told verbose valid m)) := by
  unfold Answer.reportLine told
  dsimp only
  cases m with
  | none => simp only [remark, ite_self, String.append_empty, String.append_assoc]
  | some m =>
    cases verbose || !valid with
    | false => simp [remark, String.append_assoc]
    | true =>
      have hcolon : ": " ++ m = ":" ++ (" " ++ m) := @String.append_assoc ":" " " m
      simp [remark, String.append_assoc, hcolon]

/-- Values are equal when they are shown alike: by themselves, with reals told apart by their bits
and all NaNs taken for one, and in the labels, messages, queries and reports that show them. -/
theorem display_unambiguous :
    (∀ v w : Value, v.display = w.display ↔ v = w) ∧
    (∀ x y : UInt64, (real (.ofBits x)).display = (real (.ofBits y)).display ↔
      x = y ∨ Binary64.ofBits x = .nan ∧ Binary64.ofBits y = .nan) ∧
    (∀ (operator : Expr) (v w : Value),
      Constraint.label operator v = Constraint.label operator w ↔ v = w) ∧
    (∀ (l l' : String) (v w : Value),
      (ValidationError.constraintViolated l v).message =
        (ValidationError.constraintViolated l' w).message ↔ v = w ∧ l = l') ∧
    (∀ (attr : String) (operator : Expr) (v w : Value),
      (Query.mk attr operator v).display = (Query.mk attr operator w).display ↔ v = w) ∧
    (∀ (color verbose valid : Bool) (typeKey : String) (v w : Value) (m m' : Option String),
      Answer.reportLine color verbose ⟨typeKey, v, valid, m⟩ =
        Answer.reportLine color verbose ⟨typeKey, w, valid, m'⟩ ↔
        v = w ∧ told verbose valid m = told verbose valid m') := by
  refine ⟨fun v w => display_inj, fun x y => ?_, fun operator v w => ?_,
    fun l l' v w => message_inj, fun attr operator v w => ?_,
    fun color verbose valid typeKey v w m m' => ?_⟩
  · rw [display_inj, real.injEq]
    constructor
    · intro h
      by_cases hnan : Binary64.ofBits x = .nan
      · exact Or.inr ⟨hnan, h ▸ hnan⟩
      · left
        rw [← Binary64.toBits_ofBits hnan, h, Binary64.toBits_ofBits (h ▸ hnan)]
    · rintro (rfl | ⟨hx, hy⟩)
      · rfl
      · rw [hx, hy]
  · rw [Constraint.label, Constraint.label, String.append_right_inj, display_inj]
  · rw [Query.display, Query.display, String.append_right_inj, display_inj]
  · rw [reportLine_eq, reportLine_eq, String.append_right_inj,
      display_append_inj (endsNumber_remark _) (endsNumber_remark _), remark_inj]

example : (sequence [integer 3, real .zero, text "a\", b", absent]).display =
    "[3, 0.0, \"a\\\", b\", absent]" := by decide +kernel

end Value

end Verdict
