import Verdict.Json.Reader
import Verdict.Json.Writer
import Verdict.Proofs.Decimal.Shortest

/-
  Numbers read back. A number ends where no digit, point or exponent follows (`EndsNumber`). Up to
  there an integer is read as itself, and a real as digits and an exponent that stand for a
  decimal among the reals that round to it, in every notation that is written: with zeros before
  the point, with a point between digits, with zeros behind it, or with an exponent
  (`readsAs_writeMagnitude`). `readLiteral_writeNumber` is the statement on numbers.
-/
namespace Verdict

namespace Json

open Decimal (digitChars Within digitChars_ne_nil isDigit_of_mem_digitChars head?_digitChars_ne)

/-! ## Digits -/

theorem numeral_eq (cs : List Char) : numeral cs = Nat.ofDigitChars 10 cs 0 := by
  have hstep : (fun n (c : Char) => n * 10 + (c.toNat - 48)) =
      fun n (c : Char) => 10 * n + (c.toNat - '0'.toNat) := by
    funext n c
    rw [Nat.mul_comm]
    rfl
  unfold numeral Nat.ofDigitChars
  rw [hstep]

theorem numeral_digitChars (n : Nat) : numeral (digitChars n) = n := by
  rw [numeral_eq]
  exact Nat.ofDigitChars_ten_toDigits

theorem numeral_zeros (k : Nat) (cs : List Char) :
    numeral (List.replicate k '0' ++ cs) = numeral cs := by
  rw [numeral_eq, Nat.ofDigitChars_append, Nat.ofDigitChars_replicate_zero, Nat.mul_zero,
    numeral_eq]

theorem numeral_append_zeros (k : Nat) (cs : List Char) :
    numeral (cs ++ List.replicate k '0') = numeral cs * tenTo k := by
  rw [numeral_eq, Nat.ofDigitChars_append, Nat.ofDigitChars_replicate_zero, Nat.mul_comm,
    numeral_eq]
  rfl

/-- At least one digit, and nothing but digits. -/
def IsDigits (ds : List Char) : Prop := ds ≠ [] ∧ ∀ c ∈ ds, c.isDigit = true

theorem isDigits_digitChars (n : Nat) : IsDigits (digitChars n) :=
  ⟨digitChars_ne_nil n, fun _ h => isDigit_of_mem_digitChars h⟩

theorem isDigits_singleton {c : Char} (h : c.isDigit = true) : IsDigits [c] :=
  ⟨List.cons_ne_nil _ _, fun _ hd => List.mem_singleton.1 hd ▸ h⟩

theorem isDigits_zero : IsDigits ['0'] := isDigits_singleton (by decide)

theorem isDigit_of_mem_zeros (k : Nat) : ∀ c ∈ List.replicate k '0', c.isDigit = true := by
  intro c hc
  rw [List.eq_of_mem_replicate hc]
  decide

/-- No digit stands in front. -/
def NoDigit (cs : List Char) : Prop := ∀ c ∈ cs.head?, c.isDigit = false

/-- Nothing in front goes on with a number. -/
def EndsNumber (cs : List Char) : Prop :=
  ∀ c ∈ cs.head?, c.isDigit = false ∧ c ≠ '.' ∧ c ≠ 'e' ∧ c ≠ 'E'

theorem EndsNumber.noDigit {cs : List Char} (h : EndsNumber cs) : NoDigit cs :=
  fun c hc => (h c hc).1

theorem noDigit_cons {c : Char} (h : c.isDigit = false) (cs : List Char) : NoDigit (c :: cs) := by
  intro d hd
  rw [← Option.some.inj hd]
  exact h

theorem endsNumber_nil : EndsNumber [] := by
  intro c hc
  cases hc

theorem endsNumber_cons {c : Char} (h : c.isDigit = false ∧ c ≠ '.' ∧ c ≠ 'e' ∧ c ≠ 'E')
    (cs : List Char) : EndsNumber (c :: cs) := by
  intro d hd
  rw [← Option.some.inj hd]
  exact h

/-! ## Parts of a number -/

theorem readDigits_append {ds cs : List Char} (hds : ∀ c ∈ ds, c.isDigit = true)
    (hcs : NoDigit cs) : readDigits (ds ++ cs) = (ds, cs) := by
  unfold readDigits
  rw [List.takeWhile_append_of_pos hds, List.dropWhile_append_of_pos hds]
  cases cs with
  | nil => rw [List.takeWhile_nil, List.append_nil, List.dropWhile_nil]
  | cons c cs =>
    have hc : ¬ c.isDigit = true := by
      rw [hcs c rfl]
      decide
    rw [List.takeWhile_cons_of_neg hc, List.dropWhile_cons_of_neg hc, List.append_nil]

theorem readSomeDigits_append {ds cs : List Char} (hds : IsDigits ds) (hcs : NoDigit cs) :
    readSomeDigits (ds ++ cs) = some (ds, cs) := by
  unfold readSomeDigits
  rw [readDigits_append hds.2 hcs]
  cases ds with
  | nil => exact absurd rfl hds.1
  | cons c ds => rfl

/-- The whole part is not continued behind a leading zero. -/
theorem readWhole_append {ds cs : List Char} (hds : IsDigits ds)
    (hlead : ds = ['0'] ∨ ds.head? ≠ some '0') (hcs : NoDigit cs) :
    readWhole (ds ++ cs) = some (ds, cs) := by
  unfold readWhole
  rw [readDigits_append hds.2 hcs]
  split
  · next heq => exact absurd (Prod.mk.inj heq).1 hds.1
  · next heq =>
    have hd := (Prod.mk.inj heq).1
    rcases hlead with rfl | hlead
    · cases hd
    · rw [hd] at hlead
      exact absurd rfl hlead
  · rfl

theorem readFraction_point {ds cs : List Char} (hds : IsDigits ds) (hcs : NoDigit cs) :
    readFraction ('.' :: (ds ++ cs)) = some (some ds, cs) := by
  simp only [readFraction, readSomeDigits_append hds hcs, Option.map_some]

theorem readFraction_none {cs : List Char} (h : ∀ c ∈ cs.head?, c ≠ '.') :
    readFraction cs = some (none, cs) := by
  unfold readFraction
  split
  · exact absurd rfl (h '.' rfl)
  · rfl

theorem readExponent_none {cs : List Char} (h : EndsNumber cs) :
    readExponent cs = some (none, cs) := by
  unfold readExponent
  split
  · exact absurd rfl (h 'e' rfl).2.2.1
  · exact absurd rfl (h 'E' rfl).2.2.2
  · rfl

/-- An exponent with its letter and its sign. -/
def exponentChars (i : Int) : List Char :=
  (if i < 0 then ['e', '-'] else ['e', '+']) ++ digitChars i.natAbs

theorem exists_exponentChars_append (i : Int) (cs : List Char) :
    ∃ rest, exponentChars i ++ cs = 'e' :: rest := by
  unfold exponentChars
  split <;> exact ⟨_, rfl⟩

theorem noDigit_exponentChars_append (i : Int) (cs : List Char) :
    NoDigit (exponentChars i ++ cs) := by
  obtain ⟨rest, h⟩ := exists_exponentChars_append i cs
  rw [h]
  exact noDigit_cons (by decide) rest

theorem readFraction_exponentChars_append (i : Int) (cs : List Char) :
    readFraction (exponentChars i ++ cs) = some (none, exponentChars i ++ cs) := by
  obtain ⟨rest, h⟩ := exists_exponentChars_append i cs
  rw [h]
  rfl

theorem readExponent_exponentChars {cs : List Char} (i : Int) (h : NoDigit cs) :
    readExponent (exponentChars i ++ cs) = some (some i, cs) := by
  unfold exponentChars
  split
  · simp only [List.cons_append, List.nil_append, readExponent, readSigned,
      readSomeDigits_append (isDigits_digitChars i.natAbs) h, Option.map_some,
      numeral_digitChars]
    congr 3
    omega
  · simp only [List.cons_append, List.nil_append, readExponent, readSigned,
      readSomeDigits_append (isDigits_digitChars i.natAbs) h, Option.map_some,
      numeral_digitChars]
    congr 3
    omega

theorem readUnsigned_eq {negative : Bool} {cs cs₁ cs₂ cs₃ whole : List Char}
    {fraction : Option (List Char)} {exponent : Option Int}
    (hwhole : readWhole cs = some (whole, cs₁)) (hfraction : readFraction cs₁ = some (fraction, cs₂))
    (hexponent : readExponent cs₂ = some (exponent, cs₃)) :
    readUnsigned negative cs = some (⟨negative, whole, fraction, exponent⟩, cs₃) := by
  simp only [readUnsigned, hwhole, hfraction, hexponent]

/-- Digits around a point. -/
theorem readUnsigned_point {negative : Bool} {whole fraction cs : List Char}
    (hwhole : IsDigits whole) (hlead : whole = ['0'] ∨ whole.head? ≠ some '0')
    (hfraction : IsDigits fraction) (h : EndsNumber cs) :
    readUnsigned negative (whole ++ '.' :: fraction ++ cs) =
      some (⟨negative, whole, some fraction, none⟩, cs) := by
  rw [List.append_assoc]
  exact readUnsigned_eq (readWhole_append hwhole hlead (noDigit_cons (by decide) _))
    (readFraction_point hfraction h.noDigit) (readExponent_none h)

/-- Digits alone. -/
theorem readUnsigned_digitChars (negative : Bool) (n : Nat) {cs : List Char}
    (h : EndsNumber cs) :
    readUnsigned negative (digitChars n ++ cs) =
      some (⟨negative, digitChars n, none, none⟩, cs) := by
  have hlead : digitChars n = ['0'] ∨ (digitChars n).head? ≠ some '0' := by
    rcases Nat.eq_zero_or_pos n with rfl | hn
    · exact Or.inl rfl
    · exact Or.inr (head?_digitChars_ne hn)
  exact readUnsigned_eq (readWhole_append (isDigits_digitChars n) hlead h.noDigit)
    (readFraction_none fun c hc => (h c hc).2.1) (readExponent_none h)

/-! ## Reals -/

/-- A literal with a point or an exponent is the real to which its decimal rounds. -/
theorem Literal.number?_of_within {l : Literal} {r : Finite64} (hr : r.isZero = false)
    (hnegative : l.negative = r.negative)
    (hform : (l.fraction.isNone && l.exponent.isNone) = false)
    (h : Within ⟨numeral (l.whole ++ l.fraction.getD []),
      l.exponent.getD 0 - (l.fraction.getD []).length⟩ r) : l.number? = some (.real r) := by
  unfold number? real?
  rw [hform, if_neg (by decide)]
  dsimp only
  rw [hnegative, Decimal.ofDecimal_of_within hr h]

/-- What is written without a sign is read as the number, whatever ends it. -/
def ReadsAs (negative : Bool) (ds : List Char) (n : Number) : Prop :=
  ∀ cs, EndsNumber cs →
    ∃ l : Literal, readUnsigned negative (ds ++ cs) = some (l, cs) ∧ l.number? = some n

theorem readsAs_zero {r : Finite64} (hr : r.isZero = true) :
    ReadsAs r.negative ['0', '.', '0'] (.real r) := by
  intro cs hcs
  refine ⟨_, readUnsigned_point isDigits_zero (Or.inl rfl) isDigits_zero hcs, ?_⟩
  have hindex : r.index = ⟨0, by decide⟩ := Fin.ext (by simpa [Finite64.isZero] using hr)
  -- the sign of zero is kept, and there is no other magnitude to read
  have hr' : r = ⟨r.negative, ⟨0, by decide⟩⟩ := by rw [← hindex]
  have hdigits : numeral (['0'] ++ ['0']) = 0 := rfl
  unfold Literal.number? Literal.real?
  dsimp only [Option.isNone, Option.getD, Bool.false_and, List.length_cons]
  rw [if_neg (by decide), hdigits, Decimal.ofDecimal_zero]
  unfold Binary64.ofIndex
  rw [dif_pos (by decide), ← hr']

/-- Digits around a point that stand for a decimal of the number. -/
theorem readsAs_point {r : Finite64} {whole fraction : List Char} (hr : r.isZero = false)
    (hwhole : IsDigits whole) (hlead : whole = ['0'] ∨ whole.head? ≠ some '0')
    (hfraction : IsDigits fraction)
    (h : Within ⟨numeral (whole ++ fraction), -(fraction.length : Int)⟩ r) :
    ReadsAs r.negative (whole ++ '.' :: fraction) (.real r) := by
  intro cs hcs
  refine ⟨_, readUnsigned_point hwhole hlead hfraction hcs, ?_⟩
  apply Literal.number?_of_within hr rfl rfl
  dsimp only [Option.getD]
  rw [Int.zero_sub]
  exact h

/-- Zeros fill the places up to the point, and one follows it. -/
theorem readsAs_zeros {r : Finite64} {n e : Nat} (hr : r.isZero = false) (h : Within ⟨n, e⟩ r) :
    ReadsAs r.negative (digitChars n ++ List.replicate e '0' ++ ['.', '0']) (.real r) := by
  have hn := Decimal.digits_pos_of_within hr h
  apply readsAs_point hr
  · exact ⟨by simp [digitChars_ne_nil],
      List.forall_mem_append.2 ⟨(isDigits_digitChars n).2, isDigit_of_mem_zeros e⟩⟩
  · right
    have hhead := head?_digitChars_ne hn
    cases hd : digitChars n with
    | nil => exact absurd hd (digitChars_ne_nil n)
    | cons c ds =>
      rw [hd] at hhead
      exact hhead
  · exact isDigits_zero
  · have hdigits : numeral (digitChars n ++ List.replicate e '0' ++ ['0']) = n * tenTo (e + 1) := by
      rw [List.append_assoc, ← List.replicate_succ', numeral_append_zeros, numeral_digitChars]
    rw [hdigits]
    exact Decimal.within_tenths h

/-- A point between digits. -/
theorem readsAs_split {r : Finite64} {n k : Nat} (hr : r.isZero = false) (hk : 0 < k)
    (hlt : k < (digitChars n).length) (h : Within ⟨n, -(k : Int)⟩ r) :
    ReadsAs r.negative ((digitChars n).take ((digitChars n).length - k) ++
      '.' :: (digitChars n).drop ((digitChars n).length - k)) (.real r) := by
  have hn := Decimal.digits_pos_of_within hr h
  have hlength : ((digitChars n).drop ((digitChars n).length - k)).length = k := by
    rw [List.length_drop]
    omega
  apply readsAs_point hr
  · refine ⟨?_, fun c hc => isDigit_of_mem_digitChars (List.mem_of_mem_take hc)⟩
    apply List.ne_nil_of_length_pos
    rw [List.length_take]
    omega
  · right
    rw [List.head?_take, if_neg (by omega)]
    exact head?_digitChars_ne hn
  · refine ⟨?_, fun c hc => isDigit_of_mem_digitChars (List.mem_of_mem_drop hc)⟩
    apply List.ne_nil_of_length_pos
    omega
  · rw [List.take_append_drop, numeral_digitChars, hlength]
    exact h

/-- Zeros stand between the point and the digits. -/
theorem readsAs_below {r : Finite64} {n k : Nat} (hr : r.isZero = false)
    (hle : (digitChars n).length ≤ k) (h : Within ⟨n, -(k : Int)⟩ r) :
    ReadsAs r.negative ('0' :: '.' :: List.replicate (k - (digitChars n).length) '0' ++
      digitChars n) (.real r) := by
  have hshape : '0' :: '.' :: List.replicate (k - (digitChars n).length) '0' ++ digitChars n =
      ['0'] ++ '.' :: (List.replicate (k - (digitChars n).length) '0' ++ digitChars n) := rfl
  rw [hshape]
  apply readsAs_point hr isDigits_zero (Or.inl rfl)
  · exact ⟨by simp [digitChars_ne_nil],
      List.forall_mem_append.2 ⟨isDigit_of_mem_zeros _, (isDigits_digitChars n).2⟩⟩
  · have hdigits : numeral (['0'] ++ (List.replicate (k - (digitChars n).length) '0' ++
        digitChars n)) = n := by
      rw [← List.append_assoc]
      exact (numeral_zeros (k - (digitChars n).length + 1) _).trans (numeral_digitChars n)
    rw [hdigits, List.length_append, List.length_replicate, Nat.sub_add_cancel hle]
    exact h

/-- A point before the last digits, or before all of them. -/
theorem readsAs_positional {r : Finite64} {d : Decimal} (hr : r.isZero = false)
    (he : ¬ 0 ≤ d.exponent) (h : Within d r) : ReadsAs r.negative d.positional (.real r) := by
  obtain ⟨n, e⟩ := d
  obtain ⟨k, hk⟩ : ∃ k : Nat, e = -(k : Int) := ⟨(-e).toNat, by dsimp only at he; omega⟩
  subst hk
  have hplaces : (- -(k : Int)).toNat = k := by omega
  unfold Decimal.positional
  dsimp only at he ⊢
  rw [if_neg he, hplaces]
  split
  · next hlt => exact readsAs_split hr (by omega) hlt h
  · next hlt => exact readsAs_below hr (Nat.le_of_not_lt hlt) h

/-- An exponent behind one digit. -/
theorem readsAs_exponent {r : Finite64} {c : Char} {i : Int} (hr : r.isZero = false)
    (hc : c.isDigit = true) (hlead : c ≠ '0') (h : Within ⟨numeral [c], i⟩ r) :
    ReadsAs r.negative ([c] ++ exponentChars i) (.real r) := by
  intro cs hcs
  rw [List.append_assoc]
  refine ⟨_, readUnsigned_eq (readWhole_append (isDigits_singleton hc)
    (Or.inr fun heq => hlead (Option.some.inj heq)) (noDigit_exponentChars_append i cs))
    (readFraction_exponentChars_append i cs) (readExponent_exponentChars i hcs.noDigit), ?_⟩
  apply Literal.number?_of_within hr rfl rfl
  have hexponent : i - (([] : List Char).length : Int) = i := Int.sub_zero i
  dsimp only [Option.getD]
  rw [List.append_nil, hexponent]
  exact h

/-- An exponent behind digits with a point after the first. -/
theorem readsAs_point_exponent {r : Finite64} {c : Char} {ds : List Char} {i : Int}
    (hr : r.isZero = false) (hc : c.isDigit = true) (hlead : c ≠ '0') (hds : IsDigits ds)
    (h : Within ⟨numeral (c :: ds), i - ds.length⟩ r) :
    ReadsAs r.negative ([c] ++ '.' :: (ds ++ exponentChars i)) (.real r) := by
  intro cs hcs
  have hshape : [c] ++ '.' :: (ds ++ exponentChars i) ++ cs =
      [c] ++ '.' :: (ds ++ (exponentChars i ++ cs)) := by
    simp only [List.append_assoc, List.cons_append]
  rw [hshape]
  refine ⟨_, readUnsigned_eq (readWhole_append (isDigits_singleton hc)
    (Or.inr fun heq => hlead (Option.some.inj heq)) (noDigit_cons (by decide) _))
    (readFraction_point hds (noDigit_exponentChars_append i cs))
    (readExponent_exponentChars i hcs.noDigit), ?_⟩
  exact Literal.number?_of_within hr rfl rfl h

theorem scientific_of_one {d : Decimal} {c : Char} (h : digitChars d.digits = [c]) :
    d.scientific = [c] ++ exponentChars d.leading := by
  unfold Decimal.scientific
  rw [h]
  rfl

theorem scientific_of_more {d : Decimal} {c x : Char} {ds : List Char}
    (h : digitChars d.digits = c :: x :: ds) :
    d.scientific = [c] ++ '.' :: (x :: ds ++ exponentChars d.leading) := by
  unfold Decimal.scientific
  rw [h]
  rfl

/-- One digit before the point, and an exponent. -/
theorem readsAs_scientific {r : Finite64} {d : Decimal} (hr : r.isZero = false)
    (h : Within d r) : ReadsAs r.negative d.scientific (.real r) := by
  have hhead := head?_digitChars_ne (Decimal.digits_pos_of_within hr h)
  have hnum := numeral_digitChars d.digits
  have hall := (isDigits_digitChars d.digits).2
  have hleading : d.leading = d.exponent + ((digitChars d.digits).length - 1 : Nat) := rfl
  rcases hd : digitChars d.digits with _ | ⟨c, _ | ⟨x, ds⟩⟩
  · exact absurd hd (digitChars_ne_nil _)
  · rw [hd] at hhead hnum hall hleading
    rw [scientific_of_one hd]
    refine readsAs_exponent hr (hall c List.mem_cons_self) (fun heq => hhead (congrArg some heq)) ?_
    rw [hnum, hleading, List.length_singleton, Nat.sub_self, Int.natCast_zero, Int.add_zero]
    exact h
  · rw [hd] at hhead hnum hall hleading
    rw [scientific_of_more hd]
    refine readsAs_point_exponent hr (hall c List.mem_cons_self)
      (fun heq => hhead (congrArg some heq))
      ⟨List.cons_ne_nil _ _, fun y hy => hall y (List.mem_cons_of_mem c hy)⟩ ?_
    rw [hnum, hleading, List.length_cons, Nat.add_sub_cancel, Int.add_sub_cancel]
    exact h

/-- The magnitude of a real is read back under its sign. -/
theorem readsAs_writeMagnitude (r : Finite64) :
    ReadsAs r.negative (writeMagnitude r) (.real r) := by
  unfold writeMagnitude
  split
  · next hr => exact readsAs_zero hr
  · next hr =>
    replace hr : r.isZero = false := by simpa using hr
    have h := Decimal.within_shortest .even hr
    generalize Decimal.shortest .even r = d at h ⊢
    dsimp only
    -- every notation stands for the same decimal, wherever its point is put
    split
    · split
      · next he =>
        obtain ⟨n, e⟩ := d
        obtain ⟨k, rfl⟩ := Int.eq_ofNat_of_zero_le he
        unfold Decimal.positional
        rw [if_pos he]
        exact readsAs_zeros hr h
      · next he => exact readsAs_positional hr he h
    · exact readsAs_scientific hr h

/-- An integer's digits are read back under its sign. -/
theorem readsAs_digitChars (i : Whole) :
    ReadsAs (decide (i.val < 0)) (digitChars i.val.natAbs) (.integer i) := by
  intro cs hcs
  refine ⟨_, readUnsigned_digitChars _ _ hcs, ?_⟩
  obtain ⟨i, hlow, hhigh⟩ := i
  have hsigned : (if decide (i < 0) = true then -(i.natAbs : Int) else i.natAbs) = i := by
    simp only [decide_eq_true_eq]
    omega
  have hzero : (decide (i < 0) && i.natAbs == 0) = false := by
    simp only [Bool.and_eq_false_iff, decide_eq_false_iff_not, beq_eq_false_iff_ne]
    omega
  unfold Literal.number?
  dsimp only [Option.isNone, Bool.true_and]
  rw [if_pos (by decide), numeral_digitChars, hzero, if_neg (by decide), hsigned]
  unfold Number.ofInt?
  rw [dif_pos ⟨hlow, hhigh⟩]

/-! ## Numbers -/

/-- What is read without a sign starts with a digit. -/
theorem readUnsigned_head {negative : Bool} {cs rest : List Char} {l : Literal}
    (h : readUnsigned negative cs = some (l, rest)) :
    ∃ c ds, cs = c :: ds ∧ c.isDigit = true := by
  have hwhole : readWhole cs ≠ none := by
    intro hnone
    rw [readUnsigned, hnone] at h
    cases h
  match cs with
  | [] => exact absurd rfl hwhole
  | c :: ds =>
    refine ⟨c, ds, rfl, Decidable.byContradiction fun hc => hwhole ?_⟩
    rw [readWhole, readDigits, List.takeWhile_cons_of_neg hc]

/-- What is read starts with a sign or a digit. -/
theorem readLiteral_head {cs rest : List Char} {l : Literal}
    (h : readLiteral cs = some (l, rest)) :
    ∃ c ds, cs = c :: ds ∧ (c = '-' ∨ c.isDigit = true) := by
  unfold readLiteral at h
  split at h
  · exact ⟨_, _, rfl, Or.inl rfl⟩
  · obtain ⟨c, ds, rfl, hc⟩ := readUnsigned_head h
    exact ⟨c, ds, rfl, Or.inr hc⟩

theorem ReadsAs.head {negative : Bool} {ds : List Char} {n : Number} (h : ReadsAs negative ds n) :
    ∃ c rest, ds = c :: rest ∧ c.isDigit = true := by
  obtain ⟨l, hread, -⟩ := h [] (fun c hc => by cases hc)
  rw [List.append_nil] at hread
  exact readUnsigned_head hread

/-- A number is written as a sign, if it is negative, and what is read as it under the sign. -/
theorem writeNumber_eq (n : Number) :
    ∃ negative ds, writeNumber n = (if negative = true then '-' :: ds else ds) ∧
      ReadsAs negative ds n := by
  cases n with
  | integer i =>
    refine ⟨decide (i.val < 0), digitChars i.val.natAbs, ?_, readsAs_digitChars i⟩
    simp only [writeNumber, writeInt, decide_eq_true_eq]
  | real r => exact ⟨r.negative, writeMagnitude r, rfl, readsAs_writeMagnitude r⟩

/-- A number starts with a sign or a digit. -/
theorem writeNumber_head (n : Number) :
    ∃ c rest, writeNumber n = c :: rest ∧ (c = '-' ∨ c.isDigit = true) := by
  obtain ⟨negative, ds, heq, hds⟩ := writeNumber_eq n
  obtain ⟨c, rest, rfl, hc⟩ := hds.head
  rw [heq]
  cases negative with
  | true => exact ⟨'-', c :: rest, rfl, Or.inl rfl⟩
  | false => exact ⟨c, rest, rfl, Or.inr hc⟩

/-- Under its sign, what is read as a number without one is read as the number, whatever ends
it. -/
theorem ReadsAs.readLiteral {negative : Bool} {ds cs : List Char} {n : Number}
    (h : ReadsAs negative ds n) (hcs : EndsNumber cs) :
    ∃ l : Literal, readLiteral ((if negative = true then '-' :: ds else ds) ++ cs) = some (l, cs) ∧
      l.number? = some n := by
  obtain ⟨l, hread, hnumber⟩ := h cs hcs
  refine ⟨l, ?_, hnumber⟩
  cases negative with
  | true => exact hread
  | false =>
    obtain ⟨c, rest, rfl, hc⟩ := h.head
    rw [if_neg (by decide)]
    unfold Json.readLiteral
    split
    · next hminus =>
      rw [(List.cons.inj hminus).1] at hc
      exact absurd hc (by decide)
    · exact hread

/-- A written number is read as the number, whatever ends it. -/
theorem readLiteral_writeNumber (n : Number) {cs : List Char} (hcs : EndsNumber cs) :
    ∃ l : Literal, readLiteral (writeNumber n ++ cs) = some (l, cs) ∧ l.number? = some n := by
  obtain ⟨negative, ds, heq, hds⟩ := writeNumber_eq n
  rw [heq]
  exact hds.readLiteral hcs

end Json

end Verdict
