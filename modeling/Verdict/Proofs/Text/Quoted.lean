import Verdict.Text.Quoted
import Verdict.Json.Reader

/-
  Quoted texts can be told apart. A character between quotation marks is written as itself, after
  a backslash, or as its code point in braces, and in every case it can be read back with anything
  behind it (`unquote?_quoteChar`). No character is written with a quotation mark in front, so a
  text ends at the first mark that stands where a character would begin, and two quoted texts with
  anything behind them are equal only when the texts are, and what is behind
  (`quoted_append_inj`).
-/
namespace Verdict

namespace Text

open Json (hexDigit?)

/-! ## Code points -/

/-- The number that hexadecimal digits stand for. -/
def unhex (ds : List Char) : Nat := ds.foldl (fun n d => 16 * n + (hexDigit? d).getD 0) 0

theorem unhex_concat (ds : List Char) (d : Char) :
    unhex (ds ++ [d]) = 16 * unhex ds + (hexDigit? d).getD 0 := by
  unfold unhex
  rw [List.foldl_append]
  rfl

theorem hexDigit?_digitChar {n : Nat} (h : n < 16) : hexDigit? (Nat.digitChar n) = some n := by
  have hall : ∀ m < 16, hexDigit? (Nat.digitChar m) = some m := by decide
  exact hall n h

theorem hex_of_lt {n : Nat} (h : n < 16) : hex n = [Nat.digitChar n] :=
  Nat.toDigits_of_lt_base h

theorem hex_of_le {n : Nat} (h : 16 ≤ n) : hex n = hex (n / 16) ++ [Nat.digitChar (n % 16)] :=
  Nat.toDigits_of_base_le (by decide) h

theorem unhex_hex (n : Nat) : unhex (hex n) = n := by
  induction n using Nat.strongRecOn with
  | ind n ih =>
    rcases Nat.lt_or_ge n 16 with hn | hn
    · rw [hex_of_lt hn, ← List.nil_append [_], unhex_concat, hexDigit?_digitChar hn]
      exact Nat.zero_add n
    · have hlt : n % 16 < 16 := Nat.mod_lt n (by decide)
      rw [hex_of_le hn, unhex_concat, ih (n / 16) (by omega), hexDigit?_digitChar hlt]
      exact Nat.div_add_mod n 16

/-- A numeral consists of digits. -/
theorem hexDigit?_of_mem_hex {n : Nat} {d : Char} (h : d ∈ hex n) :
    (hexDigit? d).isSome = true := by
  induction n using Nat.strongRecOn with
  | ind n ih =>
    rcases Nat.lt_or_ge n 16 with hn | hn
    · rw [hex_of_lt hn, List.mem_singleton] at h
      rw [h, hexDigit?_digitChar hn]
      rfl
    · rw [hex_of_le hn, List.mem_append, List.mem_singleton] at h
      rcases h with h | rfl
      · exact ih (n / 16) (by omega) h
      · rw [hexDigit?_digitChar (Nat.mod_lt n (by decide))]
        rfl

/-- The closing brace is none of the digits before it. -/
theorem ne_brace_of_mem_hex {n : Nat} : ∀ d ∈ hex n, (d != '}') = true := by
  intro d hd
  rw [bne_iff_ne]
  rintro rfl
  have hdigit := hexDigit?_of_mem_hex hd
  revert hdigit
  decide

/-! ## Characters -/

/-- The character that a letter stands for after a backslash. -/
def unescape (c : Char) : Char :=
  if c = '0' then '\x00' else if c = 't' then '\t' else if c = 'n' then '\n'
  else if c = 'r' then '\r' else c

/-- The first character of a text from after its opening mark, and what follows it. There is none
at the closing mark. -/
def unquote? : List Char → Option (Char × List Char)
  | [] => none
  | '"' :: _ => none
  | '\\' :: 'u' :: '{' :: cs =>
    some (Char.ofNat (unhex (cs.takeWhile (· != '}'))), (cs.dropWhile (· != '}')).tail)
  | '\\' :: c :: cs => some (unescape c, cs)
  | c :: cs => some (c, cs)

theorem unquote?_plain {c : Char} (hmark : c ≠ '"') (hslash : c ≠ '\\') (cs : List Char) :
    unquote? (c :: cs) = some (c, cs) := by
  rw [unquote?.eq_def]
  split
  · next heq => cases heq
  · next heq => exact absurd (List.cons.inj heq).1 hmark
  · next heq => exact absurd (List.cons.inj heq).1 hslash
  · next heq => exact absurd (List.cons.inj heq).1 hslash
  · next heq =>
    obtain ⟨rfl, rfl⟩ := List.cons.inj heq
    rfl

theorem unquote?_braces (c : Char) (cs : List Char) :
    unquote? ('\\' :: 'u' :: '{' :: (hex c.toNat ++ '}' :: cs)) = some (c, cs) := by
  have htake : ('}' :: cs).takeWhile (· != '}') = [] := rfl
  have hdrop : ('}' :: cs).dropWhile (· != '}') = '}' :: cs := rfl
  rw [unquote?, List.takeWhile_append_of_pos ne_brace_of_mem_hex,
    List.dropWhile_append_of_pos ne_brace_of_mem_hex, htake, hdrop, List.append_nil, unhex_hex,
    Char.ofNat_toNat]
  rfl

/-- A character as it is written is read back, with anything behind it. -/
theorem unquote?_quoteChar (c : Char) (cs : List Char) :
    unquote? (quoteChar c ++ cs) = some (c, cs) := by
  by_cases hnamed : c ∈ ['\x00', '\t', '\n', '\r', '"', '\\']
  · simp only [List.mem_cons, List.not_mem_nil, or_false] at hnamed
    rcases hnamed with rfl | rfl | rfl | rfl | rfl | rfl <;> rfl
  · simp only [List.mem_cons, List.not_mem_nil, or_false, not_or] at hnamed
    obtain ⟨hzero, ht, hn, hr, hmark, hslash⟩ := hnamed
    unfold quoteChar
    rw [if_neg hzero, if_neg ht, if_neg hn, if_neg hr, if_neg hmark, if_neg hslash]
    split
    · simp only [List.cons_append, List.append_assoc, List.nil_append]
      exact unquote?_braces c cs
    · exact unquote?_plain hmark hslash cs

/-! ## Texts -/

/-- What stands in front of the closing mark is determined, and what stands behind it. -/
theorem quoted_append_inj {s t cs ds : List Char}
    (h : s.flatMap quoteChar ++ '"' :: cs = t.flatMap quoteChar ++ '"' :: ds) :
    s = t ∧ cs = ds := by
  induction s generalizing t with
  | nil =>
    cases t with
    | nil => exact ⟨rfl, (List.cons.inj h).2⟩
    | cons d t =>
      -- one text is at its end where the other has a character
      rw [List.flatMap_cons, List.append_assoc] at h
      have hread := congrArg unquote? h
      rw [unquote?_quoteChar] at hread
      cases hread
  | cons c s ih =>
    rw [List.flatMap_cons, List.append_assoc] at h
    cases t with
    | nil =>
      have hread := congrArg unquote? h
      rw [unquote?_quoteChar] at hread
      cases hread
    | cons d t =>
      rw [List.flatMap_cons, List.append_assoc] at h
      have hread := congrArg unquote? h
      rw [unquote?_quoteChar, unquote?_quoteChar] at hread
      obtain ⟨rfl, hrest⟩ := Prod.mk.inj (Option.some.inj hread)
      obtain ⟨rfl, rfl⟩ := ih hrest
      exact ⟨rfl, rfl⟩

theorem toList_quote (s : String) :
    (quote s).toList = '"' :: (s.toList.flatMap quoteChar ++ ['"']) := by
  unfold quote
  rw [String.toList_ofList]
  rfl

/-- A quoted text is followed by what follows it in one way only. -/
theorem quote_append_inj {s t : String} {cs ds : List Char}
    (h : (quote s).toList ++ cs = (quote t).toList ++ ds) : s = t ∧ cs = ds := by
  rw [toList_quote, toList_quote, List.cons_append, List.cons_append, List.append_assoc,
    List.append_assoc] at h
  obtain ⟨hs, hrest⟩ := quoted_append_inj (List.cons.inj h).2
  exact ⟨String.toList_inj.1 hs, hrest⟩

end Text

end Verdict
