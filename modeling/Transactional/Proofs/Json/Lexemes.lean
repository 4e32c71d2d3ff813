import Mathlib.Tactic.Common
import Mathlib.Tactic.IntervalCases
import Transactional.Json.Reader
import Transactional.Json.Writer
import Transactional.Proofs.Text.Digits

/-!
# Texts and numbers read back

A text in quotes and an integer are read as what they were written from, whatever comes after them
in the compact text of a value.

* `Json.Follows` — what may follow a value in compact text.
* `Json.quotedText_escaped` — a text reads back, each character by its own escape.
* `Json.number_natural` — the digits of a number read back.
* `Json.leaf_writeInt` — an integer reads back, on either side of zero and up to both limits.
-/

namespace Transactional.Json

variable {text rest tail digits sofar : List Char} {c : Char} {n fuel : Nat} {i : Int}

/-- **What may follow a value in compact text**: a comma, the end of a list or of an object, or
nothing. -/
def Follows (rest : List Char) : Prop :=
  ∀ c ∈ rest.head?, c = ',' ∨ c = ']' ∨ c = '\x7d'

lemma Follows.nil : Follows [] := by
  rintro c ⟨⟩

lemma Follows.comma : Follows (',' :: rest) := by
  rintro c ⟨⟩
  exact .inl rfl

lemma Follows.bracket : Follows (']' :: rest) := by
  rintro c ⟨⟩
  exact .inr (.inl rfl)

lemma Follows.brace : Follows ('\x7d' :: rest) := by
  rintro c ⟨⟩
  exact .inr (.inr rfl)

lemma Follows.cases {P : List Char → Prop} (h : Follows rest) (hnil : P [])
    (hcomma : ∀ rest, P (',' :: rest)) (hbracket : ∀ rest, P (']' :: rest))
    (hbrace : ∀ rest, P ('\x7d' :: rest)) : P rest := by
  cases rest with
  | nil => exact hnil
  | cons c rest =>
    rcases h c rfl with rfl | rfl | rfl
    · exact hcomma rest
    · exact hbracket rest
    · exact hbrace rest

lemma Follows.no_digit (h : Follows rest) : ∀ c ∈ rest.head?, c.isDigit = false := by
  intro c hc
  rcases h c hc with rfl | rfl | rfl <;> rfl

/-! ## Texts -/

lemma numberedEscape_control (h : n < 32) :
    numberedEscape ((Text.paddedHexadecimal 4 n).toList ++ rest) = .ok (Char.ofNat n, rest) := by
  interval_cases n <;> rfl

/-- **One character reads back** from the way it stands in a text. -/
lemma quotedChars_escaped (c : Char) :
    quotedChars sofar (fuel + 1) (escapedChar c ++ tail) = quotedChars (c :: sofar) fuel tail := by
  unfold escapedChar
  split_ifs with hquote hslash hline hreturn htab hback hfeed hcontrol
  · subst hquote
    rfl
  · subst hslash
    rfl
  · subst hline
    rfl
  · subst hreturn
    rfl
  · subst htab
    rfl
  · obtain rfl : c = Char.ofNat 8 := by rw [← hback, Char.ofNat_toNat]
    rfl
  · obtain rfl : c = Char.ofNat 12 := by rw [← hfeed, Char.ofNat_toNat]
    rfl
  · have hread : numberedEscape ((Text.paddedHexadecimal 4 c.toNat).toList ++ tail)
        = .ok (Char.ofNat c.toNat, tail) := numberedEscape_control hcontrol
    rw [Char.ofNat_toNat] at hread
    have hescape : escape ('u' :: ((Text.paddedHexadecimal 4 c.toNat).toList ++ tail))
      = .ok (c, tail) := hread
    simp only [List.cons_append, quotedChars, hescape]
    rfl
  · simp only [List.cons_append, List.nil_append, quotedChars, hquote, hslash, hcontrol, if_false]

lemma quotedChars_text (text sofar : List Char) (h : text.length < fuel) :
    quotedChars sofar fuel (text.flatMap escapedChar ++ '"' :: rest)
      = .ok (String.ofList (sofar.reverse ++ text), rest) := by
  induction text generalizing sofar fuel with
  | nil =>
    obtain ⟨fuel, rfl⟩ := Nat.exists_eq_add_one.mpr h
    simp [quotedChars]
  | cons c text ih =>
    obtain ⟨fuel, rfl⟩ := Nat.exists_eq_add_one.mpr (Nat.zero_lt_of_lt h)
    have hlt : text.length < fuel := Nat.lt_of_succ_lt_succ h
    rw [List.flatMap_cons, List.append_assoc, quotedChars_escaped, ih (c :: sofar) hlt]
    simp

lemma length_escaped (text : List Char) : text.length ≤ (text.flatMap escapedChar).length := by
  induction text with
  | nil => exact Nat.le_refl 0
  | cons c text ih =>
    have hpos : 0 < (escapedChar c).length := by
      unfold escapedChar
      split_ifs <;> exact Nat.succ_pos _
    rw [List.flatMap_cons, List.length_append, List.length_cons]
    omega

/-- **A text in quotes reads back.** -/
theorem quotedText_escaped (text : String) :
    quotedText (text.toList.flatMap escapedChar ++ '"' :: rest) = .ok (text, rest) := by
  have hlength := length_escaped text.toList
  have hfuel : text.toList.length < (text.toList.flatMap escapedChar ++ '"' :: rest).length := by
    rw [List.length_append, List.length_cons]
    omega
  rw [quotedText, quotedChars_text _ [] hfuel]
  simp

/-! ## Numbers -/

lemma digitRun_append (h : ∀ c ∈ digits, c.isDigit = true) (hrest : Follows rest) :
    digitRun (digits ++ rest) = (digits.map fun c => c.toNat - '0'.toNat, rest) := by
  simp only [digitRun, Text.takeWhile_digits h hrest.no_digit, Text.filterMap_digitValue h,
    List.drop_left]

lemma le_foldl_digits (digits : List Nat) (n : Nat) :
    n ≤ digits.foldl (fun n d => n * 10 + d) n := by
  induction digits generalizing n with
  | nil => exact Nat.le_refl n
  | cons d more ih => exact (by omega : n ≤ n * 10 + d).trans (ih _)

lemma greatestSignificand_eq : greatestSignificand = 2 ^ 64 - 1 := rfl

/-- **Digits that fit are read as their number.** -/
lemma accumulate_digits {digits : List Nat}
    (h : digits.foldl (fun n d => n * 10 + d) n ≤ greatestSignificand) :
    accumulate n digits = (digits.foldl (fun n d => n * 10 + d) n, digits.length, 0) := by
  induction digits generalizing n with
  | nil => rfl
  | cons d more ih =>
    have hle : n * 10 + d ≤ greatestSignificand := (le_foldl_digits more _).trans h
    simp only [accumulate, hle, if_true, ih h]
    rfl

lemma foldl_natural (n : Nat) :
    ((Nat.toDigits 10 n).map fun c => c.toNat - '0'.toNat).foldl (fun n d => n * 10 + d) 0 = n := by
  have hvalue : Nat.ofDigitChars 10 (Nat.toDigits 10 n) 0 = n := Nat.ofDigitChars_ten_toDigits
  rw [Nat.ofDigitChars_eq_foldl] at hvalue
  rw [List.foldl_map]
  simpa only [Nat.mul_comm] using hvalue

/-- **The digits of a number read back**, up to what may follow them. -/
lemma number_natural (positive : Bool) (hn : n ≤ greatestSignificand) (hrest : Follows rest) :
    number positive (Nat.toDigits 10 n ++ rest) = afterDigits.plainEnd positive n 0 rest := by
  have hafter : afterDigits positive n 0 rest = afterDigits.plainEnd positive n 0 rest :=
    hrest.cases (P := fun rest => afterDigits positive n 0 rest = afterDigits.plainEnd
      positive n 0 rest)
      rfl (fun _ => rfl) (fun _ => rfl) fun _ => rfl
  have hrun := digitRun_append (Text.isDigit_natural (n := n)) hrest
  rw [← hafter]
  rcases Nat.eq_zero_or_pos n with rfl | hpos
  · rw [Nat.toDigits_zero] at hrun ⊢
    simp only [number, List.cons_append, List.nil_append] at hrun ⊢
    rw [hrun]
    rfl
  · obtain ⟨d, more, hd, hlt, hdigits⟩ := Text.natural_head hpos
    have hfold := foldl_natural n
    rw [hdigits] at hrun hfold ⊢
    have hvalue : d.digitChar.toNat - '0'.toNat = d := by interval_cases d <;> rfl
    obtain ⟨e, rfl⟩ := Nat.exists_eq_add_one.mpr hd
    rw [List.map_cons, hvalue] at hrun hfold
    have haccumulate := accumulate_digits (n := 0) (hfold.symm ▸ hn)
    rw [hfold] at haccumulate
    simp only [number, List.cons_append] at hrun ⊢
    rw [hrun]
    simp only [haccumulate]

/-- **An integer reads back** from its decimal text. -/
theorem leaf_writeInt (hleast : -2 ^ 63 ≤ i) (hgreatest : i < 2 ^ 64) (hrest : Follows rest) :
    leaf (writeInt i rest) = .ok (some (.number (.int i), rest)) := by
  cases i with
  | ofNat n =>
    have hbound : (n : Int) < 2 ^ 64 := hgreatest
    have hn : n ≤ greatestSignificand := by
      rw [greatestSignificand_eq]
      omega
    have hread := number_natural true hn hrest
    obtain ⟨d, more, hd, hdigits⟩ := Text.natural_starts n
    rw [writeInt, prepend, Text.whole, Text.toList_natural]
    rw [hdigits] at hread ⊢
    rw [List.cons_append] at hread ⊢
    have hleaf : leaf (d.digitChar :: (more ++ rest))
        = number true (d.digitChar :: (more ++ rest)) >>= fun x =>
          .ok (some (.number x.1, x.2)) := by
      interval_cases d <;> rfl
    rw [hleaf, hread]
    rfl
  | negSucc n =>
    have hn : n + 1 ≤ greatestSignificand := by
      rw [greatestSignificand_eq]
      omega
    have hexact : ¬(n + 1 = 0 ∨ Nat.pow 2 63 < n + 1) := by
      have hpow : Nat.pow 2 63 = 2 ^ 63 := rfl
      omega
    have hread := number_natural false hn hrest
    have hsign : (Text.whole (.negSucc n)).toList = '-' :: Nat.toDigits 10 (n + 1) := by
      rw [Text.whole, String.toList_append, Text.toList_natural]
      rfl
    simp only [afterDigits.plainEnd, ne_eq, not_true_eq_false, if_false, Bool.false_eq_true, hexact]
      at hread
    rw [writeInt, prepend, hsign, List.cons_append]
    simp only [leaf, hread]
    rfl

end Transactional.Json
