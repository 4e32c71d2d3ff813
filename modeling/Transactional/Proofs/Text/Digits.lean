import Mathlib
import Transactional.Text.Numeral

/-!
# Numbers and their digits

What the printers write of a number is a run of decimal digits, and reading the run gives the number
back.

* `Text.isDigit_natural`, `Text.isDigit_padded` — what is written are digits.
* `Text.takeWhile_digits` — a run of digits ends where another character stands.
* `Text.natural_head` — no zero stands in front of a number but zero itself.
* `Text.value_padded` — a number that is filled up with zeros is the same number.
* `Text.length_padded` — it takes exactly the places it is given, if it fits.
-/

namespace Transactional.Text

variable {digits rest : List Char} {c : Char} {n width : Nat}

lemma isDigit_iff : c.isDigit = true ↔ '0' ≤ c ∧ c ≤ '9' := by
  simp [Char.isDigit, Char.le_def]

@[simp] lemma isSome_digitValue (c : Char) : (digitValue c).isSome = c.isDigit := by
  rw [Bool.eq_iff_iff, isDigit_iff]
  unfold digitValue
  split <;> simp_all

lemma digitValue_of_isDigit (h : c.isDigit = true) : digitValue c = some (c.toNat - '0'.toNat) :=
  if_pos (isDigit_iff.mp h)

/-- **A run of digits** ends where another character stands. -/
lemma takeWhile_digits (h : ∀ c ∈ digits, c.isDigit = true)
    (hrest : ∀ c ∈ rest.head?, c.isDigit = false) :
    (digits ++ rest).takeWhile (fun c => (digitValue c).isSome) = digits := by
  simp only [isSome_digitValue]
  rw [List.takeWhile_append_of_pos h]
  cases rest with
  | nil => simp
  | cons c rest => simp [hrest c rfl]

lemma filterMap_digitValue (h : ∀ c ∈ digits, c.isDigit = true) :
    digits.filterMap digitValue = digits.map fun c => c.toNat - '0'.toNat := by
  induction digits with
  | nil => rfl
  | cons c more ih =>
    rw [List.filterMap_cons_some (digitValue_of_isDigit (h c List.mem_cons_self)), List.map_cons,
      ih fun c hc => h c (List.mem_cons_of_mem _ hc)]

/-! ## What is written of a number -/

lemma isDigit_natural : ∀ c ∈ Nat.toDigits 10 n, c.isDigit = true :=
  fun _ => Nat.isDigit_of_mem_toDigits (by decide) (by decide)

/-- **The first digit of a number** that is not zero. -/
lemma natural_head (h : 0 < n) :
    ∃ d more, 0 < d ∧ d < 10 ∧ Nat.toDigits 10 n = d.digitChar :: more := by
  induction n using Nat.strongRecOn with
  | ind n ih =>
    by_cases hn : n < 10
    · exact ⟨n, [], h, hn, Nat.toDigits_of_lt_base hn⟩
    · obtain ⟨d, more, hd, hlt, hdigits⟩ := ih (n / 10) (by omega) (by omega)
      refine ⟨d, more ++ [(n % 10).digitChar], hd, hlt, ?_⟩
      rw [Nat.toDigits_of_base_le (by decide) (by omega), hdigits]
      rfl

lemma natural_starts (n : Nat) : ∃ d more, d < 10 ∧ Nat.toDigits 10 n = d.digitChar :: more := by
  rcases Nat.eq_zero_or_pos n with rfl | h
  · exact ⟨0, [], by decide, rfl⟩
  · obtain ⟨d, more, -, hlt, hdigits⟩ := natural_head h
    exact ⟨d, more, hlt, hdigits⟩

lemma toList_natural (n : Nat) : (natural n).toList = Nat.toDigits 10 n := by
  simp [natural, decimalDigits]

lemma toList_padded (width n : Nat) :
    (padded width n).toList
      = List.replicate (width - (Nat.toDigits 10 n).length) '0' ++ Nat.toDigits 10 n := by
  simp [padded, zeros, decimalDigits]

lemma isDigit_padded : ∀ c ∈ (padded width n).toList, c.isDigit = true := by
  intro c hc
  rw [toList_padded, List.mem_append] at hc
  rcases hc with hc | hc
  · rw [(List.mem_replicate.mp hc).2]
    rfl
  · exact isDigit_natural c hc

/-- **Zeros in front do not count.** -/
lemma value_padded : Nat.ofDigitChars 10 (padded width n).toList 0 = n := by
  rw [toList_padded, Nat.ofDigitChars_append, Nat.ofDigitChars_replicate_zero, Nat.mul_zero,
    Nat.ofDigitChars_ten_toDigits]

/-- **A number that fits takes exactly its places.** -/
lemma length_padded (hwidth : 0 < width) (h : n < 10 ^ width) :
    (padded width n).toList.length = width := by
  have hle : (Nat.toDigits 10 n).length ≤ width :=
    (Nat.length_toDigits_le_iff (by decide) hwidth).mpr h
  rw [toList_padded, List.length_append, List.length_replicate]
  omega

lemma padded_ne_nil : (padded width n).toList ≠ [] := by
  rw [toList_padded]
  exact List.append_ne_nil_of_right_ne_nil _ Nat.toDigits_ne_nil

end Transactional.Text
