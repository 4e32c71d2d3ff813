import Mathlib
import Transactional.Proofs.Text.Digits
import Transactional.Timestamp.Reader

/-!
# Timestamps read back

Every timestamp is read back from the text of serialised data as the time that the text shows: years
of any length with their sign, the fraction of a second in as many places as show it, and leap
seconds, which show as second sixty.  A leap second that follows another second than the last one of
a minute is read back as the next second.

* `Timestamp.readNumber_padded` — a number in a fixed number of places reads back.
* `Timestamp.readYear_yearText` — so does a year.
* `Timestamp.readItem_fraction` — and so does the fraction of a second.
* `Timestamp.settled` — the time that a text shows; **`Timestamp.read_joined`** — it is what is
  read.
-/

namespace Transactional.Timestamp

variable {digits rest : List Char} {limit width n least greatest : Nat} {parts : Parts}
  {items : List Item}

/-! ## Numbers -/

/-- **A run of digits** that is cut off by the limit or ends where another character stands. -/
lemma takeDigits_append (h : ∀ c ∈ digits, c.isDigit = true) (hlimit : digits.length ≤ limit)
    (hrest : digits.length = limit ∨ ∀ c ∈ rest.head?, c.isDigit = false) :
    takeDigits limit (digits ++ rest) = (digits, rest) := by
  have hnext : ∀ c ∈ (rest.take (limit - digits.length)).head?, c.isDigit = false := by
    rcases hrest with hfull | hrest
    · rw [hfull, Nat.sub_self, List.take_zero]
      rintro c ⟨⟩
    · rw [List.head?_take]
      split
      · rintro c ⟨⟩
      · exact hrest
  have htake : (digits ++ rest).take limit = digits ++ rest.take (limit - digits.length) := by
    rw [List.take_append, List.take_of_length_le hlimit]
  simp only [takeDigits, htake, Text.takeWhile_digits h hnext, List.drop_left]

lemma numberOf_digits (h : ∀ c ∈ digits, c.isDigit = true) :
    numberOf digits = Nat.ofDigitChars 10 digits 0 := by
  rw [Nat.ofDigitChars_eq_foldl, numberOf]
  refine List.foldl_ext _ _ _ fun n c hc => ?_
  rw [Text.digitValue_of_isDigit (h c hc), Nat.mul_comm, Option.getD_some]

/-- **A number in a fixed number of places.** -/
lemma readNumber_padded (hwidth : 0 < width) (hn : n < 10 ^ width) (hlimit : width ≤ limit)
    (hrest : width = limit ∨ ∀ c ∈ rest.head?, c.isDigit = false) :
    readNumber limit ((Text.padded width n).toList ++ rest) = .ok (n, width, rest) := by
  have hdigits : ∀ c ∈ (Text.padded width n).toList, c.isDigit = true := Text.isDigit_padded
  have hlength : (Text.padded width n).toList.length = width := Text.length_padded hwidth hn
  have htake := takeDigits_append hdigits (hlength ▸ hlimit) (hlength ▸ hrest)
  have hnumber : numberOf (Text.padded width n).toList = n :=
    (numberOf_digits hdigits).trans Text.value_padded
  unfold readNumber
  rw [htake]
  cases htext : (Text.padded width n).toList with
  | nil => exact absurd htext Text.padded_ne_nil
  | cons c more =>
    rw [htext] at hnumber hlength
    simp only [List.cons_append, hnumber, hlength]

lemma readBounded_padded (hn : n < 100) (hleast : least ≤ n) (hgreatest : n ≤ greatest) :
    readBounded least greatest ((Text.padded 2 n).toList ++ rest) = .ok (n, rest) := by
  rw [readBounded, readNumber_padded (by decide) hn (Nat.le_refl 2) (.inl rfl)]
  exact if_pos ⟨hleast, hgreatest⟩

/-- A number of at least four places, of which there may be more behind a sign. -/
lemma readNumber_signed (rest : List Char) (n : Nat) :
    ∃ places, readNumber ((Text.padded 4 n).toList ++ '-' :: rest).length
      ((Text.padded 4 n).toList ++ '-' :: rest) = .ok (n, places, '-' :: rest) := by
  have hdigits : ∀ c ∈ (Text.padded 4 n).toList, c.isDigit = true := Text.isDigit_padded
  have hlength : (Text.padded 4 n).toList.length
    ≤ ((Text.padded 4 n).toList ++ '-' :: rest).length := by
    rw [List.length_append]
    omega
  have hminus : ∀ c ∈ ('-' :: rest).head?, c.isDigit = false := by
    rintro c ⟨⟩
    rfl
  have htake := takeDigits_append hdigits hlength (.inr hminus)
  have hnumber : numberOf (Text.padded 4 n).toList = n :=
    (numberOf_digits hdigits).trans Text.value_padded
  refine ⟨(Text.padded 4 n).toList.length, ?_⟩
  unfold readNumber
  rw [htake]
  cases htext : (Text.padded 4 n).toList with
  | nil => exact absurd htext Text.padded_ne_nil
  | cons c more =>
    rw [htext] at hnumber
    simp only [List.cons_append, hnumber]

/-! ## Years -/

/-- **A year reads back**, with its sign where it has one. -/
lemma readYear_yearText {year : Int} (hfirst : firstYear ≤ year) (hlast : year ≤ lastYear) :
    readYear ((yearText year).toList ++ '-' :: rest) = .ok (year, '-' :: rest) := by
  have hrange : -2147483648 ≤ year ∧ year ≤ 2147483647 := by
    unfold firstYear at hfirst
    unfold lastYear at hlast
    omega
  unfold yearText
  split
  · rename_i hplain
    have hread : readNumber 4 ((Text.padded 4 year.natAbs).toList ++ '-' :: rest)
        = .ok (year.natAbs, 4, '-' :: rest) :=
      readNumber_padded (by decide) (by omega) (Nat.le_refl 4) (.inl rfl)
    have hdigit : ∀ c ∈ (Text.padded 4 year.natAbs).toList, c.isDigit = true := Text.isDigit_padded
    have hyear : (year.natAbs : Int) = year := Int.natAbs_of_nonneg hplain.1
    cases htext : (Text.padded 4 year.natAbs).toList with
    | nil => exact absurd htext Text.padded_ne_nil
    | cons c more =>
      rw [htext] at hread hdigit
      have hc : c.isDigit = true := hdigit c List.mem_cons_self
      unfold readYear
      split
      · rename_i heq
        cases heq
        cases hc
      · rename_i heq
        cases heq
        cases hc
      · rw [hread]
        simp only [bind, Except.bind, pure, Except.pure, hyear, if_pos hrange]
  · obtain ⟨places, hread⟩ := readNumber_signed rest year.natAbs
    split
    · rename_i hnegative
      have hyear : -(year.natAbs : Int) = year := by omega
      have hsigned : ("-" ++ Text.padded 4 year.natAbs).toList ++ '-' :: rest
          = '-' :: ((Text.padded 4 year.natAbs).toList ++ '-' :: rest) := by
        rw [String.toList_append]
        rfl
      rw [hsigned]
      unfold readYear
      simp only [hread, bind, Except.bind, pure, Except.pure, hyear, if_pos hrange]
    · rename_i hpositive
      have hyear : (year.natAbs : Int) = year := by omega
      have hsigned : ("+" ++ Text.padded 4 year.natAbs).toList ++ '-' :: rest
          = '+' :: ((Text.padded 4 year.natAbs).toList ++ '-' :: rest) := by
        rw [String.toList_append]
        rfl
      rw [hsigned]
      unfold readYear
      simp only [hread, bind, Except.bind, pure, Except.pure, hyear, if_pos hrange]

/-! ## Fractions of a second -/

lemma readItem_places {places value : Nat} (hplaces : 0 < places) (hnine : places ≤ 9)
    (hvalue : value < 10 ^ places) :
    readItem parts ("." ++ Text.padded places value).toList .fraction
      = .ok ({ parts with nanosecond := value * Nat.pow 10 (9 - places) }, []) := by
  have hread : readNumber 9 ((Text.padded places value).toList ++ []) = .ok (value, places, []) :=
    readNumber_padded hplaces hvalue hnine (.inr (by rintro c ⟨⟩))
  rw [List.append_nil] at hread
  have htext : ("." ++ Text.padded places value).toList = '.'
    :: (Text.padded places value).toList := by
    rw [String.toList_append]
    rfl
  rw [htext]
  simp only [readItem, hread]
  rfl

/-- **The fraction of a second reads back**, in as many places as show it. -/
lemma readItem_fraction (hn : n < 1000000000) (hparts : parts.nanosecond = 0) :
    readItem parts (fractionText n).toList .fraction = .ok
      ({ parts with nanosecond := n }, []) := by
  unfold fractionText
  split_ifs with hzero hmilli hmicro
  · subst hzero
    rw [← hparts]
    rfl
  · rw [readItem_places (by decide) (by decide) (by omega)]
    have hback : n / 1000000 * Nat.pow 10 (9 - 3) = n :=
      Nat.div_mul_cancel (Nat.dvd_of_mod_eq_zero hmilli)
    rw [hback]
  · rw [readItem_places (by decide) (by decide) (by omega)]
    have hback : n / 1000 * Nat.pow 10 (9 - 6) = n :=
      Nat.div_mul_cancel (Nat.dvd_of_mod_eq_zero hmicro)
    rw [hback]
  · rw [readItem_places (by decide) (by decide) hn]
    have hback : n * Nat.pow 10 (9 - 9) = n := Nat.mul_one n
    rw [hback]

/-! ## The whole timestamp -/

lemma dropBlanks_digits (h : ∀ c ∈ digits, c.isDigit = true) (hne : digits ≠ []) :
    Text.dropBlanks (digits ++ rest) = digits ++ rest := by
  cases digits with
  | nil => exact absurd rfl hne
  | cons c more =>
    have hc : c.isDigit = true := h c List.mem_cons_self
    rw [List.cons_append, Text.dropBlanks, List.dropWhile_cons_of_neg]
    rw [Char.isDigit_iff_toNat] at hc
    have hlow : 48 ≤ c.toNat := hc.1
    have hhigh : c.toNat ≤ 57 := hc.2
    simp only [Text.isBlank, Bool.or_eq_true, Bool.and_eq_true, decide_eq_true_eq, beq_iff_eq]
    omega

lemma readItems_cons {text : List Char} {item : Item} {parts' : Parts}
    (h : readItem parts text item = .ok (parts', rest)) :
    readItems parts text (item :: items) = readItems parts' rest items := by
  rw [readItems, h]
  rfl

lemma readItems_separator {c : Char} (h : Text.isBlank c = false) :
    readItems parts (c :: rest) (.blanks :: .literal c :: items) = readItems parts rest items := by
  have hblanks : Text.dropBlanks (c :: rest) = c :: rest := by
    rw [Text.dropBlanks, List.dropWhile_cons_of_neg]
    rw [h]
    exact Bool.false_ne_true
  have hliteral : readItem parts (c :: rest) (.literal c) = .ok (parts, rest) := by
    simp only [readItem, if_true]
    rfl
  have hnone : readItem parts (c :: rest) .blanks = .ok (parts, c :: rest) :=
    congrArg (fun text => Except.ok (parts, text)) hblanks
  rw [readItems_cons hnone, readItems_cons hliteral]

lemma readItems_padded {part : Part} (set : Nat → Parts)
    (hpart : ∀ text, readPart parts text part = (do
      let (n, rest) ← readBounded least greatest text
      pure (set n, rest)))
    (hn : n < 100) (hleast : least ≤ n) (hgreatest : n ≤ greatest) :
    readItems parts ((Text.padded 2 n).toList ++ rest) (.number part :: items)
      = readItems (set n) rest items := by
  refine readItems_cons ?_
  rw [readItem, dropBlanks_digits Text.isDigit_padded Text.padded_ne_nil, hpart,
    readBounded_padded hn hleast hgreatest]
  rfl

lemma dropBlanks_yearText (year : Int) :
    Text.dropBlanks ((yearText year).toList ++ rest) = (yearText year).toList ++ rest := by
  unfold yearText
  split_ifs
  · exact dropBlanks_digits Text.isDigit_padded Text.padded_ne_nil
  · rw [String.toList_append]
    rfl
  · rw [String.toList_append]
    rfl

lemma readItems_year {year : Int} (hfirst : firstYear ≤ year) (hlast : year ≤ lastYear) :
    readItems parts ((yearText year).toList ++ '-' :: rest) (.number .year :: items)
      = readItems { parts with year } ('-' :: rest) items := by
  refine readItems_cons ?_
  rw [readItem, dropBlanks_yearText, readPart, readYear_yearText hfirst hlast]
  rfl

lemma daysInMonth_le (year : Int) (month : Nat) : daysInMonth year month ≤ 31 := by
  unfold daysInMonth
  split <;> (try split) <;> omega

lemma month_of_days {year : Int} {month : Nat} (h : 1 ≤ daysInMonth year month) :
    1 ≤ month ∧ month ≤ 12 := by
  unfold daysInMonth at h
  split at h <;> first | decide | cases h

def shownSecond (t : Timestamp) : Nat :=
  if t.isLeapSecond then t.second + 1 else t.second

/-- A leap second stands only at the end of a minute. -/
def IsSettled (t : Timestamp) : Prop :=
  t.nanosecond < 1000000000 ∨ t.second = 59

instance (t : Timestamp) : Decidable t.IsSettled :=
  inferInstanceAs (Decidable (_ ∨ _))

/-- **The time that a text shows**: a leap second that follows another second than the last one of a
minute is shown as the next second. -/
def settled (t : Timestamp) : Timestamp :=
  if h : t.IsSettled then t
  else
    { t with
      second := t.second + 1
      nanosecond := t.nanosecond - 1000000000
      isTime := by
        obtain ⟨hhour, hminute, hsecond, hnano⟩ := t.isTime
        unfold IsSettled at h
        exact ⟨hhour, hminute, by omega, by omega⟩ }

lemma settled_of_isSettled {t : Timestamp} (h : t.IsSettled) : t.settled = t :=
  dif_pos h

/-- A timestamp is the time that its text shows exactly if its leap second ends a minute. -/
lemma settled_eq_iff {t : Timestamp} : t.settled = t ↔ t.IsSettled := by
  refine ⟨fun h => ?_, settled_of_isSettled⟩
  by_contra hnot
  have hsecond : t.settled.second = t.second + 1 := by
    rw [settled, dif_neg hnot]
  rw [h] at hsecond
  omega

/-- **The parts that the text shows** make the time that it shows. -/
lemma toTimestamp?_shown (t : Timestamp) :
    Parts.toTimestamp?
        ⟨t.year, t.month, t.day, t.hour, t.minute, t.shownSecond, t.nanosecond % 1000000000⟩
      = some t.settled := by
  obtain ⟨hhour, hminute, hsecond, hnano⟩ := t.isTime
  by_cases hsettled : t.IsSettled
  · rw [settled_of_isSettled hsettled]
    obtain ⟨year, month, day, hour, minute, second, nanosecond, hdate, htime⟩ := t
    unfold IsSettled at hsettled
    unfold Parts.toTimestamp? shownSecond isLeapSecond of?
    dsimp only at *
    by_cases hleap : 1000000000 ≤ nanosecond
    · obtain rfl : second = 59 := by omega
      have hback : nanosecond % 1000000000 + 1000000000 = nanosecond := by omega
      simp only [hleap, decide_true, if_true, hback, hdate, htime, dite_true]
    · have hback : nanosecond % 1000000000 = nanosecond := Nat.mod_eq_of_lt (by omega)
      have hshown : second ≠ 60 := by omega
      simp only [hleap, decide_false, Bool.false_eq_true, if_false, hback, hshown, hdate, htime,
        dite_true]
  · have hnext : IsTime t.hour t.minute (t.second + 1) (t.nanosecond - 1000000000) := by
      unfold IsSettled at hsettled
      exact ⟨hhour, hminute, by omega, by omega⟩
    rw [settled, dif_neg hsettled]
    unfold IsSettled at hsettled
    have hleap : 1000000000 ≤ t.nanosecond := by omega
    have hback : t.nanosecond % 1000000000 = t.nanosecond - 1000000000 := by omega
    have hshown : t.second + 1 ≠ 60 := by omega
    unfold Parts.toTimestamp? shownSecond isLeapSecond of?
    simp only [hleap, decide_true, if_true, hback, hshown, t.isDate, hnext, dite_true, if_false]

lemma within (t : Timestamp) :
    (1 ≤ t.month ∧ t.month ≤ 12) ∧ (1 ≤ t.day ∧ t.day ≤ 31) ∧ t.hour ≤ 23 ∧ t.minute ≤ 59
      ∧ t.shownSecond ≤ 60 := by
  obtain ⟨-, -, hday, hdays⟩ := t.isDate
  obtain ⟨hhour, hminute, hsecond, -⟩ := t.isTime
  have hmonth := month_of_days (hday.trans hdays)
  have hshown : t.shownSecond ≤ 60 := by
    unfold shownSecond
    split <;> omega
  exact ⟨hmonth, ⟨hday, hdays.trans (daysInMonth_le t.year t.month)⟩, by omega, by omega, hshown⟩

lemma toList_text (separator : String) (t : Timestamp) :
    (t.text separator).toList
      = (yearText t.year).toList ++ '-' :: ((Text.padded 2 t.month).toList
        ++ '-' :: ((Text.padded 2 t.day).toList
          ++ (separator.toList ++ ((Text.padded 2 t.hour).toList
        ++ ':' :: ((Text.padded 2 t.minute).toList ++ ':' :: ((Text.padded 2 t.shownSecond).toList
        ++ (fractionText (t.nanosecond % 1000000000)).toList)))))) := by
  simp [text, shownSecond]

/-- **Every timestamp is read back** from the text of serialised data, as the time that it shows. -/
theorem read_joined (t : Timestamp) : read Layout.joined t.joined = .ok t.settled := by
  obtain ⟨hfirst, hlast, -, -⟩ := t.isDate
  obtain ⟨hmonth, hday, hhour, hminute, hshown⟩ := t.within
  have hfraction : t.nanosecond % 1000000000 < 1000000000 := Nat.mod_lt _ (by decide)
  have hseparator : "T".toList = ['T'] := rfl
  have hread : readItems {} t.joined.toList Layout.joined
      = .ok (⟨t.year, t.month, t.day, t.hour, t.minute, t.shownSecond, t.nanosecond % 1000000000⟩,
        []) := by
    rw [joined, toList_text, hseparator, List.singleton_append, Layout.joined,
      readItems_year hfirst hlast,
      readItems_separator (by decide),
      readItems_padded (fun n => ⟨t.year, n, 0, 0, 0, 0, 0⟩) (fun _ => rfl) (by omega)
        hmonth.1 hmonth.2,
      readItems_separator (by decide),
      readItems_padded (fun n => ⟨t.year, t.month, n, 0, 0, 0, 0⟩) (fun _ => rfl) (by omega)
        hday.1 hday.2,
      readItems_separator (by decide),
      readItems_padded (fun n => ⟨t.year, t.month, t.day, n, 0, 0, 0⟩) (fun _ => rfl) (by omega)
        (Nat.zero_le _) hhour,
      readItems_separator (by decide),
      readItems_padded (fun n => ⟨t.year, t.month, t.day, t.hour, n, 0, 0⟩) (fun _ => rfl)
        (by omega)
        (Nat.zero_le _) hminute,
      readItems_separator (by decide),
      readItems_padded (fun n => ⟨t.year, t.month, t.day, t.hour, t.minute, n, 0⟩) (fun _ => rfl)
        (by omega)
        (Nat.zero_le _) hshown,
      readItems_cons (readItem_fraction hfraction rfl)]
    rfl
  rw [read, hread]
  have hmake := toTimestamp?_shown t
  simp only [bind, Except.bind, List.isEmpty_nil, if_true, hmake]
  rfl

end Transactional.Timestamp
