import Mathlib
import Transactional.Proofs.Timestamp.RoundTrip

/-!
# Timestamps in stored text

A stored text has a space between date and time, and no blanks elsewhere.  It is read with a layout
that has no place for the fraction of a second, and where there is one, once more with a layout that
has.

* `Timestamp.ofText?_spaced` — every timestamp is read back as the time that its text shows.
* `Timestamp.spaced_eq_iff` — so those have the same text that show the same time.
-/

namespace Transactional.Timestamp

variable {rest : List Char} {parts : Parts} {items : List Item}

lemma readItems_literal (c : Char) :
    readItems parts (c :: rest) (.literal c :: items) = readItems parts rest items := by
  refine readItems_cons ?_
  simp only [readItem, if_true]
  rfl

lemma readItems_gap {text : List Char} (h : Text.dropBlanks text = text) :
    readItems parts (' ' :: text) (.blanks :: items) = readItems parts text items := by
  refine readItems_cons ?_
  have hgap : Text.dropBlanks (' ' :: text) = text := h
  rw [readItem, hgap]
  rfl

/-- **Up to the second**, both layouts read the same. -/
lemma readItems_spaced (t : Timestamp) (items : List Item) :
    readItems {} t.spaced.toList (Layout.spaced ++ items)
      = readItems ⟨t.year, t.month, t.day, t.hour, t.minute, t.shownSecond, 0⟩
        (fractionText (t.nanosecond % 1000000000)).toList items := by
  obtain ⟨hfirst, hlast, -, -⟩ := t.isDate
  obtain ⟨hmonth, hday, hhour, hminute, hshown⟩ := t.within
  have hseparator : " ".toList = [' '] := rfl
  rw [spaced, toList_text, hseparator, List.singleton_append, Layout.spaced]
  simp only [List.cons_append, List.nil_append]
  rw [readItems_year hfirst hlast, readItems_literal,
    readItems_padded (fun n => ⟨t.year, n, 0, 0, 0, 0, 0⟩) (fun _ => rfl) (by omega)
      hmonth.1 hmonth.2,
    readItems_literal,
    readItems_padded (fun n => ⟨t.year, t.month, n, 0, 0, 0, 0⟩) (fun _ => rfl) (by omega)
      hday.1 hday.2,
    readItems_gap (dropBlanks_digits Text.isDigit_padded Text.padded_ne_nil),
    readItems_padded (fun n => ⟨t.year, t.month, t.day, n, 0, 0, 0⟩) (fun _ => rfl) (by omega)
      (Nat.zero_le _) hhour,
    readItems_literal,
    readItems_padded (fun n => ⟨t.year, t.month, t.day, t.hour, n, 0, 0⟩) (fun _ => rfl) (by omega)
      (Nat.zero_le _) hminute,
    readItems_literal,
    readItems_padded (fun n => ⟨t.year, t.month, t.day, t.hour, t.minute, n, 0⟩) (fun _ => rfl)
      (by omega)
      (Nat.zero_le _) hshown]

lemma read_spacedWithFraction (t : Timestamp) :
    read Layout.spacedWithFraction t.spaced = .ok t.settled := by
  have hfraction : t.nanosecond % 1000000000 < 1000000000 := Nat.mod_lt _ (by decide)
  have hread : readItems {} t.spaced.toList Layout.spacedWithFraction
      = .ok (⟨t.year, t.month, t.day, t.hour, t.minute, t.shownSecond, t.nanosecond % 1000000000⟩,
        []) := by
    rw [Layout.spacedWithFraction, readItems_spaced,
      readItems_cons (readItem_fraction hfraction rfl)]
    rfl
  have hmake := toTimestamp?_shown t
  rw [read, hread]
  simp only [bind, Except.bind, List.isEmpty_nil, if_true, hmake]
  rfl

/-- Without one, those are whose fraction does not show; of the others something is left over. -/
lemma read_spaced (t : Timestamp) :
    read Layout.spaced t.spaced
      = if t.nanosecond % 1000000000 = 0 then .ok t.settled else .error .trailing := by
  have hread : readItems {} t.spaced.toList Layout.spaced
      = .ok (⟨t.year, t.month, t.day, t.hour, t.minute, t.shownSecond, 0⟩,
        (fractionText (t.nanosecond % 1000000000)).toList) := by
    have hitems := readItems_spaced t []
    rwa [List.append_nil] at hitems
  have hmake := toTimestamp?_shown t
  rw [read, hread]
  split_ifs with hzero
  · rw [hzero] at hmake ⊢
    simp only [bind, Except.bind, fractionText, if_true, String.toList_empty,
      List.isEmpty_nil, hmake]
    rfl
  · have hshows : (fractionText (t.nanosecond % 1000000000)).toList.isEmpty = false := by
      unfold fractionText
      split_ifs <;> simp
    simp only [bind, Except.bind, hshows]
    rfl

/-- **Every timestamp is read back** from its stored text as the time that the text shows: any year,
any fraction of a second, leap seconds. -/
theorem ofText?_spaced (t : Timestamp) : ofText? t.spaced = some t.settled := by
  rw [ofText?, read_spaced, read_spacedWithFraction]
  split_ifs <;> rfl

lemma spaced_settled (t : Timestamp) : t.settled.spaced = t.spaced := by
  by_cases h : t.IsSettled
  · rw [settled_of_isSettled h]
  · obtain ⟨-, -, -, hnano⟩ := t.isTime
    rw [settled, dif_neg h]
    unfold IsSettled at h
    have hplain : ¬ 1000000000 ≤ t.nanosecond - 1000000000 := by omega
    have hleap : 1000000000 ≤ t.nanosecond := by omega
    have hfraction : (t.nanosecond - 1000000000) % 1000000000
      = t.nanosecond % 1000000000 := by omega
    simp only [spaced, text, isLeapSecond, hplain, hleap, hfraction, decide_true,
      decide_false, if_true,
      Bool.false_eq_true, if_false]

/-- **Two timestamps have the same stored text** exactly if they show the same time. -/
theorem spaced_eq_iff {t u : Timestamp} : t.spaced = u.spaced ↔ t.settled = u.settled := by
  refine ⟨fun h => ?_, fun h => ?_⟩
  · have hread := ofText?_spaced t
    rw [h, ofText?_spaced u] at hread
    exact (Option.some.inj hread).symm
  · rw [← spaced_settled t, h, spaced_settled u]

end Transactional.Timestamp
