import Mathlib
import Transactional.Options

/-!
# Limits are kept in whole milliseconds

Options are given limits as spans of time, and keep them as a number of milliseconds of sixty-four
bits.  What is read back from them is the longest span that can be kept and is not longer than the
one that was given.

* `Duration.toNat_toMillis`, `Duration.toNanos_ofMillis` — the two conversions, without a bound on
  the numbers.
* `Duration.Keeps` — a span that is a whole number of milliseconds, and one that can be kept.
* **`Options.limits_round_down`** — what options make of a limit, for both of the limits that they
  have.
-/

namespace Transactional

namespace Duration

variable {limit longer : Duration} {ms : UInt64} {span : Nat}

/-! ## Conversions -/

lemma toNat_toMillis (limit : Duration) :
    limit.toMillis.toNat = min (limit.toNanos / 1000000) (2 ^ 64 - 1) := by
  unfold toMillis
  dsimp only
  split_ifs with hfits
  · rw [UInt64.toNat_ofNat_of_lt' hfits]
    simp only [Nat.pow_eq] at hfits
    omega
  · rw [UInt64.toNat_ofNat_of_lt' (by decide)]
    simp only [Nat.pow_eq] at hfits ⊢
    omega

lemma toNanos_ofMillis (ms : UInt64) : (ofMillis ms).toNanos = ms.toNat * 1000000 := by
  have hms := ms.toNat_lt
  have hcarry : (ms.toNat % 1000 * 1000000) / 1000000000 = 0 := by omega
  have hrest : (ms.toNat % 1000 * 1000000) % 1000000000 = ms.toNat % 1000 * 1000000 := by omega
  simp only [ofMillis, of, toNanos, hcarry, hrest, UInt64.toNat_add, UInt64.toNat_div]
  simp
  omega

lemma toMillis_eq_zero_iff (limit : Duration) : limit.toMillis = 0 ↔ limit.toNanos < 1000000 := by
  rw [← UInt64.toNat_inj, toNat_toMillis, UInt64.toNat_zero]
  omega

lemma toMillis_ofMillis (ms : UInt64) : (ofMillis ms).toMillis = ms := by
  have hms := ms.toNat_lt
  rw [← UInt64.toNat_inj, toNat_toMillis, toNanos_ofMillis]
  omega

/-! ## Rounding -/

/-- **A span that options can keep** of a limit: whole milliseconds, as many as sixty-four bits
count at most, and no longer than the limit. -/
def Keeps (limit : Duration) (span : Nat) : Prop :=
  ∃ ms < 2 ^ 64, span = ms * 1000000 ∧ span ≤ limit.toNanos

lemma toNanos_rounded (limit : Duration) :
    (ofMillis limit.toMillis).toNanos = min (limit.toNanos / 1000000) (2 ^ 64 - 1) * 1000000 := by
  rw [toNanos_ofMillis, toNat_toMillis]

lemma keeps_rounded (limit : Duration) : limit.Keeps (ofMillis limit.toMillis).toNanos := by
  rw [toNanos_rounded]
  exact ⟨_, by omega, rfl, by omega⟩

lemma Keeps.le_rounded (h : limit.Keeps span) : span ≤ (ofMillis limit.toMillis).toNanos := by
  obtain ⟨ms, hms, rfl, hle⟩ := h
  rw [toNanos_rounded]
  omega

lemma isGreatest_rounded (limit : Duration) :
    IsGreatest {span | limit.Keeps span} (ofMillis limit.toMillis).toNanos :=
  ⟨keeps_rounded limit, fun _ h => Keeps.le_rounded h⟩

lemma Keeps.mono (hle : limit.toNanos ≤ longer.toNanos) (h : limit.Keeps span) :
    longer.Keeps span := by
  obtain ⟨ms, hms, heq, hspan⟩ := h
  exact ⟨ms, hms, heq, hspan.trans hle⟩

lemma rounded_mono (hle : limit.toNanos ≤ longer.toNanos) :
    (ofMillis limit.toMillis).toNanos ≤ (ofMillis longer.toMillis).toNanos :=
  (isGreatest_rounded longer).2 ((keeps_rounded limit).mono hle)

end Duration

namespace Options

/-- **Limits are rounded down to whole milliseconds**, and those that sixty-four bits cannot count
are cut to the longest that they can.  Both limits of the options are treated alike; longer limits
are kept as longer ones, and giving the options what has been read back from them changes nothing.
-/
theorem limits_round_down (options : Options) (limit : Duration) :
    let kept := (options.withConnectionTimeout limit).connectionTimeout
    (options.withTransactionTimeout limit).transactionTimeout = some kept
      ∧ IsGreatest {span | limit.Keeps span} kept.toNanos
      ∧ kept.toNanos ≤ limit.toNanos
      ∧ (limit.toNanos < 2 ^ 64 * 1000000 → limit.toNanos < kept.toNanos + 1000000)
      ∧ (2 ^ 64 * 1000000 ≤ limit.toNanos → kept.toNanos = (2 ^ 64 - 1) * 1000000)
      ∧ (∀ longer : Duration, limit.toNanos ≤ longer.toNanos →
        kept.toNanos ≤ (options.withConnectionTimeout longer).connectionTimeout.toNanos)
      ∧ options.withConnectionTimeout kept = options.withConnectionTimeout limit
      ∧ options.withTransactionTimeout kept = options.withTransactionTimeout limit := by
  intro kept
  have hkept : kept.toNanos = min (limit.toNanos / 1000000) (2 ^ 64 - 1) * 1000000 :=
    limit.toNanos_rounded
  have hback : kept.toMillis = limit.toMillis := Duration.toMillis_ofMillis limit.toMillis
  refine ⟨rfl, limit.isGreatest_rounded, ?_, ?_, ?_, ?_, ?_, ?_⟩
  · omega
  · intro hcounted
    omega
  · intro hcut
    have hlarge : 2 ^ 64 - 1 ≤ limit.toNanos / 1000000 := by omega
    rw [hkept, Nat.min_eq_right hlarge]
  · intro longer hle
    exact Duration.rounded_mono hle
  · simp [withConnectionTimeout, hback]
  · simp [withTransactionTimeout, hback]

/-- The longest limit of all is cut, and one that is not whole is rounded. -/
theorem limits_round_down_longest :
    let longest : Duration := ⟨18446744073709551615, 999999999, by decide⟩
    let short : Duration := ⟨1, 999999999, by decide⟩
    let options := Options.new ":memory:"
    short.toNanos < 2 ^ 64 * 1000000 ∧ 2 ^ 64 * 1000000 ≤ longest.toNanos
      ∧ short.toNanos ≤ longest.toNanos
      ∧ (options.withConnectionTimeout longest).connectionTimeout.toNanos
        = 18446744073709551615000000
      ∧ (options.withConnectionTimeout short).connectionTimeout.toNanos = 1999000000 := by
  intro longest short options
  have hcounted : short.toNanos < 2 ^ 64 * 1000000 := by decide
  have hcut : 2 ^ 64 * 1000000 ≤ longest.toNanos := by decide
  have hle : short.toNanos ≤ longest.toNanos := by decide
  obtain ⟨-, -, -, -, hlongest, -⟩ := limits_round_down options longest
  obtain ⟨-, ⟨⟨ms, -, hwhole, -⟩, -⟩, hbelow, hnear, -, -, -⟩ := limits_round_down options short
  have hspan : short.toNanos = 1999999999 := by decide
  have habove := hnear hcounted
  refine ⟨hcounted, hcut, hle, hlongest hcut, ?_⟩
  rw [hspan] at hbelow habove
  omega

end Options

end Transactional
