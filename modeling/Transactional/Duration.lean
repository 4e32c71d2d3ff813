import Transactional.Text.Numeral

/-!
# Durations

A span of time in seconds and nanoseconds, as limits and deadlines are given.

* `Duration.ofMillis`, `Duration.toMillis` — conversion from and to whole milliseconds, the second
  one rounding down and stopping at the largest number of sixty-four bits.
* `Duration.text` — the largest unit with a whole part, and the fraction without trailing zeros.
-/

namespace Transactional

/-- A span of time. -/
structure Duration where
  secs : UInt64
  nanos : Nat
  nanos_lt : nanos < 1000000000 := by decide
deriving DecidableEq

namespace Duration

/-- The duration of so many seconds and nanoseconds; nanoseconds that make up a second are carried
over. -/
def of (secs : UInt64) (nanos : Nat) : Duration :=
  ⟨secs + UInt64.ofNat (nanos / 1000000000), nanos % 1000000000, Nat.mod_lt _ (by decide)⟩

/-- The span in nanoseconds. -/
def toNanos (d : Duration) : Nat :=
  d.secs.toNat * 1000000000 + d.nanos

/-- That many milliseconds. -/
def ofMillis (ms : UInt64) : Duration :=
  of (ms / 1000) (ms.toNat % 1000 * 1000000)

/-- **Whole milliseconds**, rounded down; more than sixty-four bits hold becomes the largest number
that they do. -/
def toMillis (d : Duration) : UInt64 :=
  let ms := d.toNanos / 1000000
  if ms < Nat.pow 2 64 then UInt64.ofNat ms else UInt64.ofNat (Nat.pow 2 64 - 1)

/-- A fraction of a unit: nothing, or a point and `places` digits without the trailing zeros. -/
def fractionText (places n : Nat) : String :=
  let digits := ((Text.padded places n).toList.reverse.dropWhile (· = '0')).reverse
  if digits.isEmpty then "" else "." ++ String.ofList digits

/-- **The span as text**, in the largest unit in which it has a whole part. -/
def text (d : Duration) : String :=
  if d.secs ≠ 0 then Text.natural d.secs.toNat ++ fractionText 9 d.nanos ++ "s"
  else if 1000000 ≤ d.nanos then
    Text.natural (d.nanos / 1000000) ++ fractionText 6 (d.nanos % 1000000) ++ "ms"
  else if 1000 ≤ d.nanos then
    Text.natural (d.nanos / 1000) ++ fractionText 3 (d.nanos % 1000) ++ "µs"
  else Text.natural d.nanos ++ "ns"

end Duration

end Transactional
