import Transactional.Binary64.Basic
import Transactional.Text.Numeral

/-!
# The shortest decimal that reads back

A floating-point number stands for every real that rounds to it.  Of the decimals in that interval
the printed one is the shortest, and of several shortest ones the nearest to the number itself.  Two
can be equally near, and a `Tie` says which of them it is then.

The search is direct.  On the grid of decimals with a given number of digits only the two neighbours
of the number can be the nearest, so both are tested against the interval, for one digit, two, and
so on: seventeen always suffice.  All arithmetic is on whole numbers, so there is nothing to trust.
-/

namespace Transactional.Binary64

/-- A decimal `digits · 10 ^ exponent`. -/
structure Decimal where
  digits : Nat
  exponent : Int
deriving DecidableEq

namespace Decimal

/-- The same decimal with as few digits as possible. -/
def stripZeros (fuel : Nat) (d : Decimal) : Decimal :=
  match fuel with
  | 0 => d
  | fuel + 1 =>
      if d.digits ≠ 0 ∧ d.digits % 10 = 0 then stripZeros fuel ⟨d.digits / 10, d.exponent + 1⟩
      else d

end Decimal

/-- Multiply the first of two numbers by `10 ^ e`, or the second by its inverse. -/
def scaleByTen (num den : Nat) (e : Int) : Nat × Nat :=
  if e < 0 then (num, den * Nat.pow 10 (-e).toNat) else (num * Nat.pow 10 e.toNat, den)

/-- **The reals that round to a number.**  With the number written `m · 2 ^ q` the interval reaches
half a unit to either side, but only a quarter downwards from the least significand of a binade,
below which the numbers lie twice as dense.  Its ends belong to it exactly when `m` is even.  Both
ends are in quarters of a unit. -/
def roundingInterval (m : Nat) (q : Int) : Nat × Nat :=
  (if m = Nat.pow 2 52 ∧ -1074 < q then 4 * m - 1 else 4 * m - 2, 4 * m + 2)

/-- Whether the decimal `d · 10 ^ e` rounds to `m · 2 ^ q`. -/
def roundsTo (m : Nat) (q : Int) (d : Nat) (e : Int) : Bool :=
  let (low, high) := roundingInterval m q
  -- compare d · 10 ^ e with low and high, which count in 2 ^ (q - 2)
  let (left, scale) := scaleByTen d 1 e
  let (left, scale) :=
    if q < 2 then (left * Nat.pow 2 (2 - q).toNat, scale)
    else (left, scale * Nat.pow 2 (q - 2).toNat)
  if m % 2 = 0 then low * scale ≤ left && left ≤ high * scale
  else low * scale < left && left < high * scale

/-- The decimal exponent of the leading digit of `m · 2 ^ q`, for `m` positive.  The number is first
scaled up so far that its whole part is positive, and then its digits are counted. -/
def leadingExponent (m : Nat) (q : Int) : Int :=
  let (num, den) :=
    if q < 0 then (m * Nat.pow 10 400, Nat.pow 2 (-q).toNat)
    else (m * Nat.pow 2 q.toNat * Nat.pow 10 400, 1)
  ((Text.decimalDigits (num / den)).length : Int) - 401

/-- **Which of two equally near neighbours is taken.** -/
inductive Tie where
  | upward
  | toEven
deriving DecidableEq

/-- Whether the upper neighbour is taken, where the lower one is `below` and what is left over is
`twice / 2` parts of `den`. -/
def Tie.takesUpper (tie : Tie) (below twice den : Nat) : Bool :=
  den < twice || (twice = den && (tie = .upward || below % 2 = 1))

/-- The best decimal for `m · 2 ^ q` on the grid of multiples of `10 ^ e`: of the two neighbours
that round to the number the nearer one. -/
def bestOnGrid (tie : Tie) (m : Nat) (q e : Int) : Option Decimal :=
  let (num, den) := if q < 0 then (m, Nat.pow 2 (-q).toNat) else (m * Nat.pow 2 q.toNat, 1)
  let (num, den) := scaleByTen num den (-e)
  let below := num / den
  let choose (d : Nat) : Option Decimal := if roundsTo m q d e then some ⟨d, e⟩ else none
  if tie.takesUpper below (2 * (num % den)) den then choose (below + 1) <|> choose below
  else choose below <|> choose (below + 1)

/-- The search: grids of `count` digits and more, at most `fuel` of them. -/
def searchDigits (tie : Tie) (m : Nat) (q lead : Int) (count : Nat) : Nat → Decimal
  | 0 => ⟨0, 0⟩
  | fuel + 1 =>
      match bestOnGrid tie m q (lead - count + 1) with
      | some d => d.stripZeros 400
      | none => searchDigits tie m q lead (count + 1) fuel

/-- **The shortest decimal that reads back** as the magnitude of a finite number, and of the
shortest the nearest.  Zero is `0 · 10 ^ 0`. -/
def shortest (tie : Tie) (x : Binary64) : Decimal :=
  let (m, q) := x.scaled
  if m = 0 then ⟨0, 0⟩ else searchDigits tie m q (leadingExponent m q) 1 17

end Transactional.Binary64
