import Transactional.Binary64.Basic
import Transactional.Text.Numeral

/-!
# Numbers of rows, as texts write them

A text means the number of a row if it writes a decimal number, with blanks around it or not, whose
value is a whole number of sixty-four bits.  A whole number that fits is taken as it is written.
Any other spelling is rounded to a floating-point number first: its digits are used as long as
sixty-four bits hold them, and the result is the nearest floating-point number.

* `WrittenNumber` — a decimal number as a text writes it; `WrittenNumber.ofText?` reads one.
* `WrittenNumber.rowNumber?` — the number of a row that it means.
* `Binary64.rowNumber?` — the number of a row that a floating-point number means.
-/

namespace Transactional

/-- **The number of a row that a floating-point number means**: it is a whole number strictly
between the least integer of sixty-four bits and the one behind the greatest. -/
def Binary64.rowNumber? (x : Binary64) : Option Int64 :=
  x.toInt? >>= fun i => if -Int.pow 2 63 < i ∧ i < Int.pow 2 63 then some (Int64.ofInt i) else none

/-- **A decimal number as a text writes it.** -/
structure WrittenNumber where
  isNegative : Bool
  whole : List Nat
  places : Option (List Nat)
  exponent : Option Int

namespace WrittenNumber

/-! ## Reading -/

/-- The blanks that may surround a number. -/
def isPadding (c : Char) : Bool :=
  c = ' ' || (9 ≤ c.toNat && c.toNat ≤ 13)

/-- Read a sign, and say whether it is a minus. -/
def sign : List Char → Bool × List Char
  | '-' :: rest => (true, rest)
  | '+' :: rest => (false, rest)
  | rest => (false, rest)

/-- Read digits. -/
def digits (text : List Char) : List Nat × List Char :=
  let found := text.takeWhile fun c => (Text.digitValue c).isSome
  (found.filterMap Text.digitValue, text.drop found.length)

/-- The number that digits write. -/
def ofDigits (digits : List Nat) : Nat :=
  digits.foldl (fun n d => n * 10 + d) 0

/-- Read a point and the digits behind it, if there is a point. -/
def point : List Char → Option (List Nat) × List Char
  | '.' :: rest =>
      let (places, rest) := digits rest
      (some places, rest)
  | rest => (none, rest)

/-- Read an exponent up to the end of the text, if there is one. -/
def exponentToEnd? : List Char → Option (Option Int)
  | [] => some none
  | c :: rest =>
      if c = 'e' || c = 'E' then
        let (negative, rest) := sign rest
        match digits rest with
        | (d :: ds, []) =>
            let size : Int := ofDigits (d :: ds)
            some (some (if negative then -size else size))
        | _ => none
      else none

/-- **Read a number**, which is all of the text apart from blanks around it. -/
def ofText? (text : List Char) : Option WrittenNumber :=
  let trimmed := ((text.dropWhile isPadding).reverse.dropWhile isPadding).reverse
  let (isNegative, rest) := sign trimmed
  let (whole, rest) := digits rest
  let (places, rest) := point rest
  if whole.isEmpty && (places.getD []).isEmpty then none
  else (exponentToEnd? rest).map fun exponent => { isNegative, whole, places, exponent }

/-! ## Meaning -/

/-- As long as a significand is below this, it has room for another digit. -/
def room : Nat := 1844674407370955160

/-- Put digits behind a significand as long as there is room; how many are left over. -/
def fill (significand : Nat) : List Nat → Nat × Nat
  | [] => (significand, 0)
  | d :: ds =>
      if significand < room then fill (significand * 10 + d) ds
      else (significand, ds.length + 1)

/-- The greatest exponent that is told apart from greater ones. -/
def steepest : Int := 10000

/-- **The floating-point number nearest to it**, as far as its digits are used. -/
def toBinary64 (n : WrittenNumber) : Binary64 :=
  let places := n.places.getD []
  let (significand, wholeLeft) := fill 0 n.whole
  let (significand, placesLeft) := fill significand places
  let exponent := max (-steepest) (min steepest (n.exponent.getD 0))
  let shift : Int := exponent + wholeLeft - (places.length - placesLeft : Nat)
  if shift < 0 then .nearest n.isNegative significand (Nat.pow 10 (-shift).toNat)
  else .nearest n.isNegative (significand * Nat.pow 10 shift.toNat) 1

/-- The integer that is written without a point or an exponent, if it fits sixty-four bits. -/
def integer? (n : WrittenNumber) : Option Int64 :=
  let size : Int := ofDigits n.whole
  let value := if n.isNegative then -size else size
  if n.places = none ∧ n.exponent = none ∧ -Int.pow 2 63 ≤ value ∧ value < Int.pow 2 63 then
    some (Int64.ofInt value)
  else none

/-- **The number of a row that it means**, if it means one. -/
def rowNumber? (n : WrittenNumber) : Option Int64 :=
  n.integer?.or n.toBinary64.rowNumber?

end WrittenNumber

end Transactional
