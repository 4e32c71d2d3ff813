/-!
# Numerals

Whole numbers as text, and digits as numbers.  Every printer of the library writes its integers
through this module, so that there is one place to look for how a number is spelled.

* `natural`, `whole` — decimal, the sign in front.
* `padded` — decimal in a fixed number of places, filled up with zeros.
* `hexadecimal` — lower-case base sixteen, as character numbers are written.
* `digitValue`, `hexDigitValue` — the inverse, one character at a time.
-/

namespace Transactional.Text

/-- The decimal digits of a natural number, most significant first. -/
def decimalDigits (n : Nat) : List Char :=
  Nat.toDigits 10 n

/-- A natural number in decimal. -/
def natural (n : Nat) : String :=
  String.ofList (decimalDigits n)

/-- An integer in decimal, with a minus sign in front of a negative one. -/
def whole : Int → String
  | .ofNat n => natural n
  | .negSucc n => "-" ++ natural (n + 1)

/-- `count` zeros. -/
def zeros (count : Nat) : String :=
  String.ofList (List.replicate count '0')

/-- A natural number in at least `width` places, filled up with zeros in front. -/
def padded (width n : Nat) : String :=
  let digits := decimalDigits n
  zeros (width - digits.length) ++ String.ofList digits

/-- A natural number in lower-case base sixteen. -/
def hexadecimal (n : Nat) : String :=
  String.ofList (Nat.toDigits 16 n)

/-- Base sixteen in at least `width` places. -/
def paddedHexadecimal (width n : Nat) : String :=
  let digits := Nat.toDigits 16 n
  zeros (width - digits.length) ++ String.ofList digits

/-- The value of a decimal digit. -/
def digitValue (c : Char) : Option Nat :=
  if '0' ≤ c ∧ c ≤ '9' then some (c.toNat - '0'.toNat) else none

/-- The value of a digit in base sixteen, in either case. -/
def hexDigitValue (c : Char) : Option Nat :=
  if '0' ≤ c ∧ c ≤ '9' then some (c.toNat - '0'.toNat)
  else if 'a' ≤ c ∧ c ≤ 'f' then some (c.toNat - 'a'.toNat + 10)
  else if 'A' ≤ c ∧ c ≤ 'F' then some (c.toNat - 'A'.toNat + 10)
  else none

/-- The number that a list of base-sixteen digits writes, if all of them are digits. -/
def readHexadecimal (text : List Char) : Option Nat :=
  text.foldlM (fun n c => (hexDigitValue c).map (n * 16 + ·)) 0

end Transactional.Text
