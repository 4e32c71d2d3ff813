import Transactional.Binary64.Shortest

/-!
# Floating-point numbers as text

Three texts of a number occur: in structural text, in a rendered statement, and in JSON.  Their
digits are those of `Binary64.shortest`, and they differ in a handful of decisions that one record
holds: from which exponents on the number is written positionally, whether a whole number keeps its
`.0`, whether a positive exponent shows its sign, and which of two equally near decimals is written.
-/

namespace Transactional.Binary64

/-- **What one text form decides.**  `positional` says for which exponents of the leading digit the
number is written without an exponent. -/
structure NumberFormat where
  /-- Whether a number with this leading exponent is written positionally. -/
  positional : Int → Bool
  keepsPoint : Bool
  plusSign : Bool
  tie : Tie

/-- Structural text: positional from `0.0001` up to sixteen digits; a whole number keeps its `.0`,
and the upper one of two equally near decimals is written. -/
def structural : NumberFormat :=
  ⟨fun e => -4 ≤ e && e ≤ 15, true, false, .upward⟩

/-- Rendered statements: never an exponent, and a whole number is written as one. -/
def plain : NumberFormat :=
  ⟨fun _ => true, false, false, .upward⟩

/-- JSON: positional from `0.00001` up to sixteen digits; a positive exponent shows its sign, and of
two equally near decimals the one with an even last digit is written. -/
def json : NumberFormat :=
  ⟨fun e => -5 ≤ e && e ≤ 15, true, true, .toEven⟩

/-- Digits and decimal point, where `lead` is the exponent of the first digit. -/
def positionalText (format : NumberFormat) (digits : List Char) (lead : Int) : String :=
  if lead < 0 then
    "0." ++ Text.zeros ((-lead).toNat - 1) ++ String.ofList digits
  else
    let before := lead.toNat + 1
    if digits.length ≤ before then
      String.ofList digits ++ Text.zeros (before - digits.length)
        ++ (if format.keepsPoint then ".0" else "")
    else String.ofList (digits.take before) ++ "." ++ String.ofList (digits.drop before)

/-- One digit, the others behind the point, and the exponent. -/
def scientificText (format : NumberFormat) (digits : List Char) (lead : Int) : String :=
  String.ofList (digits.take 1)
    ++ (if digits.length ≤ 1 then "" else "." ++ String.ofList (digits.drop 1))
    ++ "e" ++ (if format.plusSign && lead > 0 then "+" else "") ++ Text.whole lead

/-- A finite number in one of the text forms. -/
def finiteText (format : NumberFormat) (x : Binary64) : String :=
  let d := x.shortest format.tie
  let digits := Text.decimalDigits d.digits
  let lead := d.exponent + digits.length - 1
  let magnitude :=
    if format.positional lead then positionalText format digits lead
    else scientificText format digits lead
  (if x.isNegative then "-" else "") ++ magnitude

/-- A number in one of the text forms; what is no finite number has a name of its own. -/
def text (format : NumberFormat) (x : Binary64) : String :=
  if x.isNaN then "NaN"
  else if x.isFinite then finiteText format x
  else if x.isNegative then "-inf" else "inf"

end Transactional.Binary64
