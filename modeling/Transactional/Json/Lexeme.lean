import Transactional.Json.Fault

/-!
# The smallest parts of JSON text

Blanks, words, quoted texts and numbers, read from the front of a list of characters.  Every reader
gives what it read together with what follows, or the cause of its failure.

* `Decoder` — the readers.
* `quotedText` — a text after its opening quote.
* `number` — a number; one without point and exponent that fits sixty-four bits is an integer, every
  other one is a floating-point number.
-/

namespace Transactional

/-- **A reader**: from a text, what it read and the rest of the text. -/
abbrev Decoder (α : Type) : Type :=
  List Char → Except JsonFault (α × List Char)

namespace Json

/-! ## Blanks and words -/

/-- The blanks that may stand between the parts of a JSON text. -/
def isGap (c : Char) : Bool :=
  c = ' ' || c = '\t' || c = '\n' || c = '\r'

/-- The text from its first character that is not a blank. -/
def skipGaps (text : List Char) : List Char :=
  text.dropWhile isGap

/-- Read the rest of a word, character by character. -/
def word : List Char → Decoder Unit
  | [], text => .ok ((), text)
  | _ :: _, [] => .error .noValue
  | c :: more, d :: rest => if c = d then word more rest else .error .misspelled

/-! ## Quoted texts -/

/-- The number of bytes that a text takes. -/
def byteCount (text : List Char) : Nat :=
  text.foldl (fun n c => n + c.utf8Size) 0

/-- Read the four digits of an escape by number. -/
def fourDigits (text : List Char) : Except JsonFault (Nat × List Char) :=
  if byteCount (text.take 4) < 4 then .error .openText
  else
    match Text.readHexadecimal (text.take 4) with
    | some n => if (text.take 4).length = 4 then .ok (n, text.drop 4) else .error .badEscape
    | none => .error .badEscape

/-- Whether a number is the first half of a surrogate pair. -/
def isLeading (n : Nat) : Bool :=
  0xd800 ≤ n && n ≤ 0xdbff

/-- Whether a number is the second half of a surrogate pair. -/
def isTrailing (n : Nat) : Bool :=
  0xdc00 ≤ n && n ≤ 0xdfff

/-- Read an escape by number, after `\u`: one number, or two that make a surrogate pair. -/
def numberedEscape : Decoder Char := fun text => do
  let (n, rest) ← fourDigits text
  if isTrailing n then .error .halfPair
  else if isLeading n then
    match rest with
    | [] => .error .openText
    | '\\' :: [] => .error .openText
    | '\\' :: 'u' :: rest => do
        let (m, rest) ← fourDigits rest
        if isTrailing m then
          .ok (Char.ofNat ((n - 0xd800) * 0x400 + (m - 0xdc00) + 0x10000), rest)
        else .error .halfPair
    | _ => .error .brokenPair
  else .ok (Char.ofNat n, rest)

/-- Read what follows a backslash. -/
def escape : Decoder Char
  | [] => .error .openText
  | c :: rest =>
      if c = '"' ∨ c = '\\' ∨ c = '/' then .ok (c, rest)
      else if c = 'b' then .ok (Char.ofNat 8, rest)
      else if c = 'f' then .ok (Char.ofNat 12, rest)
      else if c = 'n' then .ok ('\n', rest)
      else if c = 'r' then .ok ('\r', rest)
      else if c = 't' then .ok ('\t', rest)
      else if c = 'u' then numberedEscape rest
      else .error .badEscape

/-- Read the characters of a text up to its closing quote, at most `fuel` of them; `sofar` holds the
ones already read, the last one first. -/
def quotedChars (sofar : List Char) : Nat → Decoder String
  | 0, _ => .error .openText
  | _ + 1, [] => .error .openText
  | fuel + 1, c :: rest =>
      if c = '"' then .ok (String.ofList sofar.reverse, rest)
      else if c = '\\' then do
        let (d, rest) ← escape rest
        quotedChars (d :: sofar) fuel rest
      else if c.toNat < 0x20 then .error .bareControl
      else quotedChars (c :: sofar) fuel rest

/-- **Read a text after its opening quote.** -/
def quotedText : Decoder String := fun text =>
  quotedChars [] text.length text

/-! ## Numbers -/

/-- **A number as it is written.** -/
inductive Number where
  | int (value : Int)
  | float (value : Binary64)
deriving DecidableEq

/-- What was found, for a sentence. -/
def Number.found : Number → JsonFound
  | .int i => .int i
  | .float x => .float x

/-- The largest significand that is read exactly. -/
def greatestSignificand : Nat :=
  Nat.pow 2 64 - 1

/-- The largest power of ten that a floating-point number is multiplied by in one step. -/
def greatestPower : Nat := 308

/-- A floating-point number times, or divided by, the power `10 ^ exponent`.  A large negative
exponent takes several divisions, each of which rounds; `fuel` bounds their number. -/
def scalePower (x : Binary64) (exponent : Int) : Nat → Except JsonFault Binary64
  | 0 => .ok x
  | fuel + 1 =>
      if exponent.natAbs ≤ greatestPower then
        let power := Binary64.nearest false (Nat.pow 10 exponent.natAbs) 1
        if 0 ≤ exponent then
          let product := x.times power
          if product.isFinite then .ok product else .error .hugeNumber
        else .ok (x.quotient power)
      else if x.isZero then .ok x
      else if 0 ≤ exponent then .error .hugeNumber
      else
        scalePower (x.quotient (Binary64.nearest false (Nat.pow 10 greatestPower) 1))
          (exponent + greatestPower) fuel

/-- The floating-point number `significand · 10 ^ exponent`. -/
def fromParts (positive : Bool) (significand : Nat) (exponent : Int) : Except JsonFault Number := do
  let x ← scalePower (Binary64.nearest false significand 1) exponent (exponent.natAbs + 1)
  .ok (.float (if positive then x else x.negate))

/-- The decimal digits at the front of a text, and what follows. -/
def digitRun (text : List Char) : List Nat × List Char :=
  let digits := text.takeWhile fun c => (Text.digitValue c).isSome
  (digits.filterMap Text.digitValue, text.drop digits.length)

/-- Read digits into a significand until it would become too large; also give how many were used and
how many were left over. -/
def accumulate (significand : Nat) : List Nat → Nat × Nat × Nat
  | [] => (significand, 0, 0)
  | d :: more =>
      if significand * 10 + d ≤ greatestSignificand then
        let (s, used, unused) := accumulate (significand * 10 + d) more
        (s, used + 1, unused)
      else (significand, 0, more.length + 1)

/-- The largest exponent that is told from larger ones. -/
def greatestExponent : Nat :=
  Nat.pow 2 31 - 1

/-- Read an exponent, after its letter. -/
def exponentPart (positive : Bool) (significand : Nat) (start : Int) :
    Decoder Number := fun text =>
  let (rising, text) := match text with
    | '+' :: rest => (true, rest)
    | '-' :: rest => (false, rest)
    | _ => (true, text)
  match text with
  | [] => .error .noValue
  | _ :: _ =>
      match digitRun text with
      | ([], _) => .error .badNumber
      | (digits, rest) =>
          let exponent := digits.foldl (fun n d => n * 10 + d) 0
          if exponent ≤ greatestExponent then do
            let x ← fromParts positive significand
              (if rising then start + exponent else start - exponent)
            .ok (x, rest)
          else if significand ≠ 0 ∧ rising then .error .hugeNumber
          else .ok (.float (Binary64.zero (!positive)), rest)

/-- Read what may follow the digits of a number that is no integer. -/
def exponentOrEnd (positive : Bool) (significand : Nat) (start : Int) : Decoder Number
  | c :: rest =>
      if c = 'e' ∨ c = 'E' then exponentPart positive significand start rest
      else do .ok (← fromParts positive significand start, c :: rest)
  | [] => do .ok (← fromParts positive significand start, [])

/-- Read the digits behind the point. -/
def decimalPart (positive : Bool) (significand : Nat) (start : Int) : Decoder Number := fun text =>
  match digitRun text with
  | ([], []) => .error .noValue
  | ([], _) => .error .badNumber
  | (digits, rest) =>
      let (s, used, _) := accumulate significand digits
      exponentOrEnd positive s (start - used) rest

/-- Read what follows the leading digits, of which `unused` did not fit into the significand. -/
def afterDigits (positive : Bool) (significand unused : Nat) : Decoder Number
  | '.' :: rest => decimalPart positive significand unused rest
  | text =>
      match text with
      | c :: rest =>
          if c = 'e' ∨ c = 'E' then exponentPart positive significand unused rest
          else plainEnd (c :: rest)
      | [] => plainEnd []
where
  /-- A number that ends with its leading digits. -/
  plainEnd (rest : List Char) : Except JsonFault (Number × List Char) :=
    if unused ≠ 0 then do .ok (← fromParts positive significand unused, rest)
    else if positive then .ok (.int significand, rest)
    else if significand = 0 ∨ Nat.pow 2 63 < significand then
      .ok (.float (Binary64.nearest false significand 1).negate, rest)
    else .ok (.int (-(significand : Int)), rest)

/-- **Read a number**, after its sign. -/
def number (positive : Bool) : Decoder Number := fun text =>
  match text with
  | [] => .error .noValue
  | _ :: _ =>
      match digitRun text with
      | ([], _) => .error .badNumber
      | ([0], rest) => afterDigits positive 0 0 rest
      | (0 :: _, _) => .error .badNumber
      | (digits, rest) =>
          let (significand, _, unused) := accumulate 0 digits
          afterDigits positive significand unused rest

/-! ## Parts that are passed over -/

/-- Pass over an exponent, after its letter. -/
def skipExponent : Decoder Unit := fun text =>
  let text := match text with
    | '+' :: rest => rest
    | '-' :: rest => rest
    | _ => text
  match digitRun text with
  | ([], _) => .error .badNumber
  | (_, rest) => .ok ((), rest)

/-- Pass over an exponent, if one follows. -/
def skipExponentOrEnd : Decoder Unit
  | [] => .ok ((), [])
  | c :: rest => if c = 'e' ∨ c = 'E' then skipExponent rest else .ok ((), c :: rest)

/-- Pass over a number, after its sign. -/
def skipNumber : Decoder Unit := fun text =>
  match digitRun text with
  | ([], _) => .error .badNumber
  | (0 :: _ :: _, _) => .error .badNumber
  | (_, '.' :: rest) =>
      match digitRun rest with
      | ([], _) => .error .badNumber
      | (_, rest) => skipExponentOrEnd rest
  | (_, rest) => skipExponentOrEnd rest

/-- Pass over what follows a backslash; a number need not be that of a character. -/
def skipEscape : Decoder Unit
  | [] => .error .openText
  | c :: rest =>
      if c = 'u' then
        match fourDigits rest with
        | .ok (_, rest) => .ok ((), rest)
        | .error fault => .error fault
      else if c ∈ ['"', '\\', '/', 'b', 'f', 'n', 'r', 't'] then .ok ((), rest)
      else .error .badEscape

/-- Pass over a text after its opening quote. -/
def skipText : Nat → Decoder Unit
  | 0, _ => .error .openText
  | _ + 1, [] => .error .openText
  | fuel + 1, c :: rest =>
      if c = '"' then .ok ((), rest)
      else if c = '\\' then
        match skipEscape rest with
        | .ok (_, rest) => skipText fuel rest
        | .error fault => .error fault
      else if c.toNat < 0x20 then .error .bareControl
      else skipText fuel rest

/-- Pass over the name of a member and its colon. -/
def skipName : Decoder Unit := fun text =>
  match skipGaps text with
  | [] => .error .openObject
  | '"' :: rest => do
      let (_, rest) ← skipText (rest.length + 1) rest
      match skipGaps rest with
      | [] => .error .openObject
      | ':' :: rest => .ok ((), rest)
      | _ => .error .missingColon
  | _ => .error .nameNotText

/-! ## Single values -/

/-- A value that is no list and no object, if one stands at the front of the text. -/
inductive Leaf where
  | null
  | bool (value : Bool)
  | number (value : Number)
  | text (value : String)

/-- Read a value that is no list and no object; nothing comes back where another character stands.
-/
def leaf : List Char → Except JsonFault (Option (Leaf × List Char))
  | 'n' :: rest => do
      let (_, rest) ← word ['u', 'l', 'l'] rest
      .ok (some (.null, rest))
  | 't' :: rest => do
      let (_, rest) ← word ['r', 'u', 'e'] rest
      .ok (some (.bool true, rest))
  | 'f' :: rest => do
      let (_, rest) ← word ['a', 'l', 's', 'e'] rest
      .ok (some (.bool false, rest))
  | '-' :: rest => do
      let (n, rest) ← number false rest
      .ok (some (.number n, rest))
  | '"' :: rest => do
      let (s, rest) ← quotedText rest
      .ok (some (.text s, rest))
  | c :: rest =>
      if (Text.digitValue c).isSome then do
        let (n, rest) ← number true (c :: rest)
        .ok (some (.number n, rest))
      else .ok none
  | [] => .ok none

/-- What was found, for a sentence. -/
def Leaf.found : Leaf → JsonFound
  | .null => .null
  | .bool b => .bool b
  | .number n => n.found
  | .text s => .text s

end Json

end Transactional
