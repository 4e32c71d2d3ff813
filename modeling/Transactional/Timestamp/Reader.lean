import Transactional.Timestamp.Basic
import Transactional.Text.Blank

/-!
# Reading timestamps

A layout is a list of items, and reading follows it item by item: numbers with a bounded number of
digits, literal characters, optional blanks, an optional fraction of a second.  The readers differ
only in their layouts.

* `Timestamp.Layout.joined` — serialised data, `T` between date and time.
* `Timestamp.Layout.spaced`, `Timestamp.Layout.spacedWithFraction` — stored text.
* `Timestamp.read` — one layout, with the reason of a failure; `Timestamp.ofText?` tries the two
  layouts of stored text in turn.
-/

namespace Transactional.Timestamp

/-- Why a text is no timestamp. -/
inductive ReadFault where
  /-- A number is too large for its place, or the date does not exist. -/
  | outOfRange
  | invalid
  | tooShort
  | trailing
deriving DecidableEq

/-- The sentence for a failure. -/
def ReadFault.message : ReadFault → String
  | .outOfRange => "input is out of range"
  | .invalid => "input contains invalid characters"
  | .tooShort => "premature end of input"
  | .trailing => "trailing input"

/-- The numbers that a layout names. -/
inductive Part where
  | year
  | month
  | day
  | hour
  | minute
  | second
deriving DecidableEq

/-- One item of a layout. -/
inductive Item where
  | number (part : Part)
  | literal (c : Char)
  | blanks
  /-- Nothing, or a point and at least one digit, of which the first nine count. -/
  | fraction
deriving DecidableEq

/-- What a layout has collected so far. -/
structure Parts where
  year : Int := 0
  month : Nat := 0
  day : Nat := 0
  hour : Nat := 0
  minute : Nat := 0
  second : Nat := 0
  nanosecond : Nat := 0

/-- The digits at the front of a text, at most `limit` of them, and what follows. -/
def takeDigits (limit : Nat) (text : List Char) : List Char × List Char :=
  let digits := (text.take limit).takeWhile fun c => (Text.digitValue c).isSome
  (digits, text.drop digits.length)

/-- The number that a list of digits writes. -/
def numberOf (digits : List Char) : Nat :=
  digits.foldl (fun n c => n * 10 + (Text.digitValue c).getD 0) 0

/-- Read a number of one to `limit` digits; also give the number of its digits. -/
def readNumber (limit : Nat) (text : List Char) : Except ReadFault (Nat × Nat × List Char) :=
  match text with
  | [] => .error .tooShort
  | _ :: _ =>
      match takeDigits limit text with
      | ([], _) => .error .invalid
      | (digits, rest) => .ok (numberOf digits, digits.length, rest)

/-- Read a year: any number of digits behind a sign, at most four without one. -/
def readYear (text : List Char) : Except ReadFault (Int × List Char) := do
  let (year, rest) ← match text with
    | '-' :: rest => do
        let (n, _, rest) ← readNumber rest.length rest
        pure (-(n : Int), rest)
    | '+' :: rest => do
        let (n, _, rest) ← readNumber rest.length rest
        pure ((n : Int), rest)
    | _ => do
        let (n, _, rest) ← readNumber 4 text
        pure ((n : Int), rest)
  if -2147483648 ≤ year ∧ year ≤ 2147483647 then pure (year, rest) else .error .outOfRange

/-- Read a number of one or two digits that lies between two bounds. -/
def readBounded (least greatest : Nat) (text : List Char) : Except ReadFault (Nat × List Char) := do
  let (n, _, rest) ← readNumber 2 text
  if least ≤ n ∧ n ≤ greatest then pure (n, rest) else .error .outOfRange

/-- Read the number of one part. -/
def readPart (parts : Parts) (text : List Char) : Part → Except ReadFault (Parts × List Char)
  | .year => do
      let (n, rest) ← readYear text
      pure ({ parts with year := n }, rest)
  | .month => do
      let (n, rest) ← readBounded 1 12 text
      pure ({ parts with month := n }, rest)
  | .day => do
      let (n, rest) ← readBounded 1 31 text
      pure ({ parts with day := n }, rest)
  | .hour => do
      let (n, rest) ← readBounded 0 23 text
      pure ({ parts with hour := n }, rest)
  | .minute => do
      let (n, rest) ← readBounded 0 59 text
      pure ({ parts with minute := n }, rest)
  | .second => do
      let (n, rest) ← readBounded 0 60 text
      pure ({ parts with second := n }, rest)

/-- Read one item. -/
def readItem (parts : Parts) (text : List Char) : Item → Except ReadFault (Parts × List Char)
  | .number part => readPart parts (Text.dropBlanks text) part
  | .literal c =>
      match text with
      | [] => .error .tooShort
      | d :: rest => if c = d then pure (parts, rest) else .error .invalid
  | .blanks => pure (parts, Text.dropBlanks text)
  | .fraction =>
      match text with
      | '.' :: rest => do
          let (n, places, rest) ← readNumber 9 rest
          pure ({ parts with nanosecond := n * Nat.pow 10 (9 - places) },
            (takeDigits rest.length rest).2)
      | _ => pure (parts, text)

/-- Read a list of items. -/
def readItems (parts : Parts) (text : List Char) : List Item → Except ReadFault (Parts × List Char)
  | [] => pure (parts, text)
  | item :: items => do
      let (parts, rest) ← readItem parts text item
      readItems parts rest items

/-- The timestamp that the parts make; second sixty is the leap second after second 59. -/
def Parts.toTimestamp? (parts : Parts) : Option Timestamp :=
  if parts.second = 60 then
    of? parts.year parts.month parts.day parts.hour parts.minute 59 (parts.nanosecond + 1000000000)
  else
    of? parts.year parts.month parts.day parts.hour parts.minute parts.second parts.nanosecond

/-- **Read a timestamp** that follows a layout and fills the whole text. -/
def read (layout : List Item) (text : String) : Except ReadFault Timestamp := do
  let (parts, rest) ← readItems {} text.toList layout
  if rest.isEmpty then
    match parts.toTimestamp? with
    | some t => pure t
    | none => .error .outOfRange
  else .error .trailing

/-! ## The layouts -/

namespace Layout

/-- Serialised data: a `T` between date and time, blanks allowed before every separator. -/
def joined : List Item :=
  [.number .year, .blanks, .literal '-', .number .month, .blanks, .literal '-', .number .day,
    .blanks, .literal 'T', .number .hour, .blanks, .literal ':', .number .minute, .blanks,
    .literal ':', .number .second, .fraction, .blanks]

/-- Stored text without a fraction. -/
def spaced : List Item :=
  [.number .year, .literal '-', .number .month, .literal '-', .number .day, .blanks,
    .number .hour, .literal ':', .number .minute, .literal ':', .number .second]

/-- Stored text with a fraction. -/
def spacedWithFraction : List Item :=
  spaced ++ [.fraction]

end Layout

/-- **The timestamp that a stored text holds**, without a fraction or with one. -/
def ofText? (text : String) : Option Timestamp :=
  match read Layout.spaced text with
  | .ok t => some t
  | .error _ => (read Layout.spacedWithFraction text).toOption

end Transactional.Timestamp
