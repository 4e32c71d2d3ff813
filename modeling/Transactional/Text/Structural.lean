import Transactional.Text.Numeral
import Transactional.Text.Unprintable

/-!
# Structural text

A value written so that its structure can be seen: constructors by name, fields by name, lists in
brackets, text in quotes.  It is what a log line or an error message shows of a value, and nothing
reads it back.

* `quoted` — a text in double quotes, with the characters that would not show escaped.
* `call`, `fields`, `openFields`, `list`, `optional` — the shapes that values are put together from.
-/

namespace Transactional.Text

/-- How one character stands inside quotes.  A single quote needs no escape there. -/
def escaped (c : Char) : String :=
  if c = '"' then "\\\""
  else if c = '\\' then "\\\\"
  else if c = '\n' then "\\n"
  else if c = '\r' then "\\r"
  else if c = '\t' then "\\t"
  else if c.toNat = 0 then "\\0"
  else if isUnprintable c then "\\u\x7b" ++ hexadecimal c.toNat ++ "\x7d"
  else String.singleton c

/-- A text in double quotes. -/
def quoted (text : String) : String :=
  "\"" ++ String.join (text.toList.map escaped) ++ "\""

/-- A constructor with its arguments, `name(a, b)`. -/
def call (name : String) (arguments : List String) : String :=
  name ++ "(" ++ String.intercalate ", " arguments ++ ")"

/-- One named field. -/
def field (entry : String × String) : String :=
  entry.1 ++ ": " ++ entry.2

/-- A constructor with named fields, `Name { a: x, b: y }`. -/
def fields (name : String) (entries : List (String × String)) : String :=
  name ++ " \x7b " ++ String.intercalate ", " (entries.map field) ++ " \x7d"

/-- Named fields of which more exist than are shown, `Name { a: x, .. }`. -/
def openFields (name : String) (entries : List (String × String)) : String :=
  name ++ " \x7b " ++ String.join (entries.map fun entry => field entry ++ ", ") ++ ".. \x7d"

/-- A list in brackets. -/
def list (items : List String) : String :=
  "[" ++ String.intercalate ", " items ++ "]"

/-- A value that may be missing. -/
def optional : Option String → String
  | none => "None"
  | some item => call "Some" [item]

/-- A truth value. -/
def truth (b : Bool) : String :=
  if b then "true" else "false"

end Transactional.Text
