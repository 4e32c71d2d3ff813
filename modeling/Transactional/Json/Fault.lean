import Transactional.Json.Basic

/-!
# Why JSON text cannot be read

A reader stops at the first thing it cannot use.  Either the text is no JSON, or it is JSON of
another shape than the one that is wanted; both kinds of cause are listed here, and
`JsonFault.message` has the sentence for each.
-/

namespace Transactional

/-- **What stands in a text where something else is wanted.** -/
inductive JsonFound where
  | null
  | bool (value : Bool)
  | int (value : Int)
  | float (value : Binary64)
  | text (value : String)
  | list
  | object
  | bareName
deriving DecidableEq

/-- How a sentence speaks of what was found. -/
def JsonFound.phrase : JsonFound → String
  | .null => "null"
  | .bool b => "boolean `" ++ Text.truth b ++ "`"
  | .int i => "integer `" ++ Text.whole i ++ "`"
  | .float x => "floating point `" ++ x.text Binary64.json ++ "`"
  | .text s => "string " ++ Text.quoted s
  | .list => "sequence"
  | .object => "map"
  | .bareName => "unit variant"

/-- **Why a JSON text cannot be read.** -/
inductive JsonFault where
  | openList
  | openObject
  | openText
  | noValue
  | missingColon
  /-- An item is followed neither by a comma nor by the end of the list. -/
  | listGoesOn
  /-- A member is followed neither by a comma nor by the end of the object. -/
  | objectGoesOn
  | misspelled
  | notValue
  | badEscape
  | badNumber
  | hugeNumber
  | nameNotText
  | bareControl
  | halfPair
  /-- The first half of a surrogate pair, not followed by an escape. -/
  | brokenPair
  | strayComma
  | excess
  | tooDeep
  | wrongType (found : JsonFound) (wanted : String)
  | wrongValue (found : JsonFound) (wanted : String)
  | wrongLength (length : Nat) (wanted : String)
  | unknownName (name : String) (known : List String)
  | missingField (name : String)
  | repeatedField (name : String)
  | content (message : String)
deriving DecidableEq

namespace JsonFault

/-- A name as sentences mention it. -/
def mention (name : String) : String :=
  "`" ++ name ++ "`"

/-- **The sentence for a cause.** -/
def message : JsonFault → String
  | .openList => "EOF while parsing a list"
  | .openObject => "EOF while parsing an object"
  | .openText => "EOF while parsing a string"
  | .noValue => "EOF while parsing a value"
  | .missingColon => "expected `:`"
  | .listGoesOn => "expected `,` or `]`"
  | .objectGoesOn => "expected `,` or `\x7d`"
  | .misspelled => "expected ident"
  | .notValue => "expected value"
  | .badEscape => "invalid escape"
  | .badNumber => "invalid number"
  | .hugeNumber => "number out of range"
  | .nameNotText => "key must be a string"
  | .bareControl => "control character (\\u0000-\\u001F) found while parsing a string"
  | .halfPair => "lone leading surrogate in hex escape"
  | .brokenPair => "unexpected end of hex escape"
  | .strayComma => "trailing comma"
  | .excess => "trailing characters"
  | .tooDeep => "recursion limit exceeded"
  | .wrongType found wanted => "invalid type: " ++ found.phrase ++ ", expected " ++ wanted
  | .wrongValue found wanted => "invalid value: " ++ found.phrase ++ ", expected " ++ wanted
  | .wrongLength length wanted =>
      "invalid length " ++ Text.natural length ++ ", expected " ++ wanted
  | .unknownName name known =>
      "unknown variant " ++ mention name ++ ", expected one of "
        ++ String.intercalate ", " (known.map mention)
  | .missingField name => "missing field " ++ mention name
  | .repeatedField name => "duplicate field " ++ mention name
  | .content m => m

end JsonFault

end Transactional
