import Transactional.Json.Writer
import Transactional.Timestamp.Reader

/-!
# Scalars

The single values that rows hold and that statements are bound to.  The same type serves every
backend, so a program never asks which one it runs on.

* `Scalar` — the values.
* `Scalar.asInt`, … — what a scalar can be used as.  Integers one and zero also serve as truth
  values, and a text that spells a timestamp also serves as one.
* `Scalar.inline` — the text that stands for a scalar inside a rendered statement.
* `Scalar.structural` — the structural text.
* `Scalar.same` — equality, under which a NaN differs from itself.
-/

namespace Transactional

/-- **A scalar value.** -/
inductive Scalar where
  | int (value : Int64)
  | float (value : Binary64)
  | text (value : String)
  | bool (value : Bool)
  | timestamp (value : Timestamp)
  | null
  | json (value : Json)
  | blob (value : List UInt8)

namespace Scalar

instance : Inhabited Scalar := ⟨.null⟩

/-! ## What a scalar can be used as -/

/-- Whether there is no value. -/
def isNull : Scalar → Bool
  | .null => true
  | _ => false

/-- The integer. -/
def asInt : Scalar → Option Int64
  | .int i => some i
  | _ => none

/-- The text. -/
def asText : Scalar → Option String
  | .text s => some s
  | _ => none

/-- The truth value, also of the integers one and zero. -/
def asBool : Scalar → Option Bool
  | .bool b => some b
  | .int i => if i = 1 then some true else if i = 0 then some false else none
  | _ => none

/-- The floating-point number. -/
def asFloat : Scalar → Option Binary64
  | .float x => some x
  | _ => none

/-- The timestamp, also of a text that spells one. -/
def asTimestamp : Scalar → Option Timestamp
  | .timestamp t => some t
  | .text s => Timestamp.ofText? s
  | _ => none

/-- The bytes. -/
def asBlob : Scalar → Option (List UInt8)
  | .blob bytes => some bytes
  | _ => none

/-- A value that may be missing, as a scalar. -/
def ofOption (toScalar : α → Scalar) : Option α → Scalar
  | some a => toScalar a
  | none => .null

/-! ## Texts -/

/-- **The text inside a rendered statement.**  It is for reading only: a quote in a text is not
doubled. -/
def inline : Scalar → String
  | .int i => Text.whole i.toInt
  | .float x => x.text Binary64.plain
  | .text s => "'" ++ s ++ "'"
  | .bool b => if b then "1" else "0"
  | .timestamp t => "'" ++ t.spaced ++ "'"
  | .null => "NULL"
  | .json j => "'" ++ j.text ++ "'"
  | .blob bytes => "<blob " ++ Text.natural bytes.length ++ " bytes>"

/-- The structural text. -/
def structural : Scalar → String
  | .int i => Text.call "Int" [Text.whole i.toInt]
  | .float x => Text.call "Float" [x.text Binary64.structural]
  | .text s => Text.call "Text" [Text.quoted s]
  | .bool b => Text.call "Bool" [Text.truth b]
  | .timestamp t => Text.call "Timestamp" [t.joined]
  | .null => "Null"
  | .json j => Text.call "JSON" [j.structural]
  | .blob bytes => Text.call "Blob" [Text.list (bytes.map fun b => Text.natural b.toNat)]

/-! ## Equality -/

/-- **Equality of scalars**, floating-point numbers compared as numbers. -/
def same : Scalar → Scalar → Bool
  | .int a, .int b => a == b
  | .float a, .float b => a.same b
  | .text a, .text b => a == b
  | .bool a, .bool b => a == b
  | .timestamp a, .timestamp b => a == b
  | .null, .null => true
  | .json a, .json b => a.same b
  | .blob a, .blob b => a == b
  | _, _ => false

/-- Equality of lists of scalars. -/
def sameList : List Scalar → List Scalar → Bool
  | [], [] => true
  | a :: as, b :: bs => a.same b && sameList as bs
  | _, _ => false

end Scalar

end Transactional
