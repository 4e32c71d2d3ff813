import Transactional.Engine.RowNumber
import Transactional.Scalar

/-!
# Stored values

The five classes of values that the SQL engine stores.  Scalars of the other kinds are stored as
one of these, and what comes back is the scalar of the stored class.

* `Datum` — the values; `Scalar.toDatum` and `Datum.toScalar` — in and out.
* `Datum.asKey` — the row that a value means where a row's number is compared with it.
-/

namespace Transactional

/-- **A stored value.** -/
inductive Datum where
  | null
  | integer (value : Int64)
  | real (value : Binary64)
  | text (value : String)
  | blob (value : List UInt8)
deriving DecidableEq

instance : Inhabited Datum := ⟨.null⟩

/-- **The stored value of a scalar**: a truth value is stored as an integer, a timestamp and
structured data as text. -/
def Scalar.toDatum : Scalar → Datum
  | .int i => .integer i
  | .float x => .real x
  | .text s => .text s
  | .bool b => .integer (if b then 1 else 0)
  | .timestamp t => .text t.spaced
  | .null => .null
  | .json j => .text j.text
  | .blob bytes => .blob bytes

namespace Datum

/-- **The scalar that comes back.** -/
def toScalar : Datum → Scalar
  | .null => .null
  | .integer i => .int i
  | .real x => .float x
  | .text s => .text s
  | .blob bytes => .blob bytes

/-- A value as it is bound: a NaN is no value. -/
def bound : Datum → Datum
  | .real x => if x.isNaN then .null else .real x
  | datum => datum

/-- The number of the row that a text means: what stands before its first NUL is read, and if there
is a NUL it is read as a floating-point number. -/
def keyOfText (text : List Char) : Option Int64 :=
  let visible := text.takeWhile (·.toNat ≠ 0)
  WrittenNumber.ofText? visible >>= fun n =>
    if visible.length = text.length then n.rowNumber? else n.toBinary64.rowNumber?

/-- **The number of the row that a value means.**  A floating-point number or a text means one if
it is a whole number; nothing and bytes mean none. -/
def asKey : Datum → Option Int64
  | .null => none
  | .integer i => some i
  | .real x => x.rowNumber?
  | .text s => keyOfText s.toList
  | .blob _ => none

end Datum

end Transactional
