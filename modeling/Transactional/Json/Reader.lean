import Transactional.Json.Decoder

/-!
# Reading JSON values

A text as a value of any shape.

* `Json.value` — a value at the front of a text, at a given depth.
* `Json.ofText` — the value that a complete text writes.
-/

namespace Transactional.Json

/-- The value that a leaf stands for. -/
def ofLeaf : Leaf → Json
  | .null => .null
  | .bool b => .bool b
  | .number (.int i) => .int i
  | .number (.float x) => .float x
  | .text s => .str s

/-- Read a value whose items and members are read by the given reader; without one, lists and
objects are too deep. -/
def valueOver (inner : Option (Decoder Json)) : Decoder Json := fun text =>
  match skipGaps text with
  | [] => .error .noValue
  | '[' :: rest =>
      match inner with
      | none => .error .tooDeep
      | some item => do
          let (values, text) ← Decoder.items item (rest.length + 1) true rest
          .ok (.arr values, text)
  | '\x7b' :: rest =>
      match inner with
      | none => .error .tooDeep
      | some item => do
          let (pairs, text) ← Decoder.members item (rest.length + 1) true rest
          .ok (object pairs, text)
  | text => do
      match ← leaf text with
      | some (l, rest) => .ok (ofLeaf l, rest)
      | none => .error .notValue

/-- **Read a value** in which lists and objects lie at most `depth` deep. -/
def value : Nat → Decoder Json
  | 0 => valueOver none
  | depth + 1 => valueOver (some (value depth))

/-- **The value that a text writes.** -/
def ofText (text : String) : Except JsonFault Json :=
  (value Decoder.depthLimit).whole text

end Transactional.Json
