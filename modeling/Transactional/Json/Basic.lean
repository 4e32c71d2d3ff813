import Transactional.Binary64.Text
import Transactional.Text.Structural

/-!
# JSON values

Structured data as it travels in events and in JSON columns.

* `Json` — the values.  A number is an integer or a floating-point number, and the two are never
  equal; an object is a list of members in ascending order of their keys, each key once.
* `Json.insertMember`, `Json.object` — building objects that are ordered in that way; a key given
  twice keeps its last value.
* `Json.same` — equality of values, with numbers compared as numbers.
* `Json.structural` — the structural text.
-/

namespace Transactional

/-- **A JSON value.**  Objects keep their members in ascending order of the keys (by code point),
and no key twice; `Json.insertMember` maintains that. -/
inductive Json where
  | null
  | bool (value : Bool)
  | int (value : Int)
  | float (value : Binary64)
  | str (value : String)
  | arr (items : List Json)
  | obj (members : List (String × Json))

namespace Json

instance : Inhabited Json := ⟨.null⟩

/-! ## Objects -/

/-- Put a member into an ordered list of members, replacing the one of the same key. -/
def insertMember (key : String) (value : Json) : List (String × Json) → List (String × Json)
  | [] => [(key, value)]
  | (k, v) :: rest =>
      if key = k then (key, value) :: rest
      else if key < k then (key, value) :: (k, v) :: rest
      else (k, v) :: insertMember key value rest

/-- An object from members in any order; of a key given twice the last value counts. -/
def object (members : List (String × Json)) : Json :=
  .obj (members.foldl (fun sorted member => insertMember member.1 member.2 sorted) [])

/-- The member of that name, if this is an object that has it. -/
def member? (key : String) : Json → Option Json
  | .obj members => (members.find? fun member => member.1 == key).map (·.2)
  | _ => none

/-! ## Equality -/

mutual

/-- **Equality of values.**  Floating-point numbers are compared as numbers, everything else by its
parts. -/
def same : Json → Json → Bool
  | .null, .null => true
  | .bool a, .bool b => a == b
  | .int a, .int b => a == b
  | .float a, .float b => a.same b
  | .str a, .str b => a == b
  | .arr a, .arr b => sameItems a b
  | .obj a, .obj b => sameMembers a b
  | _, _ => false

/-- Equality of lists of values. -/
def sameItems : List Json → List Json → Bool
  | [], [] => true
  | a :: as, b :: bs => a.same b && sameItems as bs
  | _, _ => false

/-- Equality of lists of members. -/
def sameMembers : List (String × Json) → List (String × Json) → Bool
  | [], [] => true
  | (k, a) :: as, (l, b) :: bs => k == l && a.same b && sameMembers as bs
  | _, _ => false

end

/-! ## Structural text -/

mutual

/-- The structural text of a value. -/
def structural : Json → String
  | .null => "Null"
  | .bool b => Text.call "Bool" [Text.truth b]
  | .int i => Text.call "Number" [Text.whole i]
  | .float x => Text.call "Number" [x.text Binary64.json]
  | .str s => Text.call "String" [Text.quoted s]
  | .arr items => "Array " ++ Text.list (structuralItems items)
  | .obj members => "Object \x7b" ++ String.intercalate ", " (structuralMembers members) ++ "\x7d"

/-- The structural texts of a list's items. -/
def structuralItems : List Json → List String
  | [] => []
  | item :: rest => item.structural :: structuralItems rest

/-- The structural texts of an object's members. -/
def structuralMembers : List (String × Json) → List String
  | [] => []
  | (key, value) :: rest =>
      (Text.quoted key ++ ": " ++ value.structural) :: structuralMembers rest

end

end Json

end Transactional
