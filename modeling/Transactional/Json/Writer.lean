import Transactional.Json.Basic

/-!
# JSON text

The compact written form of a value: no blanks, a text with as few escapes as JSON allows, the
shortest digits of a floating-point number.

Every writer puts its text in front of a given rest, so that what is written composes without
copying, and so that a reader's law can speak of what follows.
-/

namespace Transactional.Json

/-- Put a text in front of the rest. -/
def prepend (text : String) (rest : List Char) : List Char :=
  text.toList ++ rest

/-- How one character stands inside a JSON text. -/
def escapedChar (c : Char) : List Char :=
  if c = '"' then ['\\', '"']
  else if c = '\\' then ['\\', '\\']
  else if c = '\n' then ['\\', 'n']
  else if c = '\r' then ['\\', 'r']
  else if c = '\t' then ['\\', 't']
  else if c.toNat = 8 then ['\\', 'b']
  else if c.toNat = 12 then ['\\', 'f']
  else if c.toNat < 0x20 then '\\' :: 'u' :: (Text.paddedHexadecimal 4 c.toNat).toList
  else [c]

/-- Write a text in quotes. -/
def writeText (text : String) (rest : List Char) : List Char :=
  '"' :: (text.toList.flatMap escapedChar ++ '"' :: rest)

/-- Write an integer. -/
def writeInt (i : Int) (rest : List Char) : List Char :=
  prepend (Text.whole i) rest

/-- Write a floating-point number; one that is not finite has no JSON text and becomes `null`. -/
def writeFloat (x : Binary64) (rest : List Char) : List Char :=
  prepend (if x.isFinite then x.text Binary64.json else "null") rest

/-- Write items between brackets, each by its own writer. -/
def writeList (items : List (List Char → List Char)) (rest : List Char) : List Char :=
  '[' :: match items with
    | [] => ']' :: rest
    | first :: others => first (others.foldr (fun item tail => ',' :: item tail) (']' :: rest))

/-- Write one member. -/
def writeMember (member : String × (List Char → List Char)) (rest : List Char) : List Char :=
  writeText member.1 (':' :: member.2 rest)

/-- Write members between braces, in the order given. -/
def writeMembers (members : List (String × (List Char → List Char))) (rest : List Char) :
    List Char :=
  '\x7b' :: match members with
    | [] => '\x7d' :: rest
    | first :: others =>
        writeMember first (others.foldr (fun member tail => ',' :: writeMember member tail)
          ('\x7d' :: rest))

mutual

/-- Write a value. -/
def write : Json → List Char → List Char
  | .null => prepend "null"
  | .bool b => prepend (Text.truth b)
  | .int i => writeInt i
  | .float x => writeFloat x
  | .str s => writeText s
  | .arr items => writeList (writers items)
  | .obj members => writeMembers (memberWriters members)

/-- The writers of a list's items. -/
def writers : List Json → List (List Char → List Char)
  | [] => []
  | item :: rest => item.write :: writers rest

/-- The writers of an object's members. -/
def memberWriters : List (String × Json) → List (String × (List Char → List Char))
  | [] => []
  | (key, value) :: rest => (key, value.write) :: memberWriters rest

end

/-- **The compact JSON text of a value.** -/
def text (value : Json) : String :=
  String.ofList (value.write [])

end Transactional.Json
