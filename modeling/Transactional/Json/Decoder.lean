import Transactional.Json.Lexeme

/-!
# Readers of typed JSON

Readers for the shapes that typed data takes in JSON, put together from readers of their parts:
single values, lists, constructors by name, and fields in an object or in a list.

A list or an object uses up one level of a depth that is given at the start, so that no text can
make a reader go arbitrarily deep.

* `Decoder.atom` — a value that is no list and no object.
* `Decoder.list`, `Decoder.pair` — lists of any length, and of length two.
* `Decoder.variant` — a constructor: its bare name, or an object with one member.
* `Decoder.fields` — a structure: an object with its fields in any order, or a list of them in
  order.
* `Decoder.whole` — a reader used on a complete text.
-/

namespace Transactional

namespace Decoder

open Json

/-- How many lists and objects may lie inside each other. -/
def depthLimit : Nat := 127

/-! ## Single values -/

/-- Why a value of another shape is refused. -/
def refusal (wanted : String) (text : List Char) : JsonFault :=
  match leaf text with
  | .error fault => fault
  | .ok (some (l, _)) => .wrongType l.found wanted
  | .ok none =>
      match text with
      | '[' :: _ => .wrongType .list wanted
      | '\x7b' :: _ => .wrongType .object wanted
      | _ => .notValue

/-- **Read a value that is no list and no object**, and use it. -/
def atom (wanted : String) (accept : Leaf → Except JsonFault α) : Decoder α := fun text =>
  let text := skipGaps text
  match text with
  | [] => .error .noValue
  | _ :: _ =>
      match leaf text with
      | .ok (some (l, rest)) =>
          match accept l with
          | .ok a => .ok (a, rest)
          | .error fault => .error fault
      | _ => .error (refusal wanted text)

/-- Read a text. -/
def text : Decoder String :=
  let wanted := "a string"
  atom wanted fun
    | .text s => .ok s
    | l => .error (.wrongType l.found wanted)

/-- Read a truth value. -/
def bool : Decoder Bool :=
  let wanted := "a boolean"
  atom wanted fun
    | .bool b => .ok b
    | l => .error (.wrongType l.found wanted)

/-- Read an integer between two bounds. -/
def integer (wanted : String) (least greatest : Int) : Decoder Int :=
  atom wanted fun
    | .number (.int i) =>
        if least ≤ i ∧ i ≤ greatest then .ok i else .error (.wrongValue (.int i) wanted)
    | l => .error (.wrongType l.found wanted)

/-- Read a floating-point number; an integer becomes one. -/
def float : Decoder Binary64 :=
  let wanted := "f64"
  atom wanted fun
    | .number (.int i) => .ok (Binary64.ofInt i)
    | .number (.float x) => .ok x
    | l => .error (.wrongType l.found wanted)

/-- Read the null value. -/
def null : Decoder Unit :=
  let wanted := "unit"
  atom wanted fun
    | .null => .ok ()
    | l => .error (.wrongType l.found wanted)

/-- Read the null value as nothing, and anything else with another reader. -/
def optional (value : Decoder α) : Decoder (Option α) := fun text =>
  match skipGaps text with
  | 'n' :: rest =>
      match word ['u', 'l', 'l'] rest with
      | .ok (_, rest) => .ok (none, rest)
      | .error fault => .error fault
  | text =>
      match value text with
      | .ok (a, rest) => .ok (some a, rest)
      | .error fault => .error fault

/-! ## Lists -/

/-- Whether another item follows.  The end of the list is left in place; a comma is passed over. -/
def moreItems (first : Bool) : Decoder Bool := fun text =>
  match skipGaps text with
  | [] => .error .openList
  | ']' :: rest => .ok (false, ']' :: rest)
  | c :: rest =>
      if first then .ok (true, c :: rest)
      else if c = ',' then
        match skipGaps rest with
        | [] => .error .noValue
        | ']' :: _ => .error .strayComma
        | text => .ok (true, text)
      else .error .listGoesOn

/-- Read the end of a list. -/
def closeList : Decoder Unit := fun text =>
  match skipGaps text with
  | [] => .error .openList
  | ']' :: rest => .ok ((), rest)
  | ',' :: rest =>
      match skipGaps rest with
      | ']' :: _ => .error .strayComma
      | _ => .error .excess
  | _ => .error .excess

/-- Read items up to the end of the list, at most `fuel` of them. -/
def items (item : Decoder α) : Nat → Bool → Decoder (List α)
  | 0, _, _ => .error .openList
  | fuel + 1, first, text => do
      let (more, text) ← moreItems first text
      if more then
        let (a, text) ← item text
        let (others, text) ← items item fuel false text
        .ok (a :: others, text)
      else
        let (_, text) ← closeList text
        .ok ([], text)

/-- **Read a list.**  The items are read one level deeper. -/
def list (item : Nat → Decoder α) (depth : Nat) : Decoder (List α) := fun text =>
  match skipGaps text with
  | [] => .error .noValue
  | '[' :: rest =>
      match depth with
      | 0 => .error .tooDeep
      | depth + 1 => items (item depth) (rest.length + 1) true rest
  | text => .error (refusal "a sequence" text)

/-- Read the next item of a list of fixed length. -/
def nextItem (item : Decoder α) (index : Nat) (wanted : String) : Decoder α := fun text => do
  let (more, text) ← moreItems (index = 0) text
  if more then item text else .error (.wrongLength index wanted)

/-- **Read a list of length two.** -/
def pair (first : Nat → Decoder α) (second : Nat → Decoder β) (depth : Nat) : Decoder (α × β) :=
  let wanted := "a tuple of size 2"
  fun text =>
    match skipGaps text with
    | [] => .error .noValue
    | '[' :: rest =>
        match depth with
        | 0 => .error .tooDeep
        | depth + 1 => do
            let (a, text) ← nextItem (first depth) 0 wanted rest
            let (b, text) ← nextItem (second depth) 1 wanted text
            let (_, text) ← closeList text
            .ok ((a, b), text)
    | text => .error (refusal wanted text)

/-! ## Objects -/

/-- Whether another member follows.  The end of the object is left in place; a comma is passed over.
When there is one, the text goes on with the quote of its name. -/
def moreMembers (first : Bool) : Decoder Bool := fun text =>
  match skipGaps text with
  | [] => .error .openObject
  | '\x7d' :: rest => .ok (false, '\x7d' :: rest)
  | c :: rest =>
      if first then
        if c = '"' then .ok (true, c :: rest) else .error .nameNotText
      else if c = ',' then
        match skipGaps rest with
        | [] => .error .noValue
        | '"' :: rest => .ok (true, '"' :: rest)
        | '\x7d' :: _ => .error .strayComma
        | _ => .error .nameNotText
      else .error .objectGoesOn

/-- Read the end of an object. -/
def closeObject : Decoder Unit := fun text =>
  match skipGaps text with
  | [] => .error .openObject
  | '\x7d' :: rest => .ok ((), rest)
  | ',' :: _ => .error .strayComma
  | _ => .error .excess

/-- Read the colon behind a name. -/
def colon : Decoder Unit := fun text =>
  match skipGaps text with
  | [] => .error .openObject
  | ':' :: rest => .ok ((), rest)
  | _ => .error .missingColon

/-- Read the name of a member and its colon. -/
def memberName : Decoder String := fun text => do
  let (name, text) ← quotedText (text.drop 1)
  let (_, text) ← colon text
  .ok (name, text)

/-- Read members up to the end of the object, at most `fuel` of them. -/
def members (value : Decoder α) : Nat → Bool → Decoder (List (String × α))
  | 0, _, _ => .error .openObject
  | fuel + 1, first, text => do
      let (more, text) ← moreMembers first text
      if more then
        let (name, text) ← memberName text
        let (a, text) ← value text
        let (others, text) ← members value fuel false text
        .ok ((name, a) :: others, text)
      else
        let (_, text) ← closeObject text
        .ok ([], text)

/-! ## Values that are passed over -/

mutual

/-- Pass over a value of any shape.  Its texts need not make sense, and its depth does not count. -/
def skipValue : Nat → Decoder Unit
  | 0, _ => .error .noValue
  | fuel + 1, text =>
      match skipGaps text with
      | [] => .error .noValue
      | 'n' :: rest => word ['u', 'l', 'l'] rest
      | 't' :: rest => word ['r', 'u', 'e'] rest
      | 'f' :: rest => word ['a', 'l', 's', 'e'] rest
      | '-' :: rest => skipNumber rest
      | '"' :: rest => skipText (rest.length + 1) rest
      | '[' :: rest => skipItems fuel false rest
      | '\x7b' :: rest => skipMembers fuel false rest
      | c :: rest => if (Text.digitValue c).isSome then skipNumber (c :: rest) else .error .notValue

/-- Pass over the rest of a list. -/
def skipItems : Nat → Bool → Decoder Unit
  | 0, _, _ => .error .openList
  | fuel + 1, comma, text =>
      match skipGaps text with
      | [] => .error .openList
      | ']' :: rest => .ok ((), rest)
      | c :: rest =>
          if comma then
            if c = ',' then do
              let (_, text) ← skipValue fuel rest
              skipItems fuel true text
            else .error .listGoesOn
          else do
            let (_, text) ← skipValue fuel (c :: rest)
            skipItems fuel true text

/-- Pass over the rest of an object. -/
def skipMembers : Nat → Bool → Decoder Unit
  | 0, _, _ => .error .openObject
  | fuel + 1, comma, text =>
      match skipGaps text with
      | [] => .error .openObject
      | '\x7d' :: rest => .ok ((), rest)
      | c :: rest =>
          if comma then
            if c = ',' then do
              let (_, text) ← skipName rest
              let (_, text) ← skipValue fuel text
              skipMembers fuel true text
            else .error .objectGoesOn
          else do
            let (_, text) ← skipName (c :: rest)
            let (_, text) ← skipValue fuel text
            skipMembers fuel true text

end

/-- **Pass over a value.** -/
def skip : Decoder Unit := fun text =>
  skipValue (text.length + 1) text

/-! ## Constructors -/

/-- **How one constructor is read.** -/
structure Variant (α : Type) where
  name : String
  bare : Except JsonFault α
  content : Nat → Decoder α

/-- A constructor without arguments. -/
def Variant.constant (name : String) (a : α) : Variant α :=
  ⟨name, .ok a, fun _ text => do
    let (_, text) ← null text
    .ok (a, text)⟩

/-- A constructor with one argument. -/
def Variant.of (name : String) (make : β → α) (content : Nat → Decoder β) : Variant α :=
  ⟨name, .error (.wrongType .bareName "newtype variant"), fun depth text => do
    let (b, text) ← content depth text
    .ok (make b, text)⟩

/-- The constructor of that name. -/
def findVariant (variants : List (Variant α)) (name : String) : Except JsonFault (Variant α) :=
  match variants.find? fun v => v.name == name with
  | some v => .ok v
  | none => .error (.unknownName name (variants.map (·.name)))

/-- Read the name of a constructor, which must be a text. -/
def variantName : Decoder String := fun text =>
  match skipGaps text with
  | [] => .error .noValue
  | '"' :: rest => quotedText rest
  | _ => .error .nameNotText

/-- **Read a constructor**: its bare name, or an object whose only member is named like it. -/
def variant (variants : List (Variant α)) (depth : Nat) : Decoder α := fun text =>
  match skipGaps text with
  | [] => .error .noValue
  | '"' :: rest => do
      let (name, text) ← quotedText rest
      let v ← findVariant variants name
      let a ← v.bare
      .ok (a, text)
  | '\x7b' :: rest =>
      match depth with
      | 0 => .error .tooDeep
      | depth + 1 => do
          let (name, text) ← variantName rest
          let v ← findVariant variants name
          let (_, text) ← colon text
          let (a, text) ← v.content depth text
          match skipGaps text with
          | [] => .error .openObject
          | '\x7d' :: rest => .ok (a, rest)
          | _ => .error .notValue
  | _ => .error .notValue

/-! ## Structures -/

/-- **How one field is read** into a structure that is being filled. -/
structure Field (β : Type) where
  name : String
  required : Bool
  isSet : β → Bool
  read : Nat → β → Decoder β

/-- The first field that may not be left out and has not been read. -/
def missing? (known : List (Field β)) (partly : β) : Option (Field β) :=
  known.find? fun field => field.required && !field.isSet partly

/-- Read fields from the items of a list, in order. -/
def listedFields (wanted : String) (depth : Nat) : List (Field β) → Nat → β → Decoder β
  | [], _, partly, text => do
      let (_, text) ← closeList text
      .ok (partly, text)
  | field :: others, index, partly, text => do
      let (more, text) ← moreItems (index = 0) text
      if more then
        let (partly, text) ← field.read depth partly text
        listedFields wanted depth others (index + 1) partly text
      else if field.required then .error (.wrongLength index wanted)
      else listedFields wanted depth others (index + 1) partly text

/-- Read fields from the members of an object, in any order; members that are no fields are passed
over. -/
def namedFields (known : List (Field β)) (depth : Nat) : Nat → Bool → β → Decoder β
  | 0, _, _, _ => .error .openObject
  | fuel + 1, first, partly, text => do
      let (more, text) ← moreMembers first text
      if more then
        let (name, text) ← quotedText (text.drop 1)
        match known.find? fun field => field.name == name with
        | some field =>
            if field.isSet partly then .error (.repeatedField name)
            else
              let (_, text) ← colon text
              let (partly, text) ← field.read depth partly text
              namedFields known depth fuel false partly text
        | none =>
            let (_, text) ← colon text
            let (_, text) ← skip text
            namedFields known depth fuel false partly text
      else
        match missing? known partly with
        | some field => .error (.missingField field.name)
        | none =>
            let (_, text) ← closeObject text
            .ok (partly, text)

/-- How a sentence speaks of a structure in a list. -/
def lengthPhrase (kind : String) (count : Nat) : String :=
  kind ++ " with " ++ Text.natural count ++ (if count = 1 then " element" else " elements")

/-- **Read a structure** into an empty one: an object with its fields, or a list of them. -/
def fields (kind : String) (known : List (Field β)) (empty : β) (depth : Nat) : Decoder β :=
  fun text =>
    match skipGaps text with
    | [] => .error .noValue
    | '[' :: rest =>
        match depth with
        | 0 => .error .tooDeep
        | depth + 1 => listedFields (lengthPhrase kind known.length) depth known 0 empty rest
    | '\x7b' :: rest =>
        match depth with
        | 0 => .error .tooDeep
        | depth + 1 => namedFields known depth (rest.length + 1) true empty rest
    | text => .error (refusal kind text)

/-! ## Complete texts -/

/-- **Use a reader on a complete text**: only blanks may follow. -/
def whole (reader : Decoder α) (text : String) : Except JsonFault α := do
  let (a, rest) ← reader text.toList
  if (skipGaps rest).isEmpty then .ok a else .error .excess

end Decoder

end Transactional
