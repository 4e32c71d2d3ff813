import Transactional.Event
import Transactional.Json.Reader
import Transactional.Options
import Transactional.Statement
import Transactional.Value

/-!
# Serialised data

How scalars, records, statement kinds, events and options travel as JSON text.

A constructor is written as an object whose only member is named like it, one without arguments as
its bare name; a structure is written as an object with its fields in their order.  Reading
accepts more than writing produces: fields in any order, a structure as a list, fields that nobody
knows.

* `Scalar.encoded`, `Record.encoded`, … — the JSON value of each type.
* `Scalar.decoder`, `Record.decoder`, … — the readers.
* `decode` — reads a complete text and reports failures as faults of a parameter.
-/

namespace Transactional

/-! ## Scalars -/

namespace Scalar

/-- A constructor with one argument, as JSON. -/
def tagged (name : String) (content : Json) : Json :=
  .obj [(name, content)]

/-- **A scalar as JSON.**  A floating-point number that is not finite becomes null. -/
def encoded : Scalar → Json
  | .int i => tagged "Int" (.int i.toInt)
  | .float x => tagged "Float" (if x.isFinite then .float x else .null)
  | .text s => tagged "Text" (.str s)
  | .bool b => tagged "Bool" (.bool b)
  | .timestamp t => tagged "Timestamp" (.str t.joined)
  | .null => .str "Null"
  | .json j => tagged "JSON" j
  | .blob bytes => tagged "Blob" (.arr (bytes.map fun b => .int b.toNat))

/-- Read a timestamp. -/
def timestampDecoder : Decoder Timestamp :=
  let wanted := "a formatted date and time string"
  Decoder.atom wanted fun
    | .text s =>
        match Timestamp.read Timestamp.Layout.joined s with
        | .ok t => .ok t
        | .error fault => .error (.content fault.message)
    | l => .error (.wrongType l.found wanted)

/-- Read a byte. -/
def byteDecoder : Decoder UInt8 := fun text => do
  let (i, text) ← Decoder.integer "u8" 0 255 text
  .ok (UInt8.ofNat i.toNat, text)

/-- Read an integer of sixty-four bits. -/
def intDecoder : Decoder Int64 := fun text => do
  let (i, text) ← Decoder.integer "i64" (-Int.pow 2 63) (Int.pow 2 63 - 1) text
  .ok (Int64.ofInt i, text)

/-- The constructors of scalars. -/
def variants : List (Decoder.Variant Scalar) :=
  [.of "Int" .int fun _ => intDecoder,
    .of "Float" .float fun _ => Decoder.float,
    .of "Text" .text fun _ => Decoder.text,
    .of "Bool" .bool fun _ => Decoder.bool,
    .of "Timestamp" .timestamp fun _ => timestampDecoder,
    .constant "Null" .null,
    .of "JSON" .json Json.value,
    .of "Blob" .blob (Decoder.list fun _ => byteDecoder)]

/-- **Read a scalar.** -/
def decoder : Nat → Decoder Scalar :=
  Decoder.variant variants

end Scalar

/-! ## Records -/

namespace Record

/-- **A record as JSON.** -/
def encoded (record : Record) : Json :=
  .obj [("fields", .arr (record.fields.map fun pair => .arr [.str pair.1, pair.2.encoded]))]

/-- The only field of a record. -/
def fieldDecoders : List (Decoder.Field (Option (List (String × Scalar)))) :=
  [⟨"fields", true, Option.isSome, fun depth _ text => do
    let (pairs, text) ←
      Decoder.list (Decoder.pair (fun _ => Decoder.text) Scalar.decoder) depth text
    .ok (some pairs, text)⟩]

/-- **Read a record.**  A repeated column stays repeated. -/
def decoder (depth : Nat) : Decoder Record := fun text => do
  let (pairs, text) ← Decoder.fields "struct Record" fieldDecoders none depth text
  .ok (⟨pairs.getD []⟩, text)

end Record

/-! ## Statement kinds -/

namespace StatementKind

/-- **A kind as JSON.** -/
def encoded (kind : StatementKind) : Json :=
  .str kind.name

/-- **Read a kind.** -/
def decoder : Nat → Decoder StatementKind :=
  Decoder.variant (all.map fun kind => .constant kind.name kind)

end StatementKind

/-! ## Events -/

namespace Event

/-- **An event as JSON.** -/
def encoded (event : Event) : Json :=
  .obj [("event_type", .str event.type), ("payload", event.payload)]

/-- An event of which a part has been read. -/
structure Partial where
  type : Option String := none
  payload : Option Json := none

/-- The fields of an event. -/
def fieldDecoders : List (Decoder.Field Partial) :=
  [⟨"event_type", true, fun p => p.type.isSome, fun _ p text => do
      let (s, text) ← Decoder.text text
      .ok ({ p with type := some s }, text)⟩,
    ⟨"payload", true, fun p => p.payload.isSome, fun depth p text => do
      let (j, text) ← Json.value depth text
      .ok ({ p with payload := some j }, text)⟩]

/-- **Read an event.** -/
def decoder (depth : Nat) : Decoder Event := fun text => do
  let (p, text) ← Decoder.fields "struct PublishedEvent" fieldDecoders {} depth text
  .ok (⟨p.type.getD "", p.payload.getD .null⟩, text)

end Event

/-! ## Options -/

namespace Options

/-- **Options as JSON text**, the fields in their own order. -/
def write (options : Options) : List Char → List Char :=
  Json.writeMembers
    [("target", Json.writeText options.target),
      ("max_connections", Json.writeInt options.maxConnections.toNat),
      ("connection_timeout_ms", Json.writeInt options.connectionTimeoutMs.toNat),
      ("transaction_timeout_ms",
        match options.transactionTimeoutMs with
        | some ms => Json.writeInt ms.toNat
        | none => Json.prepend "null")]

/-- The JSON text of options. -/
def text (options : Options) : String :=
  String.ofList (options.write [])

/-- Options of which a part has been read. -/
structure Partial where
  target : Option String := none
  maxConnections : Option UInt32 := none
  connectionTimeoutMs : Option UInt64 := none
  transactionTimeoutMs : Option (Option UInt64) := none

/-- Read a number of sixty-four bits. -/
def wordDecoder : Decoder UInt64 := fun text => do
  let (i, text) ← Decoder.integer "u64" 0 (Int.pow 2 64 - 1) text
  .ok (UInt64.ofNat i.toNat, text)

/-- The fields of options; all but the target may be left out. -/
def fieldDecoders : List (Decoder.Field Partial) :=
  [⟨"target", true, fun p => p.target.isSome, fun _ p text => do
      let (s, text) ← Decoder.text text
      .ok ({ p with target := some s }, text)⟩,
    ⟨"max_connections", false, fun p => p.maxConnections.isSome, fun _ p text => do
      let (i, text) ← Decoder.integer "u32" 0 (Int.pow 2 32 - 1) text
      .ok ({ p with maxConnections := some (UInt32.ofNat i.toNat) }, text)⟩,
    ⟨"connection_timeout_ms", false, fun p => p.connectionTimeoutMs.isSome, fun _ p text => do
      let (ms, text) ← wordDecoder text
      .ok ({ p with connectionTimeoutMs := some ms }, text)⟩,
    ⟨"transaction_timeout_ms", false, fun p => p.transactionTimeoutMs.isSome, fun _ p text => do
      let (ms, text) ← Decoder.optional wordDecoder text
      .ok ({ p with transactionTimeoutMs := some ms }, text)⟩]

/-- The options that the parts make; what was left out keeps its default. -/
def Partial.complete (p : Partial) : Options :=
  let defaults := Options.new (p.target.getD "")
  { defaults with
    maxConnections := p.maxConnections.getD defaults.maxConnections
    connectionTimeoutMs := p.connectionTimeoutMs.getD defaults.connectionTimeoutMs
    transactionTimeoutMs := p.transactionTimeoutMs.getD defaults.transactionTimeoutMs }

/-- **Read options**, whether or not they make sense. -/
def decoder (depth : Nat) : Decoder Options := fun text => do
  let (p, text) ← Decoder.fields "struct ManagerOptions" fieldDecoders {} depth text
  .ok (p.complete, text)

/-- **The options that a text writes**, if it is well formed and they make sense. -/
def ofText (text : String) : Except Fault Options :=
  match (decoder Decoder.depthLimit).whole text with
  | .error fault => .error (.configuration ("invalid manager options: " ++ fault.message))
  | .ok options =>
      match options.validate with
      | .ok () => .ok options
      | .error fault => .error fault

end Options

/-! ## Complete texts -/

/-- The fault of data that cannot be read or written. -/
def JsonFault.toFault (fault : JsonFault) : Fault :=
  .parameter ("JSON serialization error: " ++ fault.message)

/-- **What a complete text writes.** -/
def decode (decoder : Nat → Decoder α) (text : String) : Except Fault α :=
  match (decoder Decoder.depthLimit).whole text with
  | .ok a => .ok a
  | .error fault => .error fault.toFault

end Transactional
