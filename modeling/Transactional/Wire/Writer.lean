import Transactional.Engine.Datum
import Transactional.Memory.Backend
import Transactional.Options
import Transactional.Program.Operation
import Transactional.Value

/-!
# Plain JSON for tools

How a tool that talks JSON sees the values of the library.  What JSON has a kind of value for is
written as such a value; everything else is an object that names its kind.  A floating-point
number is written by its bits, so that nothing is lost on the way, and every NaN as the same one.

Each type has a function `wire`; `Wire/Reader` reads what is written here.
-/

namespace Transactional

namespace Wire

/-- A number. -/
def ofNat (n : Nat) : Json :=
  .int n

/-- A list of texts. -/
def texts (l : List String) : Json :=
  .arr (l.map .str)

/-- A value that may be missing. -/
def orNull (f : α → Json) : Option α → Json
  | some a => f a
  | none => .null

/-- A floating-point number, by its bits. -/
def bits (x : Binary64) : Json :=
  .str (Text.paddedHexadecimal 16 (if x.isNaN then Binary64.nan else x).bits.toNat)

/-- Bytes, two digits each. -/
def bytes (b : List UInt8) : Json :=
  .str (String.join (b.map fun x => Text.paddedHexadecimal 2 x.toNat))

/-- An object whose members are put in order. -/
def tagged (tag name : String) (members : List (String × Json)) : Json :=
  Json.object ((tag, .str name) :: members)

/-- What stands in front of the last place where a mark stands; places may overlap. -/
def beforeLast? (mark : List Char) : List Char → Option (List Char)
  | [] => none
  | c :: rest =>
      match beforeLast? mark rest with
      | some kept => some (c :: kept)
      | none => if mark.isPrefixOf (c :: rest) then some [] else none

/-- A text without its last mention of a position in a text that was read. -/
def withoutPosition (message : String) : String :=
  match beforeLast? " at line ".toList message.toList with
  | some kept => String.ofList kept
  | none => message

end Wire

open Wire

/-- A timestamp as the list of its fields. -/
def Timestamp.wire (t : Timestamp) : Json :=
  .arr [.int t.year, ofNat t.month, ofNat t.day, ofNat t.hour, ofNat t.minute, ofNat t.second,
    ofNat t.nanosecond]

/-- **A scalar.** -/
def Scalar.wire : Scalar → Json
  | .int i => .int i.toInt
  | .float x => .obj [("float", bits x)]
  | .text s => .str s
  | .bool b => .bool b
  | .timestamp t => .obj [("ts", t.wire)]
  | .null => .null
  | .json j => .obj [("json", j)]
  | .blob b => .obj [("blob", bytes b)]

/-- A scalar that may be absent, which is not the same as one without a value. -/
def Scalar.wireOrAbsent : Option Scalar → Json
  | some v => .obj [("v", v.wire)]
  | none => .str "absent"

/-- A record as a list of pairs. -/
def Record.wire (record : Record) : Json :=
  .arr (record.fields.map fun pair => .arr [.str pair.1, pair.2.wire])

/-- A kind of statement. -/
def StatementKind.wire (kind : StatementKind) : Json :=
  .str kind.name.toLower

/-- The members of rows under columns. -/
def ResultSet.wireMembers (set : ResultSet) : List (String × Json) :=
  [("columns", texts set.columns),
    ("rows", .arr (set.rowValues.map fun row => .arr (row.map Scalar.wire)))]

/-- Rows under columns. -/
def ResultSet.wire (set : ResultSet) : Json :=
  .obj set.wireMembers

/-- The members of a prepared statement. -/
def StatementHandle.wireMembers (handle : StatementHandle) : List (String × Json) :=
  [("id", ofNat handle.id.toNat), ("kind", handle.kind.wire), ("sql", .str handle.sql)]

/-- A prepared statement. -/
def StatementHandle.wire (handle : StatementHandle) : Json :=
  .obj handle.wireMembers

/-- An outcome. -/
def Outcome.wire : Outcome → Json
  | .rows set => .obj [("rows", set.wire)]
  | .inserted i => .obj [("inserted", .int i.toInt)]
  | .affected n => .obj [("affected", ofNat n.toNat)]

/-- **A value of a program.** -/
def Value.wire : Value → Json
  | .unit => tagged "t" "unit" []
  | .id i => tagged "t" "id" [("v", .int i.toInt)]
  | .affected n => tagged "t" "affected" [("v", ofNat n.toNat)]
  | .rows set => tagged "t" "rows" set.wireMembers
  | .record found => tagged "t" "record" [("v", orNull Record.wire found)]
  | .statement handle => tagged "t" "statement" handle.wireMembers
  | .scalar s => tagged "t" "value" [("v", s.wire)]
  | .json j => tagged "t" "json" [("v", j)]

/-- A duration, also as people read it. -/
def Duration.wire (d : Duration) : Json :=
  .obj [("debug", .str d.text), ("nanos", ofNat d.nanos), ("secs", ofNat d.secs.toNat)]

/-- The members of options, with the limits also as durations. -/
def Options.wireMembers (options : Options) : List (String × Json) :=
  [("target", .str options.target), ("max_connections", ofNat options.maxConnections.toNat),
    ("connection_timeout_ms", ofNat options.connectionTimeoutMs.toNat),
    ("transaction_timeout_ms",
      orNull (fun ms => ofNat ms.toNat) options.transactionTimeoutMs),
    ("connection_timeout", options.connectionTimeout.wire),
    ("transaction_timeout", orNull Duration.wire options.transactionTimeout)]

/-- **A fault**, by its kind and its sentence. -/
def Fault.wire (fault : Fault) : Json :=
  .obj [("error", .str fault.kindName), ("message", .str (withoutPosition fault.message))]

/-- Something that may have failed. -/
def Wire.result (f : α → Json) : Except Fault α → Json
  | .ok a => .obj [("ok", f a)]
  | .error fault => fault.wire

/-- Something that gives nothing but may have failed. -/
def Wire.done : Except Fault Unit → Json :=
  Wire.result fun _ => .null

/-- An event. -/
def Event.wire (event : Event) : Json :=
  .obj [("payload", event.payload), ("type", .str event.type)]

/-- The state of a connection. -/
def Status.wire (status : Status) : Json :=
  .str status.structural.toLower

/-- A report. -/
def Trace.wire (trace : Trace) : Json :=
  .obj ([("level", .str trace.level.name), ("message", .str trace.message)]
    ++ trace.fields.map (fun field => (field.1, .str field.2))
    ++ trace.target.toList.map fun target => ("target", .str target))

/-- The name of a call, and what it was made with. -/
def Memory.Call.parts : Memory.Call → String × List Json
  | .connect _ => ("connect", [])
  | .begin _ => ("begin", [])
  | .commit _ => ("commit", [])
  | .rollback _ => ("rollback", [])
  | .prepare _ sql => ("prepare", [.str sql])
  | .execute _ sql bindings => ("execute", [.str sql, .arr (bindings.map Scalar.wire)])
  | .destroy _ sql => ("destroy", [.str sql])
  | .close _ => ("close", [])

/-- An entry of the journal. -/
def Memory.Call.wire (call : Memory.Call) : Json :=
  .arr (.str call.parts.1 :: ofNat call.number :: call.parts.2)

/-- A stored value, by its class. -/
def Datum.wire : Datum → Json
  | .null => .arr [.str "null"]
  | .integer i => .arr [.str "integer", .int i.toInt]
  | .real x => .arr [.str "real", bits x]
  | .text s => .arr [.str "text", .str s]
  | .blob b => .arr [.str "blob", bytes b]

end Transactional
