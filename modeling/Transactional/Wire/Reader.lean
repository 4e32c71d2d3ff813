import Transactional.Wire.Writer

/-!
# Reading plain JSON

The readers for what `Wire/Writer` writes, and for requests made of it.  A request may name values
that were obtained before: a scalar can be drawn from a named value, and a record can start from
one.

A reader gives what it read, or a remark about what is wrong with the request.
-/

namespace Transactional.Wire

/-- What a reader gives. -/
abbrev Read : Type → Type :=
  Except String

/-- **Values by name.** -/
abbrev Names : Type :=
  List (String × Value)

/-- The value of a name; a name that nobody gave has none. -/
def named (names : Names) (name : String) : Value :=
  (names.lookup name).getD .unit

/-! ## JSON itself -/

/-- Something that has to be there. -/
def need (what : String) : Option α → Read α
  | some a => .ok a
  | none => .error ("missing " ++ what)

/-- The member of a name. -/
def member (j : Json) (name : String) : Read Json :=
  need name (j.member? name)

/-- A text. -/
def text : Json → Read String
  | .str s => .ok s
  | _ => .error "text expected"

/-- An integer. -/
def integer : Json → Read Int
  | .int i => .ok i
  | _ => .error "integer expected"

/-- A list. -/
def items : Json → Read (List Json)
  | .arr l => .ok l
  | _ => .error "list expected"

/-- The text in a member. -/
def textAt (j : Json) (name : String) : Read String := do
  text (← member j name)

/-- The natural number in a member. -/
def natAt (j : Json) (name : String) : Read Nat := do
  return (← integer (← member j name)).toNat

/-- The list in a member. -/
def itemsAt (j : Json) (name : String) : Read (List Json) := do
  items (← member j name)

/-- Whether a member says yes. -/
def flagAt (j : Json) (name : String) : Bool :=
  match j.member? name with
  | some (.bool b) => b
  | _ => false

/-- The number in a member, if there is one. -/
def natAt? (j : Json) (name : String) : Option Nat :=
  match j.member? name with
  | some (.int i) => some i.toNat
  | _ => none

/-- The text in a member, or the empty text. -/
def textOrEmpty (j : Json) (name : String) : String :=
  match j.member? name with
  | some (.str s) => s
  | _ => ""

/-! ## Scalars and what is made of them -/

/-- Bytes from two digits each. -/
def readBytes : List Char → Read (List UInt8)
  | a :: b :: rest => do
      let n ← need "digits" (Text.readHexadecimal [a, b])
      return UInt8.ofNat n :: (← readBytes rest)
  | _ => .ok []

/-- A timestamp from the list of its fields. -/
def timestamp (j : Json) : Read Timestamp := do
  match ← (← items j).mapM integer with
  | [year, month, day, hour, minute, second, nanosecond] =>
      need "timestamp" (Timestamp.of? year month.toNat day.toNat hour.toNat minute.toNat
        second.toNat nanosecond.toNat)
  | _ => .error "timestamp expected"

/-- An integer as a scalar. -/
def intScalar (i : Int) : Scalar :=
  .int (Int64.ofInt i)

/-- **Draw a scalar from a value**; null if the value has no such thing. -/
def drawn (v : Value) : Json → Read Scalar
  | .str "id" => .ok (Scalar.ofOption .int v.asId)
  | .str "affected" => .ok (Scalar.ofOption (fun n => intScalar n.toNat) v.asAffected)
  | .str "count" => .ok (Scalar.ofOption (fun set => intScalar set.size) v.asRows)
  | .str "value" => .ok (match v with
      | .scalar s => s
      | _ => .null)
  | .str "nothing" => .ok (.bool v.isNothing)
  | .arr [.str "row", .int i, .str column] =>
      .ok (((v.asRows.bind (·.row? i.toNat)).bind (·.get? column)).getD .null)
  | .arr [.str "field", .str column] => .ok ((v.asRecord.bind (·.get? column)).getD .null)
  | _ => .error "unknown part of a value"

/-- **A scalar.** -/
def scalar (names : Names) : Json → Read Scalar
  | .null => .ok .null
  | .bool b => .ok (.bool b)
  | .str s => .ok (.text s)
  | .int i => .ok (intScalar i)
  | .obj [("float", .str digits)] => do
      return .float ⟨UInt64.ofNat (← need "bits" (Text.readHexadecimal digits.toList))⟩
  | .obj [("ts", t)] => return .timestamp (← timestamp t)
  | .obj [("json", j)] => .ok (.json j)
  | .obj [("blob", .str digits)] => return .blob (← readBytes digits.toList)
  | j => do drawn (named names (← textAt j "var")) (← member j "get")

/-- Scalars. -/
def scalars (names : Names) (j : Json) : Read (List Scalar) := do
  (← items j).mapM (scalar names)

/-- The bindings of a statement, which may be left out. -/
def bindings (names : Names) (j : Json) : Read (List Scalar) :=
  match j.member? "bindings" with
  | some b => scalars names b
  | none => .ok []

/-- Pairs of a column and its value. -/
def pairs (names : Names) (j : Json) : Read (List (String × Scalar)) := do
  (← items j).mapM fun
    | .arr [.str column, v] => return (column, ← scalar names v)
    | _ => .error "pair expected"

/-- **A record**: a list of pairs, or one that starts from a named value. -/
def record (names : Names) (j : Json) : Read Record := do
  match j with
  | .arr _ => return .ofList (← pairs names j)
  | _ =>
      let start := ((named names (← textAt j "from")).asRecord).getD {}
      return start.setAll (← pairs names (← member j "set"))

/-- The record in a member. -/
def recordAt (names : Names) (j : Json) (name : String) : Read Record := do
  record names (← member j name)

/-- A kind of statement. -/
def kind (j : Json) : Read StatementKind := do
  let name ← text j
  need "kind" (StatementKind.all.find? fun k => k.name.toLower == name)

/-- The kind in a member. -/
def kindAt (j : Json) (name : String) : Read StatementKind := do
  kind (← member j name)

/-- Rows of scalars. -/
def rows (names : Names) (j : Json) : Read (List (List Scalar)) := do
  (← items j).mapM (scalars names)

/-- Rows under columns. -/
def resultSet (names : Names) (j : Json) : Read ResultSet := do
  return .ofRows (← (← itemsAt j "columns").mapM text) (← rows names (← member j "rows"))

/-- An outcome. -/
def outcome (j : Json) : Read Outcome := do
  match j.member? "inserted", j.member? "affected" with
  | some i, _ => return .inserted (Int64.ofInt (← integer i))
  | _, some n => return .affected (UInt64.ofNat (← integer n).toNat)
  | _, _ => return .rows (← resultSet [] (← member j "rows"))

/-- A prepared statement. -/
def handle (j : Json) : Read StatementHandle := do
  return ⟨UInt64.ofNat (← natAt j "id"), ← textAt j "sql", ← kindAt j "kind"⟩

/-- What a delete removes. -/
def target (names : Names) (j : Json) : Read DeleteTarget := do
  match j.member? "record" with
  | some row => return .record (← record names row)
  | none => return .id (← scalar names (← member j "id"))

/-- **A value of a program.** -/
def value (names : Names) (j : Json) : Read Value := do
  match ← textAt j "t" with
  | "unit" => return .unit
  | "id" => return .id (Int64.ofInt (← integer (← member j "v")))
  | "affected" => return .affected (UInt64.ofNat (← natAt j "v"))
  | "rows" => return .rows (← resultSet names j)
  | "record" =>
      match ← member j "v" with
      | .null => return .record none
      | row => return .record (some (← record names row))
  | "statement" => return .statement (← handle j)
  | "value" => return .scalar (← scalar names (← member j "v"))
  | "json" => return .json (← member j "v")
  | "var" => return named names (← textAt j "name")
  | t => .error ("unknown value " ++ t)

/-- A duration. -/
def duration (j : Json) : Read Duration := do
  return .of (UInt64.ofNat (← natAt j "secs")) ((natAt? j "nanos").getD 0)

/-- The duration of a number of milliseconds in a member, if there is one. -/
def millisAt? (j : Json) (name : String) : Option Duration :=
  (natAt? j name).map fun ms => Duration.ofMillis (UInt64.ofNat ms)

/-- **A fault.** -/
def fault (j : Json) : Read Fault := do
  let message := textOrEmpty j "message"
  match ← textAt j "kind" with
  | "SqliteError" => return .engine message
  | "PoolError" => return .pool message
  | "ClosedConnection" => return .closedConnection
  | "ConnectionError" => return .connection message
  | "ExecutionError" => return .execution message
  | "ParameterError" => return .parameter message
  | "ConfigError" => return .configuration message
  | "Aborted" => return .aborted message
  | "AsyncFailure" => return .awaited message
  | "Timeout" => return .timeout (← duration (← member j "duration"))
  | "UnexpectedValue" => return .unexpectedValue message
  | "Unimplemented" => return .unimplemented message
  | "Other" => return .other message
  | k => .error ("unknown fault " ++ k)

/-- Options. -/
def options (j : Json) : Read Options := do
  let o := Options.new (← textAt j "target")
  return { o with
    maxConnections := ((natAt? j "max_connections").map UInt32.ofNat).getD o.maxConnections
    connectionTimeoutMs :=
      ((natAt? j "connection_timeout_ms").map UInt64.ofNat).getD o.connectionTimeoutMs
    transactionTimeoutMs := (natAt? j "transaction_timeout_ms").map UInt64.ofNat }

/-- An event. -/
def event (j : Json) : Read Event := do
  return ⟨← textAt j "type", ← member j "payload"⟩

/-- The state of a connection. -/
def status (j : Json) : Read Status := do
  let name ← text j
  need "status" ([Status.open, .closed, .failed].find? fun s => s.structural.toLower == name)

/-- What a program announces with an event: data of its own, or a value obtained before. -/
def payload (names : Names) (j : Json) : Read Json := do
  match j.member? "json", j.member? "id_of" with
  | some v, _ => return v
  | _, some (.str name) =>
      return .obj [("id", orNull (fun i => .int i.toInt) (named names name).asId)]
  | _, _ => return (named names (← textAt j "value_of")).wire

/-- **An operation of a program**; nothing comes back for a node that is none.  A prepared statement
is given in full. -/
def operation? (names : Names) (j : Json) : Read (Option Operation) := do
  match ← textAt j "t" with
  | "query" => return some (.query (← kindAt j "kind") (← textAt j "sql") (← bindings names j))
  | "insert" => return some (.insert (← textAt j "table") (← recordAt names j "record"))
  | "update" => return some (.update (← textAt j "table") (← recordAt names j "record"))
  | "delete" =>
      return some (.delete (← textAt j "table") (← target names ((j.member? "target").getD j)))
  | "read" => return some (.read (← textAt j "table") (← scalar names (← member j "id")))
  | "prepare" => return some (.prepare (← kindAt j "kind") (← textAt j "sql"))
  | "execute" => return some (.execute (← handle (← member j "stmt")) (← bindings names j))
  | _ => return none

end Transactional.Wire
