import Transactional.Connection
import Transactional.Engine.Compiled
import Transactional.Text.Blank

/-!
# Connections to the SQL engine

Each connection has a database of its own.  It numbers the statements that it prepares and goes on
counting for as long as it lives, also from one lease to the next, and as long it keeps the
statements that it compiled last.  It keeps its own note of whether a transaction is open; the pool
goes by that note.

* `Engine.Link` — a connection with its database and its compiled statements.
* `Engine.connection` — its operations.
* `Engine.runScript` — statements one after the other, past everything else.
-/

namespace Transactional

namespace Engine

/-- Who has a connection. -/
inductive Place where
  | owned
  | lent
  | idle
  | gone
deriving DecidableEq

/-- **A connection with its database.** -/
structure Link where
  database : Database := {}
  cache : StatementCache := {}
  statements : List UInt64 := []
  nextStatement : UInt64 := 1
  inTransaction : Bool := false
  signal : Signal := {}
  place : Place := .gone

instance : Inhabited Link := ⟨{}⟩

namespace Link

/-- Whether the connection has ended. -/
def isTerminated (link : Link) : Bool :=
  link.signal.status.isTerminal

/-- Whether the pool may not use the connection again. -/
def isBroken (link : Link) : Bool :=
  link.isTerminated || link.inTransaction

/-- The structural text. -/
def structural (link : Link) : String :=
  Text.fields "SqliteConnection"
    [("statements", Text.natural link.statements.length),
      ("in_transaction", Text.truth link.inTransaction),
      ("status", link.signal.status.structural)]

end Link

/-- **The books of the pool.** -/
structure Books where
  shut : Bool := false
  /-- The connections at rest, the one that has rested longest first. -/
  idle : List Nat := []
  count : Nat := 0
  opening : Nat := 0
  looking : Nat := 0
  /-- Who waits for one, by ticket, the one who has waited longest first. -/
  waiting : List (Nat × TaskId) := []

end Engine

/-- A state with connections to the SQL engine and a pool of them. -/
class EngineHost (σ : Type) extends Host σ where
  links : Cell σ (Table Nat Engine.Link)
  linkCount : Cell σ Nat
  books : Cell σ Engine.Books

namespace Engine

variable [EngineHost σ]

/-- A connection. -/
def link (number : Nat) : Cell σ Link :=
  EngineHost.links.comp (Table.entry number)

/-- The signal of a connection. -/
def signal (number : Nat) : Cell σ Signal :=
  (link number).comp
    ⟨Link.signal, fun v l => { l with signal := v }, fun _ _ => rfl, fun _ _ _ => rfl⟩

/-- **Open a connection.** -/
def newLink (place : Place) (s : σ) : Nat × σ :=
  let number := EngineHost.linkCount.get s
  (number, (link number).set { place } (EngineHost.linkCount.set (number + 1) s))

/-- The fault of a connection that has ended. -/
def closedFault : Fault :=
  .connection "sqlite connection is closed"

/-- Do something with a connection that has not ended. -/
def onOpen (number : Nat) (f : Link → Except Fault α × Link) (s : σ) : Except Fault α × σ :=
  let l := (link number).get s
  if l.isTerminated then (.error closedFault, s)
  else
    let (result, l) := f l
    (result, (link number).set l s)

/-- A command without values, and what it makes of the note about transactions. -/
def command (statement : Sql) (after : Bool → Bool) (l : Link) : Except Fault Unit × Link :=
  match l.database.perform [] statement with
  | (.ok _, database) => (.ok (), { l with database, inTransaction := after l.inTransaction })
  | (.error fault, database) => (.error (.engine fault.message), { l with database })

/-- The text of a statement without the blanks around it; this is what is compiled. -/
def trimmed (sql : String) : String :=
  String.ofList (Text.dropBlanks (Text.dropBlanks sql.toList).reverse).reverse

/-- Prepare a statement. -/
def prepareOn (sql : String) (kind : StatementKind) (l : Link) :
    Except Fault StatementHandle × Link :=
  let text := trimmed sql
  match l.cache.compile l.database text with
  | .error message => (.error (.engine message), l)
  | .ok compiled =>
      (.ok ⟨l.nextStatement, sql, kind⟩,
        { l with
          cache := l.cache.use text compiled
          statements := l.statements ++ [l.nextStatement]
          nextStatement := l.nextStatement + 1 })

/-- What a statement of a kind produces. -/
def outcomeOf (kind : StatementKind) (result : SqlRows) (database : Database) : Outcome :=
  match kind with
  | .select =>
      .rows (ResultSet.ofRows result.columns (result.rows.map fun row => row.map Datum.toScalar))
  | .insert => .inserted database.lastRow
  | .update | .delete | .other => .affected (UInt64.ofNat database.changed)

/-- Compile and execute a statement. -/
def run (sql : String) (kind : StatementKind) (bindings : List Scalar) (l : Link) :
    Except Fault Outcome × Link :=
  let text := trimmed sql
  match l.cache.compile l.database text with
  | .error message => (.error (.engine message), l)
  | .ok compiled =>
      let (result, compiled, database) :=
        compiled.execute kind.returnsRows (bindings.map Scalar.toDatum) l.database
      (match result with
        | .ok result => .ok (outcomeOf kind result database)
        | .error fault => .error (.engine fault.message),
        { l with database, cache := l.cache.use text compiled })

/-- Execute a prepared statement. -/
def executeOn (handle : StatementHandle) (bindings : List Scalar) (l : Link) :
    Except Fault Outcome × Link :=
  if l.statements.contains handle.id then run handle.sql handle.kind bindings l
  else
    (.error (.execution ("statement " ++ Text.natural handle.id.toNat
      ++ " was not prepared on this connection")), l)

/-- Roll back before a connection is closed; a failure of that is only reported. -/
def rollbackAtClose (number : Nat) (s : σ) : σ :=
  if ((link number).get s).inTransaction then
    match onOpen number (command .rollback fun _ => false) s with
    | (.ok (), s) => s
    | (.error fault, s) =>
        Host.report
          { level := .warn
            message := "rollback on close failed"
            fields := [("error", fault.message)] } s
  else s

/-- End a connection. -/
def close (number : Nat) : Task σ Unit :=
  Task.change fun s =>
    Signal.finishAt (signal number) .closed <|
      rollbackAtClose number <| (link number).modify (fun l => { l with statements := [] }) s

/-! ## Going back to the pool -/

/-- Wake the one who has waited longest for a connection. -/
def notifyOne (s : σ) : σ :=
  match (EngineHost.books.get s).waiting with
  | [] => s
  | (_, task) :: rest =>
      Host.wake task (EngineHost.books.modify (fun b => { b with waiting := rest }) s)

/-- **A connection comes back to the pool**, which keeps it unless it is broken. -/
def putBack (number : Nat) (s : σ) : σ :=
  if ((link number).get s).isBroken then
    notifyOne <|
      EngineHost.books.modify (fun b => { b with count := b.count - 1 }) <|
        (link number).modify (fun l => { l with place := .gone }) s
  else
    notifyOne <|
      EngineHost.books.modify (fun b => { b with idle := b.idle ++ [number] }) <|
        (link number).modify (fun l => { l with place := .idle }) s

/-- Nobody holds the connection any longer. -/
def drop (number : Nat) (s : σ) : σ :=
  match ((link number).get s).place with
  | .owned => (link number).modify (fun l => { l with place := .gone }) s
  | .lent => putBack number s
  | .idle | .gone => s

/-- **A connection to the SQL engine.**  Each call is made as a whole or not at all: that one is
given up while the engine is still at work on it is not modelled. -/
def connection (number : Nat) : Connection σ where
  connect := .step (onOpen number fun l => (.ok (), l))
  begin := .step (onOpen number (command .begin fun _ => true))
  commit := .step (onOpen number (command .commit fun _ => false))
  rollback := .step (onOpen number (command .rollback fun _ => false))
  prepare sql kind := .step (onOpen number (prepareOn sql kind))
  execute handle bindings := .step (onOpen number (executeOn handle bindings))
  destroy handle := (link number).modify fun l =>
    { l with statements := l.statements.filter (· != handle.id) }
  watch :=
    { status := fun s => ((link number).get s).signal.status
      gone := fun s => ((link number).get s).place = .gone
      register := fun self => (signal number).modify (Signal.join self) }
  close := close number
  drop := drop number

/-- **Run statements one after the other**, past everything that the connection keeps note of. -/
def runScript (number : Nat) (script : String) : Attempt σ Unit :=
  .step <| onOpen number fun l =>
    match l.database.runScript script with
    | (.ok (), database) => (.ok (), { l with database })
    | (.error message, database) => (.error (.engine message), { l with database })

end Engine

end Transactional
