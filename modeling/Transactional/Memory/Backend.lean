import Transactional.Connection
import Transactional.Semaphore

/-!
# The scripted backend

A stand-in for a database server.  What a statement produces is scripted by its text; a statement
without a script succeeds with a default of its kind.  Failures can be injected, connections can be
ended from outside, and every call is noted down in a journal, also one that fails.

* `Memory.Backend` — scripts, failures, journal and connections.
* `Memory.Call` — one entry of the journal.
* `Memory.connection` — a connection to the backend.
* `Memory.terminate` — the server drops a connection.
-/

namespace Transactional.Memory

/-- **One call on a connection**, which goes by its number. -/
inductive Call where
  | connect (number : Nat)
  | begin (number : Nat)
  | commit (number : Nat)
  | rollback (number : Nat)
  | prepare (number : Nat) (sql : String)
  | execute (number : Nat) (sql : String) (bindings : List Scalar)
  | destroy (number : Nat) (sql : String)
  | close (number : Nat)

/-- The connection that a call was made on. -/
def Call.number : Call → Nat
  | .connect n | .begin n | .commit n | .rollback n | .prepare n _ | .execute n _ _ | .destroy n _
  | .close n => n

/-- **Failures that have been injected**, by the calls that they strike. -/
structure Failures where
  connect : Option String := none
  begin : Option String := none
  commit : Option String := none
  rollback : Option String := none

/-- **What the backend knows of a connection.** -/
structure Link where
  signal : Signal := {}
  statements : List UInt64 := []
  nextStatement : UInt64 := 1
  hasPermit : Bool := false
  alive : Bool := true

instance : Inhabited Link := ⟨{}⟩

/-- **The backend.** -/
structure Backend where
  responses : List (String × Except String Outcome) := []
  failures : Failures := {}
  journal : List Call := []
  links : Table Nat Link := {}
  linkCount : Nat := 0
  lastInsertId : Int64 := 0

namespace Backend

/-! ## Scripting -/

/-- Put a response in place of the one for the same text. -/
def putResponse (sql : String) (response : Except String Outcome) :
    List (String × Except String Outcome) → List (String × Except String Outcome)
  | [] => [(sql, response)]
  | (key, old) :: rest =>
      if key = sql then (sql, response) :: rest else (key, old) :: putResponse sql response rest

/-- Script what a statement produces, or with which message it fails. -/
def respond (sql : String) (response : Except String Outcome) (backend : Backend) : Backend :=
  { backend with responses := putResponse sql response backend.responses }

/-- Change the injected failures. -/
def inject (f : Failures → Failures) (backend : Backend) : Backend :=
  { backend with failures := f backend.failures }

/-- Remove every injected failure; responses that do not fail stay. -/
def clearFailures (backend : Backend) : Backend :=
  { backend with
    failures := {}
    responses := backend.responses.filter fun entry => entry.2.toBool }

/-- The structural text. -/
def structural (backend : Backend) : String :=
  Text.openFields "MemoryBackend"
    [("connections", Text.natural backend.linkCount),
      ("journal", Text.natural backend.journal.length)]

/-! ## Answering -/

/-- Note down a call. -/
def note (call : Call) (backend : Backend) : Backend :=
  { backend with journal := backend.journal ++ [call] }

/-- What an unscripted statement of a kind produces. -/
def byDefault (kind : StatementKind) (backend : Backend) : Outcome × Backend :=
  match kind with
  | .select => (.rows {}, backend)
  | .insert =>
      let number := backend.lastInsertId + 1
      (.inserted number, { backend with lastInsertId := number })
  | .update | .delete | .other => (.affected 1, backend)

/-- **What executing a statement produces.** -/
def answer (sql : String) (kind : StatementKind) (backend : Backend) :
    Except Fault Outcome × Backend :=
  match backend.responses.find? (·.1 == sql) with
  | some (_, .ok outcome) => (.ok outcome, backend)
  | some (_, .error message) => (.error (.execution message), backend)
  | none =>
      let (outcome, backend) := backend.byDefault kind
      (.ok outcome, backend)

end Backend

/-- The structural text of a connection. -/
def Link.structural (number : Nat) (link : Link) : String :=
  Text.openFields "MemoryConnection"
    [("id", Text.natural number), ("status", link.signal.status.structural)]

/-- **The pool's accounts.** -/
structure Accounts where
  permits : Semaphore := { free := 0 }
  acquired : Nat := 0
  released : Nat := 0

end Memory

/-- A state with a scripted backend and a pool in front of it. -/
class MemoryHost (σ : Type) extends Host σ where
  backend : Cell σ Memory.Backend
  accounts : Cell σ Memory.Accounts

namespace Memory

variable [MemoryHost σ]

/-- The backend's entry for a connection. -/
def link (number : Nat) : Cell σ Link :=
  MemoryHost.backend.comp <|
    Cell.comp ⟨Backend.links, fun v b => { b with links := v }, fun _ _ => rfl, fun _ _ _ => rfl⟩
      (Table.entry number)

/-- The signal of a connection. -/
def signal (number : Nat) : Cell σ Signal :=
  (link number).comp
    ⟨Link.signal, fun v l => { l with signal := v }, fun _ _ => rfl, fun _ _ _ => rfl⟩

/-- The permits of the pool. -/
def permits : Cell σ Semaphore :=
  MemoryHost.accounts.comp
    ⟨Accounts.permits, fun v a => { a with permits := v }, fun _ _ => rfl, fun _ _ _ => rfl⟩

/-! ## Connections -/

/-- **Open a connection**, with a permit of the pool or without. -/
def newLink (hasPermit : Bool) (s : σ) : Nat × σ :=
  let number := (MemoryHost.backend.get s).linkCount + 1
  (number, (link number).set { hasPermit } <|
    MemoryHost.backend.modify (fun b => { b with linkCount := number }) s)

/-- The fault of a connection that has ended. -/
def hasEnded (number : Nat) : Fault :=
  .connection ("memory connection " ++ Text.natural number ++ " has ended")

/-- Note down a call. -/
def note (call : Call) : σ → σ :=
  MemoryHost.backend.modify (Backend.note call)

/-- Note down a call, and answer it if the connection has not ended. -/
def answering (number : Nat) (call : Call) (answer : σ → Except Fault α × σ) : Attempt σ α :=
  .step fun s =>
    let s := note call s
    if ((link number).get s).signal.status.isTerminal then (.error (hasEnded number), s)
    else answer s

/-- A call that does nothing but fail if it is told to. -/
def plainCall (number : Nat) (call : Call) (pick : Failures → Option String) : Attempt σ Unit :=
  answering number call fun s =>
    match pick (MemoryHost.backend.get s).failures with
    | some message => (.error (.connection message), s)
    | none => (.ok (), s)

/-- Prepare a statement. -/
def prepare (number : Nat) (sql : String) (kind : StatementKind) : Attempt σ StatementHandle :=
  answering number (.prepare number sql) fun s =>
    let handle : StatementHandle := ⟨((link number).get s).nextStatement, sql, kind⟩
    (.ok handle, (link number).modify
      (fun l => { l with
        statements := l.statements ++ [handle.id]
        nextStatement := l.nextStatement + 1 }) s)

/-- Execute a statement. -/
def execute (number : Nat) (handle : StatementHandle) (bindings : List Scalar) :
    Attempt σ Outcome :=
  answering number (.execute number handle.sql bindings) fun s =>
    if ((link number).get s).statements.contains handle.id then
      let (outcome, backend) := (MemoryHost.backend.get s).answer handle.sql handle.kind
      (outcome, MemoryHost.backend.set backend s)
    else
      (.error (.execution ("statement " ++ Text.natural handle.id.toNat
        ++ " is not prepared on connection " ++ Text.natural number)), s)

/-- Destroy a statement, if it is alive. -/
def destroy (number : Nat) (handle : StatementHandle) (s : σ) : σ :=
  if ((link number).get s).statements.contains handle.id then
    note (.destroy number handle.sql) <|
      (link number).modify
        (fun l => { l with statements := l.statements.filter (· != handle.id) }) s
  else s

/-- End a connection. -/
def close (number : Nat) : Task σ Unit :=
  Task.change fun s =>
    Signal.finishAt (signal number) .closed <|
      (link number).modify (fun l => { l with statements := [] }) (note (.close number) s)

/-- Nobody holds the connection any longer: those who watch it hear of that, and its permit goes
back to the pool. -/
def drop (number : Nat) (s : σ) : σ :=
  let l := (link number).get s
  if l.alive then
    let s := (link number).modify (fun l => { l with alive := false, hasPermit := false }) s
    let s := Host.wakeAll l.signal.waiting s
    if l.hasPermit then Semaphore.release permits s else s
  else s

/-- **A connection to the backend.** -/
def connection (number : Nat) : Connection σ where
  connect := plainCall number (.connect number) Failures.connect
  begin := plainCall number (.begin number) Failures.begin
  commit := plainCall number (.commit number) Failures.commit
  rollback := plainCall number (.rollback number) Failures.rollback
  prepare := prepare number
  execute := execute number
  destroy := destroy number
  watch :=
    { status := fun s => ((link number).get s).signal.status
      gone := fun s => !((link number).get s).alive
      register := fun self => (signal number).modify (Signal.join self) }
  close := close number
  drop := drop number

/-! ## The server's side -/

/-- **The server drops a connection**, if somebody still holds it. -/
def terminate (number : Nat) (s : σ) : σ :=
  if 1 ≤ number ∧ number ≤ (MemoryHost.backend.get s).linkCount ∧ ((link number).get s).alive then
    Signal.finishAt (signal number) .failed s
  else s

/-- The server drops every connection. -/
def terminateAll (s : σ) : σ :=
  (List.range (MemoryHost.backend.get s).linkCount).foldl (fun s n => terminate (n + 1) s) s

end Transactional.Memory
