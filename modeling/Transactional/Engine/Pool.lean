import Transactional.Engine.Connection
import Transactional.Manager
import Transactional.Options
import Transactional.StatementLog

/-!
# The pool of the SQL engine

Connections are opened on demand up to a maximum, and used again when they come back.  One that
comes back with a transaction open, or that has ended, is let go of.  A checkout that finds no
connection at rest has another one opened by a job of its own and takes the first that comes, be it
that one or one that came back; it waits for a while and then gives up.

* `Engine.Settings` — the maximum and the patience of a pool, neither of them zero.
* `Engine.prepare` — the settings that options describe, or why there can be no such pool.
* `Engine.checkout`, `Engine.replenish` — taking a connection out, and opening another one.
* `Engine.pool` — the pool.
-/

namespace Transactional.Engine

/-- **The settings of a pool.**  A pool without capacity and one without patience are not
possible. -/
structure Settings where
  maximum : Nat
  patience : Nat
  maximum_pos : 0 < maximum
  patience_pos : 0 < patience

/-- **Why a pool cannot be built.** -/
inductive Refusal where
  | fault (fault : Fault)
  | demand (message : String)
deriving DecidableEq

/-- The settings that options describe, as far as the pool itself is concerned. -/
def Settings.ofOptions (options : Options) : Except Refusal Settings :=
  if hm : 0 < options.maxConnections.toNat then
    if hp : 0 < options.connectionTimeoutMs.toNat then
      .ok ⟨options.maxConnections.toNat, options.connectionTimeoutMs.toNat, hm, hp⟩
    else .error (.demand "connection_timeout must be non-zero")
  else .error (.demand "max_size must be greater than zero!")

/-- The paths that mean a database of which there is no file. -/
def withoutFile : List String := [":memory:", ""]

/-- **Whether a database can be opened** at a path, in which there must not be a NUL. -/
def openable (path : String) : Except Fault Unit :=
  let visible := path.toList.takeWhile (·.toNat ≠ 0)
  if visible.length < path.length then
    .error (.engine ("nul byte found in provided data at position: "
      ++ Text.natural (String.ofList visible).utf8ByteSize))
  else if withoutFile.contains path || ({} : Disk).canWrite path then .ok ()
  else .error (.engine ("unable to open database file: " ++ path))

/-- **The settings that options describe.**  The database is tried first, then the options are
looked at, and last come the demands of the pool. -/
def prepare (options : Options) : Except Refusal Settings := do
  match openable options.target with
  | .error fault => .error (.fault fault)
  | .ok () =>
      match options.validate with
      | .error fault => .error (.fault fault)
      | .ok () => Settings.ofOptions options

variable [EngineHost σ]

/-- Whether another connection should be opened: a checkout is under way for which none is being
opened, and the pool may have more. -/
def isShort (settings : Settings) (books : Books) : Bool :=
  books.opening < books.looking && books.count + books.opening < settings.maximum

/-- Have another connection opened, if the pool is short of one. -/
def order (settings : Settings) (s : σ) : σ :=
  if isShort settings (EngineHost.books.get s) then
    Host.spawn .replenish (EngineHost.books.modify (fun b => { b with opening := b.opening + 1 }) s)
  else s

/-- **Open another connection** and put it at rest. -/
def replenish : Task σ Unit :=
  Task.change fun s : σ =>
    let (number, s) := newLink .idle s
    notifyOne <| EngineHost.books.modify
      (fun b => { b with
        idle := b.idle ++ [number], count := b.count + 1, opening := b.opening - 1 }) s

/-- **Take a connection**: the one that has rested longest, or a new one if none is at rest.  One
that has rested is taken without being tried first, and opening a new one does not fail. -/
def take (s : σ) : Nat × σ :=
  let books := EngineHost.books.get s
  match books.idle with
  | number :: rest =>
      (number, (link number).modify (fun l => { l with place := .lent }) <|
        EngineHost.books.set { books with idle := rest } s)
  | [] => newLink .lent (EngineHost.books.set { books with count := books.count + 1 } s)

/-- Whether somebody stands in line with a ticket. -/
def standsInLine (ticket : Nat) (s : σ) : Bool :=
  (EngineHost.books.get s).waiting.any (·.1 == ticket)

/-- Leave the line. -/
def leaveLine (ticket : Nat) : σ → σ :=
  EngineHost.books.modify fun b => { b with waiting := b.waiting.filter (·.1 != ticket) }

/-- Waiting for a connection at rest.  Whoever gets in line sees to it that a connection is on its
way, if there may be more of them.  Whoever was called and gives up calls the next one. -/
def inLine (settings : Settings) (ticket : Nat) : Wait σ where
  ready s := !(EngineHost.books.get s).idle.isEmpty
  register self s :=
    if standsInLine ticket s then s
    else
      order settings <|
        EngineHost.books.modify (fun b => { b with waiting := b.waiting ++ [(ticket, self)] }) s
  abandon s := if standsInLine ticket s then leaveLine ticket s else notifyOne s

/-- A checkout is under way. -/
def beginLooking : σ → σ :=
  EngineHost.books.modify fun b => { b with looking := b.looking + 1 }

/-- A checkout is no longer under way. -/
def endLooking : σ → σ :=
  EngineHost.books.modify fun b => { b with looking := b.looking - 1 }

/-- **Check a connection out**, waiting for one, but not for ever. -/
def checkout (settings : Settings) : Attempt σ Nat :=
  .of <| .act id fun s =>
    if (EngineHost.books.get s).shut then .done (.error (.pool "pool has been shut down"))
    else
      .act beginLooking fun _ =>
        (Task.holding endLooking <| Task.within settings.patience <|
          (Task.step Host.takeTicket).bind fun ticket =>
            .wait (inLine settings ticket) <| .act (leaveLine ticket) fun _ =>
              Task.step take).bind fun
          | some number => .done (.ok number)
          | none => .done (.error (.pool "checkout failed: Timed out in bb8"))

/-- How many connections belong to the pool. -/
def connections (s : σ) : Nat :=
  let books := EngineHost.books.get s
  if books.shut then 0 else books.count

/-- The structural text of the pool. -/
def structural (s : σ) : String :=
  Text.fields "Bb8Driver" [("open", Text.truth (!(EngineHost.books.get s).shut))]

/-- **The pool.** -/
def pool (settings : Settings) : Pool σ where
  connection := connection
  create := Attempt.always (Task.step (newLink .owned))
  checkout := checkout settings
  replenish := replenish
  giveBack conn := conn.drop
  shutDown := Task.change (EngineHost.books.modify fun b => { b with shut := true })

end Transactional.Engine
