import Transactional.Engine.Database

/-!
# Compiled statements

A text is compiled once: its statement is read and compared with the tables that exist.  The sixteen
compiled statements that were used last are kept, and a text that is among them is not compiled
again.  Since the tables may have changed meanwhile, a statement is compared with them once more
when it is executed; but the columns that it shows are still those of the last time.

* `Compiled` — a compiled statement; `Compiled.ofText` compiles one.
* `Compiled.execute` — executing one.
* `StatementCache` — the ones that were used last.
-/

namespace Transactional

/-- **A compiled statement.** -/
structure Compiled where
  statement : Option Sql
  /-- The names of the columns that it showed when it was compared with the tables last. -/
  columns : List String
deriving DecidableEq

/-- **What a statement gives**: rows under the names of columns. -/
structure SqlRows where
  columns : List String := []
  rows : List (List Datum) := []
deriving DecidableEq

namespace Compiled

/-- Compile the first statement of a text.  Whether a table can be created is asked before the rest
of the statement is read. -/
def first (database : Database) (text : String) : Except SqlFault Compiled := do
  match Sql.newTable? text with
  | some table => database.checkNew table
  | none => .ok ()
  match ← Sql.ofText text with
  | none => .ok ⟨none, []⟩
  | some statement => do
      database.check statement
      .ok ⟨some statement, database.shownColumns statement⟩

/-- Compile a text, given from the beginning of each of its statements on. -/
def ofTexts (database : Database) : List String → Except String Compiled
  | [] => .ok ⟨none, []⟩
  | text :: rest => do
      let compiled ← (first database text).mapError (SqlFault.messageIn text)
      let next ← ofTexts database rest
      if next.statement.isSome then .error SqlFault.several.message else .ok compiled

/-- **Compile a text**, which must not hold a second statement. -/
def ofText (database : Database) (text : String) : Except String Compiled :=
  ofTexts database (Sql.textsFromStatements text)

/-- The names of columns and the rows that one asked for rows gives.  It has the columns of the last
time; if there are fewer now, the first row that is read fails. -/
def answer (known current : List String) (rows : List (List Datum)) : Except SqlFault SqlRows :=
  if current.length < known.length && !rows.isEmpty then .error (.columnIndex current.length)
  else .ok ⟨known, rows.map (·.take known.length)⟩

/-- **Execute a compiled statement**, either for its rows or for its effect; one that gives rows
cannot be executed for its effect. -/
def execute (compiled : Compiled) (forRows : Bool) (params : List Datum) (database : Database) :
    Except SqlFault SqlRows × Compiled × Database :=
  let needed := (compiled.statement.map Sql.placeholders).getD 0
  if params.length ≠ needed then (.error (.wrongCount params.length needed), compiled, database)
  else
    match compiled.statement with
    | none => (.error .nothing, compiled, database)
    | some statement =>
        match database.check statement with
        | .error fault => (.error fault, compiled, database)
        | .ok () =>
            let current := database.shownColumns statement
            let (result, database) := database.perform params statement
            let result := result >>= fun rows =>
              if forRows then answer compiled.columns current rows
              else if rows.isEmpty then .ok {}
              else .error .gaveRows
            (result, { compiled with columns := current }, database)

end Compiled

/-- **The compiled statements that were used last**, by their texts, the last one first. -/
structure StatementCache where
  entries : List (String × Compiled) := []

namespace StatementCache

/-- How many statements are kept. -/
def capacity : Nat := 16

/-- The statement of a text. -/
def get? (cache : StatementCache) (text : String) : Option Compiled :=
  (cache.entries.find? (·.1 == text)).map (·.2)

/-- **Note that a statement was used**; the one that was not used for longest may have to go. -/
def use (cache : StatementCache) (text : String) (compiled : Compiled) : StatementCache :=
  if compiled.statement.isNone then cache
  else ⟨((text, compiled) :: cache.entries.filter (·.1 != text)).take capacity⟩

/-- The compiled statement of a text, compiled now if it is not kept. -/
def compile (cache : StatementCache) (database : Database) (text : String) :
    Except String Compiled :=
  match cache.get? text with
  | some compiled => .ok compiled
  | none => Compiled.ofText database text

end StatementCache

namespace Database

/-- Run the statements of a script, given from the beginning of each of them on. -/
def runTexts (database : Database) : List String → Except String Unit × Database
  | [] => (.ok (), database)
  | text :: rest =>
      match Compiled.first database text with
      | .error fault => (.error (fault.messageIn text), database)
      | .ok compiled =>
          match compiled.statement with
          | none => (.ok (), database)
          | some statement =>
              match database.perform (List.replicate statement.placeholders .null) statement with
              | (.error fault, database) => (.error fault.message, database)
              | (.ok _, database) => runTexts database rest

/-- **Run the statements of a script**, one after the other, until one fails; what the others did
stays done.  Placeholders have no value. -/
def runScript (database : Database) (script : String) : Except String Unit × Database :=
  database.runTexts (Sql.textsFromStatements script)

end Database

end Transactional
