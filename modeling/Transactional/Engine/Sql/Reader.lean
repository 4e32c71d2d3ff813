import Transactional.Engine.Sql.Basic
import Transactional.Engine.Sql.Fault

/-!
# Reading SQL

A reader takes lexemes from the front of those that are left.  If it cannot go on, it says which
ones were left then, the unexpected one first; none were left if the text ends too early.

* `Sql.Reader` — readers.
* `Sql.ofText` — the statement that a text writes.
* `Sql.newTable?` — the table that it goes about creating.
-/

namespace Transactional.Sql

/-- **Readers**: they take lexemes from the front, or stop in front of an unexpected one. -/
abbrev Reader := StateT (List Lexeme) (Except (List Lexeme))

namespace Reader

/-! ## Lexemes -/

/-- Stop here. -/
def stop : Reader α :=
  fun rest => .error rest

/-- Take the next lexeme if it meets a condition. -/
def takeIf (p : Lexeme → Bool) : Reader Bool := fun
  | [] => .ok (false, [])
  | l :: rest => .ok (if p l then (true, rest) else (false, l :: rest))

/-- Take a character if it is the next lexeme. -/
def takeMark (c : Char) : Reader Bool :=
  takeIf (·.isMark c)

/-- Take a word if it is the next lexeme. -/
def takeWord (word : String) : Reader Bool :=
  takeIf (·.isWord word)

/-- Read a character. -/
def mark (c : Char) : Reader Unit := do
  unless ← takeMark c do stop

/-- Read words, in this order. -/
def words : List String → Reader Unit
  | [] => return ()
  | word :: rest => do
      unless ← takeWord word do stop
      words rest

/-- Take the sign of equality, which may be written twice. -/
def equals : Reader Unit := do
  unless ← takeIf fun l => l.isMark '=' || (l.kind = .mark && l.text == "==") do stop

/-- Read a name. -/
def name : Reader String := fun
  | [] => .error []
  | l :: rest =>
      match l.name? with
      | some n => .ok (n, rest)
      | none => .error (l :: rest)

/-- How the next lexeme is written; it is left where it is. -/
def written : Reader String := do
  return ((← get).head?.map (·.text)).getD ""

/-- Read the name of a table, which may stand behind that of a database. -/
def table : Reader TableName := do
  let shown ← written
  let first ← name
  if ← takeMark '.' then
    let shown ← written
    return { database := some first, name := ← name, written := shown }
  else return { database := none, name := first, written := shown }

/-- Read another name behind `AS`, if there is one. -/
def otherName : Reader (Option String) := do
  if ← takeWord "AS" then return some (← name) else return none

/-- Read another name, with `AS` or without, if there is one. -/
def label : Reader (Option String) := do
  match ← otherName, (← get).head? with
  | some n, _ => return some n
  | none, some l =>
      if l.name?.isSome && !joiningWords.any l.isWord then return some (← name) else return none
  | none, none => return none

/-- Read a whole number, and give it as it is written, too. -/
def number : Reader (Nat × String) := fun
  | [] => .error []
  | l :: rest =>
      match l.kind, l.text.toNat? with
      | .number, some n => .ok ((n, l.text), rest)
      | _, _ => .error (l :: rest)

/-- Read the end of a statement. -/
def finish : Reader Unit := do
  let _ ← takeMark ';'
  unless (← get).isEmpty do stop

/-! ## Lists -/

/-- Read things between commas, at most so many. -/
def listUpTo (item : Reader α) : Nat → Reader (List α)
  | 0 => stop
  | n + 1 => do
      let first ← item
      if ← takeMark ',' then return first :: (← listUpTo item n) else return [first]

/-- **Read things between commas.**  There are no more of them than lexemes. -/
def list (item : Reader α) : Reader (List α) := do
  listUpTo item (← get).length

/-- Read a column that is set. -/
def setting : Reader String := do
  let column ← name
  equals
  mark '?'
  return column

/-- Read a column of a new table. -/
def column : Reader Column := do
  let name ← name
  if ← takeWord "NOT" then
    words ["NULL"]
    return ⟨name, true⟩
  else return ⟨name, false⟩

/-- Read a value of a select without a table. -/
def item : Reader (SqlItem × String) := do
  if ← takeMark '?' then return (.placeholder, (← label).getD "?")
  else
    let (n, written) ← number
    return (.number n, (← label).getD written)

/-- Read a condition, if there is one. -/
def condition : Reader (Option String) := do
  if ← takeWord "WHERE" then return some (← setting) else return none

/-! ## Statements -/

/-- Read what follows `CREATE`, as far as the bracket behind the name. -/
def newTable : Reader TableName := do
  words ["TABLE"]
  let table ← table
  mark '('
  return table

/-- Read what follows `CREATE`. -/
def create : Reader Sql := do
  let table ← newTable
  let key ← name
  words ["INTEGER", "PRIMARY", "KEY"]
  let columns ← if ← takeMark ',' then list column else pure []
  mark ')'
  return .createTable table key columns

/-- Read what follows `INSERT`. -/
def insert : Reader Sql := do
  words ["INTO"]
  let table ← table
  let table := { table with other := ← otherName }
  mark '('
  let columns ← list name
  mark ')'
  words ["VALUES"]
  mark '('
  let given ← list (mark '?')
  mark ')'
  return .insert table columns given.length

/-- Read what follows `UPDATE`. -/
def update : Reader Sql := do
  let table ← table
  let _ ← otherName
  words ["SET"]
  let columns ← list setting
  return .update table columns (← condition)

/-- Read what follows `DELETE`. -/
def delete : Reader Sql := do
  words ["FROM"]
  let table ← table
  let _ ← otherName
  return .delete table (← condition)

/-- Read what follows `SELECT *`. -/
def rows : Reader Sql := do
  words ["FROM"]
  let table ← table
  let _ ← label
  return .selectRows table (← condition)

/-- Read what follows the word for counting. -/
def count (word : String) : Reader Sql := do
  mark '('
  mark '*'
  mark ')'
  let shown := (← label).getD (word ++ "(*)")
  words ["FROM"]
  let table ← table
  let _ ← label
  return .count table shown (← condition)

/-- Read what follows `SELECT`. -/
def select : Reader Sql := do
  if ← takeMark '*' then rows
  else
    let word ← written
    if ← takeWord "COUNT" then count word else return .values (← list item)

/-- Pass over the word that may stand behind those that begin or end a transaction, and over a name
behind it, which means nothing. -/
def transaction : Reader Unit := do
  if ← takeWord "TRANSACTION" then
    let _ ← takeIf (·.name?.isSome)

/-- Read what follows `BEGIN`.  All ways to begin a transaction are one way for a database that
nobody else uses. -/
def begin : Reader Sql := do
  unless ← takeWord "DEFERRED" do
    unless ← takeWord "IMMEDIATE" do
      let _ ← takeWord "EXCLUSIVE"
  transaction
  return .begin

/-- Read what follows the word that ends a transaction in this way. -/
def ending (statement : Sql) : Reader Sql := do
  transaction
  return statement

/-- The readers by the words that statements begin with. -/
def byWord : List (String × Reader Sql) :=
  [("CREATE", create), ("INSERT", insert), ("UPDATE", update), ("DELETE", delete),
    ("SELECT", select), ("BEGIN", begin), ("COMMIT", ending .commit), ("END", ending .commit),
    ("ROLLBACK", ending .rollback)]

/-- Read what begins with one of some words. -/
def oneOf : List (String × Reader α) → Reader α
  | [] => stop
  | (word, read) :: others => do
      if ← takeWord word then read else oneOf others

/-- Read a statement up to its end. -/
def statement : Reader Sql := do
  let statement ← oneOf byWord
  finish
  return statement

end Reader

/-- The table that a text goes about creating, whatever follows the bracket behind its name. -/
def newTable? (text : String) : Option TableName :=
  match (do Reader.words ["CREATE"]; Reader.newTable) (statementLexemes text) with
  | .ok (table, _) => some table
  | .error _ => none

/-- **The statement that a text writes**; there is none in a text of blanks and semicolons.  What
stands behind the first statement is not read. -/
def ofText (text : String) : Except SqlFault (Option Sql) :=
  match statementLexemes text with
  | [] => .ok none
  | lexemes =>
      match Reader.statement lexemes with
      | .ok (statement, _) => .ok (some statement)
      | .error [] => .error .incomplete
      | .error (lexeme :: _) => .error (.unexpected lexeme)

end Transactional.Sql
