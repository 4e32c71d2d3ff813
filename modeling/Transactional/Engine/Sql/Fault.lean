import Transactional.Engine.Sql.Basic
import Transactional.Engine.Sql.Script
import Transactional.Text.Numeral

/-!
# What is wrong with a statement

A statement can be refused when it is read, when it is compared with the tables that exist, and when
it is executed.

* `SqlFault` — the reasons.
* `SqlFault.message` — what is said about one.
* `SqlFault.messageIn` — the same with the text and the place, for the reasons that have one.
-/

namespace Transactional

/-- **Why a statement is refused.** -/
inductive SqlFault where
  | unexpected (lexeme : Sql.Lexeme)
  | incomplete
  | several
  | nothing
  | tableExists (table : TableName)
  /-- The table to be created would have a name that is kept for something else. -/
  | reservedName (table : String)
  | noDatabase (database : String)
  | duplicateColumn (column : String)
  | noTable (table : TableName)
  | noColumnIn (table : TableName) (column : String)
  | noColumn (column : String)
  | noComparedColumn (column : String)
  | valueCount (values columns : Nat)
  | mismatch
  | notNull (table column : String)
  | notUnique (table key : String)
  | wrongCount (given needed : Nat)
  | gaveRows
  | columnIndex (index : Nat)
  | alreadyOpen
  | nothingToCommit
  | nothingToRollBack
deriving DecidableEq

namespace SqlFault

/-- **What is said about it.**  More than one value too many are not counted. -/
def message : SqlFault → String
  | .unexpected lexeme =>
      if lexeme.kind = .unknown then "unrecognized token: \"" ++ lexeme.text ++ "\""
      else "near \"" ++ lexeme.text ++ "\": syntax error"
  | .incomplete => "incomplete input"
  | .several => "Multiple statements provided"
  | .nothing => "not an error"
  | .tableExists table => "table " ++ table.written ++ " already exists"
  | .reservedName table => "object name reserved for internal use: " ++ table
  | .noDatabase database => "unknown database " ++ database
  | .duplicateColumn column => "duplicate column name: " ++ column
  | .noTable table => "no such table: " ++ table.full
  | .noColumnIn table column =>
      "table " ++ table.other.getD table.full ++ " has no column named " ++ column
  | .noColumn column | .noComparedColumn column => "no such column: " ++ column
  | .valueCount values columns =>
      Text.natural values ++ " values for " ++ Text.natural columns ++ " columns"
  | .mismatch => "datatype mismatch"
  | .notNull table column => "NOT NULL constraint failed: " ++ table ++ "." ++ column
  | .notUnique table key => "UNIQUE constraint failed: " ++ table ++ "." ++ key
  | .wrongCount given needed =>
      "Wrong number of parameters passed to query. Got " ++ Text.natural (min given (needed + 1))
        ++ ", needed " ++ Text.natural needed
  | .gaveRows => "Execute returned results - did you mean to call query?"
  | .columnIndex index => "Invalid column index: " ++ Text.natural index
  | .alreadyOpen => "cannot start a transaction within a transaction"
  | .nothingToCommit => "cannot commit - no transaction is active"
  | .nothingToRollBack => "cannot rollback - no transaction is active"

/-- The lexeme of a statement that the reason is about: the unexpected one, the name of the table to
be created or that of its database, or the name behind `WHERE`. -/
def lexeme? (text : String) : SqlFault → Option Sql.Lexeme
  | .unexpected lexeme => some lexeme
  | .tableExists table =>
      (Sql.statementLexemes text)[if table.database.isSome then 4 else 2]?
  | .noDatabase _ => (Sql.statementLexemes text)[2]?
  | .noComparedColumn _ =>
      ((Sql.statementLexemes text).dropWhile fun l => !l.isWord "WHERE")[1]?
  | _ => none

/-- **What is said about it while a text is being read**, with the text and the place if the reason
is about a lexeme. -/
def messageIn (text : String) (fault : SqlFault) : String :=
  match fault.lexeme? text with
  | some lexeme => fault.message ++ " in " ++ text ++ " at offset " ++ Text.natural lexeme.start
  | none => fault.message

end SqlFault

end Transactional
