import Transactional.Scalar

/-!
# Statements

SQL text together with what is known about it.  What executing a statement produces is told by its
kind, which comes from the caller and is never guessed from the text.

* `StatementKind` — what a statement produces.
* `StatementHandle` — a statement prepared on a connection, by its number there.
* `BoundStatement` — SQL text, its parameters and its kind.
* `renderStatement` — the text with the parameters substituted, for reading.
-/

namespace Transactional

/-- **What executing a statement produces.** -/
inductive StatementKind where
  | select
  | insert
  | update
  | delete
  | other
deriving DecidableEq

namespace StatementKind

/-- Whether the statement produces rows. -/
def returnsRows : StatementKind → Bool
  | .select => true
  | _ => false

/-- The name of a kind. -/
def name : StatementKind → String
  | .select => "Select"
  | .insert => "Insert"
  | .update => "Update"
  | .delete => "Delete"
  | .other => "Other"

/-- All kinds, in their usual order. -/
def all : List StatementKind :=
  [.select, .insert, .update, .delete, .other]

end StatementKind

/-- **A statement prepared on a connection.**  The number is the connection's own; the text and the
kind travel along so that the handle can be logged and executed. -/
structure StatementHandle where
  id : UInt64
  sql : String
  kind : StatementKind
deriving DecidableEq

/-- The structural text of a handle. -/
def StatementHandle.structural (handle : StatementHandle) : String :=
  Text.fields "StatementHandle"
    [("id", Text.natural handle.id.toNat), ("sql", Text.quoted handle.sql),
      ("kind", handle.kind.name)]

/-- **A statement with its parameters.** -/
structure BoundStatement where
  kind : StatementKind
  sql : String
  params : List Scalar := []

/-- Substitute values for the placeholders of a text, in order. -/
def renderChars : List Char → List Scalar → List Char
  | [], _ => []
  | c :: rest, values =>
      if c = '?' then
        match values with
        | [] => c :: renderChars rest []
        | value :: others => value.inline.toList ++ renderChars rest others
      else c :: renderChars rest values

/-- **The statement as a reader of a log sees it**: every placeholder that has a parameter is
replaced by the parameter's inline text.  A placeholder inside a substituted text stays. -/
def renderStatement (sql : String) (params : List Scalar) : String :=
  String.ofList (renderChars sql.toList params)

end Transactional
