import Transactional.Event
import Transactional.Record
import Transactional.Statement

/-!
# Operations

The single steps of a program that touch the database or announce an event.

* `Operation` — the operations.
* `Operation.emitted` — the events that performing one adds.
* `Operation.structural`, `Operation.same` — text and equality.
-/

namespace Transactional

/-- **One operation of a program.** -/
inductive Operation where
  | query (kind : StatementKind) (sql : String) (bindings : List Scalar)
  | insert (table : String) (row : Record)
  | update (table : String) (row : Record)
  | delete (table : String) (target : DeleteTarget)
  | read (table : String) (key : Scalar)
  | prepare (kind : StatementKind) (sql : String)
  | execute (statement : StatementHandle) (bindings : List Scalar)
  | emit (event : Event)

namespace Operation

/-- The name of an operation. -/
def name : Operation → String
  | .query .. => "query"
  | .insert .. => "insert"
  | .update .. => "update"
  | .delete .. => "delete"
  | .read .. => "read"
  | .prepare .. => "prepare"
  | .execute .. => "execute"
  | .emit .. => "emit"

/-- **The events that performing an operation adds.** -/
def emitted : Operation → List Event
  | .emit event => [event]
  | _ => []

/-- The structural text of bindings. -/
def bindingsText (bindings : List Scalar) : String :=
  Text.list (bindings.map Scalar.structural)

/-- The structural text. -/
def structural : Operation → String
  | .query kind sql bindings =>
      Text.fields "Query"
        [("kind", kind.name), ("sql", Text.quoted sql), ("bindings", bindingsText bindings)]
  | .insert table row =>
      Text.fields "Insert" [("table", Text.quoted table), ("record", row.structural)]
  | .update table row =>
      Text.fields "Update" [("table", Text.quoted table), ("record", row.structural)]
  | .delete table target =>
      Text.fields "Delete" [("table", Text.quoted table), ("target", target.structural)]
  | .read table key => Text.fields "Read" [("table", Text.quoted table), ("id", key.structural)]
  | .prepare kind sql => Text.fields "Prepare" [("kind", kind.name), ("sql", Text.quoted sql)]
  | .execute statement bindings =>
      Text.fields "Execute"
        [("statement", statement.structural), ("bindings", bindingsText bindings)]
  | .emit event =>
      Text.fields "Emit"
        [("event_type", Text.quoted event.type), ("payload", event.payload.structural)]

/-- Equality of operations, values compared as values. -/
def same : Operation → Operation → Bool
  | .query k s b, .query k' s' b' => k == k' && s == s' && Scalar.sameList b b'
  | .insert t r, .insert t' r' => t == t' && r.same r'
  | .update t r, .update t' r' => t == t' && r.same r'
  | .delete t d, .delete t' d' => t == t' && d.same d'
  | .read t i, .read t' i' => t == t' && i.same i'
  | .prepare k s, .prepare k' s' => k == k' && s == s'
  | .execute h b, .execute h' b' => h == h' && Scalar.sameList b b'
  | .emit e, .emit e' => e.type == e'.type && e.payload.same e'.payload
  | _, _ => false

end Operation

end Transactional
