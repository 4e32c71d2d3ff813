import Transactional.Proofs.Engine.Effects
import Transactional.Proofs.Engine.Trouble

/-!
# What the pool goes by

The pool keeps a connection that comes back unless the connection has ended or has noted a
transaction as open.  Whether a transaction is open in the database it does not ask; but a
connection on which none is noted has none, whatever calls succeed or fail on it, as long as no
statement begins or ends one.

* `Engine.Link.Alike` — two connections that are the same for the pool.
* `Engine.Link.AtRest` — a connection that can be used again.
* `Engine.Link.Kept` — what a connection has noted, and that no more is open than has been noted.
* `Engine.Link.Kept.command`, `Engine.Link.Kept.prepareOn`, `Engine.Link.Kept.executeOn`,
  `Engine.Link.Kept.failing` — calls, and calls that go wrong.
-/

namespace Transactional

namespace Database

variable {database : Database} {statement : Sql} {fault : SqlFault} {after : Database}

/-- **A statement that fails** neither opens a transaction nor ends one. -/
lemma saved_of_error (h : database.perform [] statement = (.error fault, after)) :
    after.saved = database.saved := by
  unfold perform at h
  split at h
  · cases h
  · obtain ⟨-, rfl⟩ := Prod.mk.inj h
    split <;> rfl

lemma saved_of_ends (hends : statement = .commit ∨ statement = .rollback)
    {rows : List (List Datum)} (h : database.perform [] statement = (.ok rows, after)) :
    after.saved = none := by
  obtain ⟨tables, saved, lastRow, changed⟩ := database
  rcases hends with rfl | rfl <;> cases saved <;> cases h <;> rfl

end Database

/-- The fault of a statement that has not been prepared on a connection. -/
def StatementHandle.unknown (handle : StatementHandle) : Fault :=
  .execution ("statement " ++ Text.natural handle.id.toNat
    ++ " was not prepared on this connection")

namespace Engine

namespace Link

/-- **A connection that can be used again**: it has not ended, no transaction is noted and none is
open, and no statement is prepared on it. -/
structure AtRest (link : Link) : Prop where
  lives : link.isTerminated = false
  noted : link.inTransaction = false
  saved : link.database.saved = none
  statements : link.statements = []

/-- **Two connections that are the same for the pool**, and of which the second knows what its texts
say if the first does. -/
structure Alike (before after : Link) : Prop where
  place : after.place = before.place
  lives : after.isTerminated = before.isTerminated
  noted : after.inTransaction = before.inTransaction
  saved : before.database.saved = none → after.database.saved = none
  statements : after.statements = before.statements
  next : after.nextStatement = before.nextStatement
  cache : before.cache.Faithful → after.cache.Faithful

/-- **What a connection has noted**, and where it is; no more is open than has been noted. -/
structure Kept (place : Place) (noted : Bool) (ids : List UInt64) (next : UInt64) (link : Link) :
    Prop where
  place : link.place = place
  lives : link.isTerminated = false
  saved : noted = false → link.database.saved = none
  noted : link.inTransaction = noted
  statements : link.statements = ids
  next : link.nextStatement = next
  cache : link.cache.Faithful

lemma Alike.refl (link : Link) : link.Alike link :=
  ⟨rfl, rfl, rfl, id, rfl, rfl, id⟩

lemma Alike.of_eq {link link' : Link} (h : link' = link) : link.Alike link' :=
  h ▸ .refl link

namespace Kept

variable {place : Place} {noted : Bool} {ids : List UInt64} {next : UInt64} {link link' : Link}

lemma alike (h : link.Kept place noted ids next) (hsame : link.Alike link') :
    link'.Kept place noted ids next where
  place := hsame.place.trans h.place
  lives := hsame.lives.trans h.lives
  saved hnone := hsame.saved (h.saved hnone)
  noted := hsame.noted.trans h.noted
  statements := hsame.statements.trans h.statements
  next := hsame.next.trans h.next
  cache := hsame.cache h.cache

lemma atRest (h : link.Kept place false [] next) : link.AtRest :=
  ⟨h.lives, h.noted, h.saved rfl, h.statements⟩

lemma new (place : Place) : ({ place } : Link).Kept place false [] 1 :=
  ⟨rfl, rfl, fun _ => rfl, rfl, rfl, rfl, nofun⟩

lemma move (h : link.Kept place noted ids next) (place' : Place) :
    ({ link with place := place' } : Link).Kept place' noted ids next :=
  ⟨rfl, h.lives, h.saved, h.noted, h.statements, h.next, h.cache⟩

lemma destroy (h : link.Kept place noted ids next) (id : UInt64) :
    ({ link with statements := link.statements.filter (· != id) } : Link).Kept place noted
      (ids.filter (· != id)) next :=
  ⟨h.place, h.lives, h.saved, h.noted, by rw [← h.statements], h.next, h.cache⟩

/-! ## Calls -/

/-- **A command**, which is noted if it succeeds. -/
lemma command (h : link.Kept place noted ids next) {statement : Sql} {tr : Bool → Bool}
    (hends : tr noted = false → statement = .commit ∨ statement = .rollback) :
    (Engine.command statement tr link).2.Kept place
      (if (Engine.command statement tr link).1.toBool then tr noted else noted) ids next := by
  unfold Engine.command
  cases hperform : link.database.perform [] statement with
  | mk result after =>
    cases result with
    | ok rows =>
      exact ⟨h.place, h.lives, fun hnone => Database.saved_of_ends (hends hnone) hperform,
        congrArg tr h.noted, h.statements, h.next, h.cache⟩
    | error fault =>
      exact ⟨h.place, h.lives, fun hnone => (Database.saved_of_error hperform).trans
        (h.saved hnone),
        h.noted, h.statements, h.next, h.cache⟩

/-- **Preparing a statement** gives it the next number, if it succeeds. -/
lemma prepareOn (h : link.Kept place noted ids next) (sql : String) (kind : StatementKind) :
    (Engine.prepareOn sql kind link).1 = .ok ⟨next, sql, kind⟩
        ∧ (Engine.prepareOn sql kind link).2.Kept place noted (ids ++ [next]) (next + 1)
      ∨ (∃ fault, (Engine.prepareOn sql kind link).1 = .error fault)
        ∧ (Engine.prepareOn sql kind link).2.Kept place noted ids next := by
  unfold Engine.prepareOn
  dsimp only
  cases hcompiled : link.cache.compile link.database (trimmed sql) with
  | error message => exact .inr ⟨⟨_, rfl⟩, h⟩
  | ok compiled =>
    refine .inl ⟨by rw [← h.next], h.place, h.lives, h.saved, h.noted, ?_, ?_,
      h.cache.use (h.cache.compile hcompiled)⟩
    · rw [← h.statements, ← h.next]
    · rw [← h.next]

/-- **Executing a text** that neither begins nor ends a transaction. -/
lemma run (h : link.Kept place noted ids next) {sql : String} (hsql : Plain sql)
    (kind : StatementKind)
    (bindings : List Scalar) : (Engine.run sql kind bindings link).2.Kept place noted ids next := by
  unfold Engine.run
  dsimp only
  cases hcompiled : link.cache.compile link.database (trimmed sql) with
  | error message => exact h
  | ok compiled =>
    have hread := h.cache.compile hcompiled
    obtain ⟨hstatement, hsaved, -⟩ := compiled.execute_tables link.database kind.returnsRows
      (bindings.map Scalar.toDatum) fun statement hs => hsql statement (hread ▸ hs)
    exact ⟨h.place, h.lives, fun hnone => hsaved.trans (h.saved hnone), h.noted,
      h.statements, h.next,
      h.cache.use (hstatement.trans hread)⟩

/-- **Executing a statement**: one that has not been prepared on the connection, or has been
destroyed, is refused. -/
lemma executeOn (h : link.Kept place noted ids next) {handle : StatementHandle}
    (hsql : Plain handle.sql) (bindings : List Scalar) :
    (Engine.executeOn handle bindings link).2.Kept place noted ids next
      ∧ (handle.id ∉ ids → (Engine.executeOn handle bindings link).1 = .error handle.unknown) := by
  unfold Engine.executeOn
  split
  next hknown =>
    refine ⟨h.run hsql handle.kind bindings, fun hnot => absurd ?_ hnot⟩
    rw [h.statements] at hknown
    simpa using hknown
  next => exact ⟨h, fun _ => rfl⟩

/-- **A call that goes wrong** leaves the connection as it was for the pool. -/
lemma mishap (h : link.Kept place noted ids next) {mishap : Mishap}
    (hopens : ∀ database : Database, database.saved = none →
      (mishap.change database).saved = none) :
    ({ link with database := mishap.change link.database } : Link).Kept place noted ids next :=
  ⟨h.place, h.lives, fun hnone => hopens _ (h.saved hnone), h.noted, h.statements, h.next, h.cache⟩

end Kept

end Link

end Engine

end Transactional
