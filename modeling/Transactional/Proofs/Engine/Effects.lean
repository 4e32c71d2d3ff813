import Mathlib.Tactic.Common
import Transactional.Engine.Connection

/-!
# What statements do to a database

A statement that neither begins nor ends a transaction changes nothing but the tables, and what it
makes of them depends on the tables alone.  It does not matter either whether its text was compiled
just now or is one of those that are kept, since what a kept text says is what it always says.

* `Sql.isControl`, `Sql.read?` — statements that begin or end a transaction, and what a text says.
* `Database.committed`, `Database.tablesAfter` — the tables as others see them, and after a
  statement.
* `StatementCache.Faithful` — the statements that are kept are those that their texts say.
* `Engine.applied`, `Engine.replayed` — statements applied to tables, one and many.
* `Engine.Link.Holds` — what is known of a connection that somebody holds.
* `Engine.Link.Holds.run`, `Engine.Link.Holds.begin` and so on — what commands and statements do to
  that.
-/

namespace Transactional

namespace Sql

/-- **Whether a statement begins or ends a transaction.** -/
def isControl : Sql → Bool
  | .begin | .commit | .rollback => true
  | _ => false

/-- **What a text says**, whatever tables there are. -/
def read? (text : String) : Option Sql :=
  match textsFromStatements text with
  | [] => none
  | first :: _ =>
      match ofText first with
      | .ok statement => statement
      | .error _ => none

end Sql

namespace Database

/-- **The tables as others see them**: those of before, while a transaction is open. -/
def committed (database : Database) : List StoredTable :=
  database.saved.getD database.tables

/-- **The tables after a statement.** -/
def tablesAfter (params : List Datum) (statement : Sql) (tables : List StoredTable) :
    List StoredTable :=
  (({ tables } : Database).perform params statement).2.tables

variable {database : Database} {params : List Datum} {statement : Sql}

def SameTables (saved : Option (List StoredTable)) :
    Except SqlFault (List (List Datum) × Database) → Except SqlFault
      (List (List Datum) × Database) → Prop
  | .ok (_, database), .ok (_, other) => database.tables = other.tables ∧ database.saved = saved
  | .error _, .error _ => True
  | _, _ => False

lemma sameTables_bind {saved : Option (List StoredTable)} (x : Except SqlFault α)
    {f g : α → Except SqlFault (List (List Datum) × Database)}
    (h : ∀ a, SameTables saved (f a) (g a)) :
    SameTables saved (x >>= f) (x >>= g) := by
  cases x with
  | error fault => trivial
  | ok a => exact h a

lemma effect_sameTables (database : Database) (params : List Datum)
    (h : statement.isControl = false) :
    SameTables database.saved (database.effect params statement)
      (({ tables := database.tables } : Database).effect params statement) := by
  have hfound : ∀ name, database.findTable name
      = ({ tables := database.tables } : Database).findTable name := fun _ => rfl
  cases statement with
  | createTable name key columns => exact ⟨rfl, rfl⟩
  | insert name columns given =>
    simp only [effect, hfound]
    exact sameTables_bind _ fun table => sameTables_bind _ fun added => ⟨rfl, rfl⟩
  | update name columns condition =>
    simp only [effect, hfound]
    exact sameTables_bind _ fun table => sameTables_bind _ fun changed => ⟨rfl, rfl⟩
  | delete name condition =>
    simp only [effect, hfound]
    exact sameTables_bind _ fun table => ⟨rfl, rfl⟩
  | selectRows name condition | count name label condition =>
    simp only [effect, hfound]
    exact sameTables_bind _ fun table => ⟨rfl, rfl⟩
  | values items => exact ⟨rfl, rfl⟩
  | begin | commit | rollback => cases h

/-- **A statement changes nothing but the tables**, and these as it would without anything else. -/
lemma perform_tables (database : Database) (params : List Datum) (h : statement.isControl = false) :
    (database.perform params statement).2.tables = tablesAfter params statement database.tables
      ∧ (database.perform params statement).2.saved = database.saved := by
  have hsame := effect_sameTables database (params.map Datum.bound) h
  unfold tablesAfter perform
  revert hsame
  cases database.effect (params.map Datum.bound) statement <;>
    cases ({ tables := database.tables } : Database).effect (params.map Datum.bound) statement <;>
    intro hsame
  · dsimp only
    split <;> exact ⟨rfl, rfl⟩
  · exact hsame.elim
  · exact hsame.elim
  · exact hsame

end Database

namespace Compiled

variable {database : Database} {compiled : Compiled} {text : String}

/-- What succeeds in two steps succeeds in each. -/
private lemma steps_of_ok {α β : Type} {x : Except SqlFault α}
    {next : α → Except SqlFault β} {b : β}
    (h : x >>= next = .ok b) : ∃ a, x = .ok a ∧ next a = .ok b := by
  cases x with
  | error fault => cases h
  | ok a => exact ⟨a, rfl, h⟩

lemma statement_of_first (h : first database text = .ok compiled) :
    Sql.ofText text = .ok compiled.statement := by
  unfold first at h
  cases hnew : Sql.newTable? text <;> rw [hnew] at h <;> obtain ⟨_, -, h⟩ := steps_of_ok h <;>
    obtain ⟨read, hread, h⟩ := steps_of_ok h <;> rw [hread] <;> cases read with
  | none => exact congrArg (fun c => Except.ok c.statement) (Except.ok.inj h)
  | some statement =>
    obtain ⟨_, -, h⟩ := steps_of_ok h
    exact congrArg (fun c => Except.ok c.statement) (Except.ok.inj h)

/-- **What a text is compiled to is what it says**, whatever tables there are. -/
lemma statement_of_ofText (h : ofText database text = .ok compiled) :
    compiled.statement = Sql.read? text := by
  unfold ofText at h
  unfold Sql.read?
  cases htexts : Sql.textsFromStatements text with
  | nil =>
    rw [htexts] at h
    exact (congrArg Compiled.statement (Except.ok.inj h)).symm
  | cons piece rest =>
    rw [htexts, ofTexts] at h
    cases hfirst : first database piece with
    | error fault =>
      rw [hfirst] at h
      cases h
    | ok found =>
      rw [hfirst] at h
      have hsame : found = compiled := by
        cases hnext : ofTexts database rest with
        | error message =>
          simp only [hnext] at h
          cases h
        | ok next =>
          simp only [hnext] at h
          have h : (if next.statement.isSome then Except.error SqlFault.several.message
            else .ok found : Except String Compiled) = .ok compiled := h
          split at h
          · cases h
          · exact Except.ok.inj h
      simp only [statement_of_first (hsame ▸ hfirst)]

/-- **What a compiled statement does to the tables**, if it succeeds; and it stays what it is. -/
lemma execute_tables (database : Database) (forRows : Bool) (params : List Datum)
    (h : ∀ statement, compiled.statement = some statement → statement.isControl = false) :
    (compiled.execute forRows params database).2.1.statement = compiled.statement
      ∧ (compiled.execute forRows params database).2.2.saved = database.saved
      ∧ ∀ rows, (compiled.execute forRows params database).1 = .ok rows →
        ∃ statement, compiled.statement = some statement
          ∧ (compiled.execute forRows params database).2.2.tables
            = Database.tablesAfter params statement database.tables := by
  obtain ⟨statement, columns⟩ := compiled
  unfold execute
  dsimp only
  split
  · exact ⟨rfl, rfl, by rintro _ ⟨⟩⟩
  · cases statement with
    | none => exact ⟨rfl, rfl, by rintro _ ⟨⟩⟩
    | some statement =>
      dsimp only
      cases database.check statement with
      | error fault => exact ⟨rfl, rfl, by rintro _ ⟨⟩⟩
      | ok _ =>
        obtain ⟨htables, hsaved⟩ := database.perform_tables params (h statement rfl)
        exact ⟨rfl, hsaved, fun _ _ => ⟨statement, rfl, htables⟩⟩

end Compiled

namespace StatementCache

/-- **The statements that are kept are those that their texts say.** -/
def Faithful (cache : StatementCache) : Prop :=
  ∀ entry ∈ cache.entries, entry.2.statement = Sql.read? entry.1

variable {cache : StatementCache} {database : Database} {text : String} {compiled : Compiled}

lemma Faithful.compile (h : cache.Faithful)
    (hcompiled : cache.compile database text = .ok compiled) :
    compiled.statement = Sql.read? text := by
  unfold StatementCache.compile get? at hcompiled
  cases hfound : cache.entries.find? (·.1 == text) with
  | none =>
    rw [hfound] at hcompiled
    exact Compiled.statement_of_ofText hcompiled
  | some entry =>
    rw [hfound] at hcompiled
    obtain rfl : entry.2 = compiled := Except.ok.inj hcompiled
    rw [h entry (List.mem_of_find?_eq_some hfound)]
    have hkey : (entry.1 == text) = true := by simpa using List.find?_some hfound
    exact congrArg Sql.read? (eq_of_beq hkey)

lemma Faithful.use (h : cache.Faithful) (hcompiled : compiled.statement = Sql.read? text) :
    (cache.use text compiled).Faithful := by
  unfold StatementCache.use
  split
  · exact h
  · intro entry hentry
    rcases List.mem_cons.mp (List.mem_of_mem_take hentry) with rfl | hentry
    · exact hcompiled
    · exact h entry (List.mem_filter.mp hentry).1

end StatementCache

namespace Engine

/-! ## Statements applied to tables -/

/-- **A statement applied to tables**, by its text and its values. -/
def applied (tables : List StoredTable) (executed : String × List Scalar) : List StoredTable :=
  match Sql.read? (trimmed executed.1) with
  | some statement => Database.tablesAfter (executed.2.map Scalar.toDatum) statement tables
  | none => tables

/-- **Statements applied to tables**, one after the other. -/
def replayed (executed : List (String × List Scalar)) (tables : List StoredTable) :
    List StoredTable :=
  executed.foldl applied tables

/-- **A text of which no transaction is begun or ended.** -/
def Plain (sql : String) : Prop :=
  ∀ statement, Sql.read? (trimmed sql) = some statement → statement.isControl = false

namespace Link

/-- **What is known of a connection that somebody holds**: whether it has noted a transaction as
open, the tables of before that transaction, and its tables. -/
structure Holds (noted : Bool) (saved : Option (List StoredTable)) (tables : List StoredTable)
    (link : Link) : Prop where
  place : link.place = .lent
  lives : link.isTerminated = false
  cache : link.cache.Faithful
  noted : link.inTransaction = noted
  saved : link.database.saved = saved
  tables : link.database.tables = tables

namespace Holds

variable {noted : Bool} {saved : Option (List StoredTable)} {before tables : List StoredTable}
  {link : Link}

lemma begin (h : link.Holds false none tables) :
    (command .begin (fun _ => true) link).1 = .ok ()
      ∧ (command .begin (fun _ => true) link).2.Holds true (some tables) tables := by
  have hperform : link.database.perform [] .begin
      = (.ok [], { link.database with saved := some link.database.tables }) := by
    simp [Database.perform, Database.effect, h.saved]
  rw [command, hperform]
  exact ⟨rfl, h.place, h.lives, h.cache, rfl, congrArg some h.tables, h.tables⟩

lemma commit (h : link.Holds noted (some before) tables) :
    (command .commit (fun _ => false) link).1 = .ok ()
      ∧ (command .commit (fun _ => false) link).2.Holds false none tables := by
  have hperform : link.database.perform [] .commit
    = (.ok [], { link.database with saved := none }) := by
    simp [Database.perform, Database.effect, h.saved]
  rw [command, hperform]
  exact ⟨rfl, h.place, h.lives, h.cache, rfl, rfl, h.tables⟩

lemma rollback (h : link.Holds noted (some before) tables) :
    (command .rollback (fun _ => false) link).1 = .ok ()
      ∧ (command .rollback (fun _ => false) link).2.Holds false none before := by
  have hperform : link.database.perform [] .rollback
      = (.ok [], { link.database with tables := before, saved := none }) := by
    simp [Database.perform, Database.effect, h.saved]
  rw [command, hperform]
  exact ⟨rfl, h.place, h.lives, h.cache, rfl, rfl, rfl⟩

lemma prepareOn (h : link.Holds noted saved tables) (sql : String) (kind : StatementKind) :
    (Engine.prepareOn sql kind link).2.Holds noted saved tables
      ∧ ∀ handle, (Engine.prepareOn sql kind link).1 = .ok handle → handle.sql = sql := by
  unfold Engine.prepareOn
  dsimp only
  cases hcompiled : link.cache.compile link.database (trimmed sql) with
  | error message => exact ⟨h, by rintro _ ⟨⟩⟩
  | ok compiled =>
    refine ⟨⟨h.place, h.lives, h.cache.use (h.cache.compile hcompiled), h.noted, h.saved,
      h.tables⟩, ?_⟩
    rintro _ ⟨⟩
    rfl

/-- **Executing a statement.** -/
lemma run (h : link.Holds noted saved tables) {sql : String} (hsql : Plain sql)
    (kind : StatementKind)
    (bindings : List Scalar) :
    ∃ after, (Engine.run sql kind bindings link).2.Holds noted saved after
      ∧ ∀ outcome, (Engine.run sql kind bindings link).1 = .ok outcome →
        after = applied tables (sql, bindings) := by
  unfold Engine.run
  dsimp only
  cases hcompiled : link.cache.compile link.database (trimmed sql) with
  | error message => exact ⟨tables, h, by rintro _ ⟨⟩⟩
  | ok compiled =>
    dsimp only
    have hread := h.cache.compile hcompiled
    obtain ⟨hstatement, hsaved, hok⟩ := compiled.execute_tables link.database
      kind.returnsRows (bindings.map Scalar.toDatum) fun statement hs => hsql statement (hread ▸ hs)
    revert hstatement hsaved hok
    generalize compiled.execute kind.returnsRows (bindings.map Scalar.toDatum) link.database = x
    obtain ⟨result, compiled', database⟩ := x
    intro hstatement hsaved hok
    have hsame : compiled'.statement = Sql.read? (trimmed sql) := hstatement.trans hread
    refine ⟨database.tables, ⟨h.place, h.lives, h.cache.use hsame, h.noted,
      hsaved.trans h.saved, rfl⟩,
      fun outcome houtcome => ?_⟩
    cases result with
    | error fault => cases houtcome
    | ok rows =>
      obtain ⟨statement, hs, htables⟩ := hok rows rfl
      rw [applied, ← hread, hs, ← h.tables]
      exact htables

end Holds

end Link

end Engine

end Transactional
