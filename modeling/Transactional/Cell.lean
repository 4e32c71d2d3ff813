/-!
# Parts of a state

Everything here that changes is part of one state, and each component of the library touches only
its own part of it.  A `Cell` names such a part; the components are written over any state that
has the cells they need.

* `Cell` — a part that can be read and replaced.
* `Table` — entries under keys, each of which is a part of its own.
-/

namespace Transactional

/-- **A part of a state.** -/
structure Cell (σ τ : Type) where
  get : σ → τ
  set : τ → σ → σ
  get_set : ∀ v s, get (set v s) = v
  set_set : ∀ v w s, set v (set w s) = set v s

namespace Cell

/-- Change what a part holds. -/
def modify (cell : Cell σ τ) (f : τ → τ) (s : σ) : σ :=
  cell.set (f (cell.get s)) s

/-- A part of a part. -/
def comp (outer : Cell σ τ) (inner : Cell τ ρ) : Cell σ ρ where
  get s := inner.get (outer.get s)
  set v s := outer.set (inner.set v (outer.get s)) s
  get_set v s := by rw [outer.get_set, inner.get_set]
  set_set v w s := by rw [outer.get_set, outer.set_set, inner.set_set]

@[simp] theorem get_modify (cell : Cell σ τ) (f : τ → τ) (s : σ) :
    cell.get (cell.modify f s) = f (cell.get s) :=
  cell.get_set _ _

end Cell

/-! ## Entries under keys -/

/-- **Entries under keys**, with a default for the keys that have none. -/
structure Table (κ α : Type) where
  /-- The entries, in the order in which their keys were first used. -/
  entries : List (κ × α) := []

namespace Table

variable [DecidableEq κ]

/-- Put an entry into a list of entries. -/
def putEntry (key : κ) (value : α) : List (κ × α) → List (κ × α)
  | [] => [(key, value)]
  | (k, old) :: rest =>
      if k = key then (key, value) :: rest else (k, old) :: putEntry key value rest

@[simp] theorem putEntry_putEntry (key : κ) (v w : α) (l : List (κ × α)) :
    putEntry key v (putEntry key w l) = putEntry key v l := by
  induction l with
  | nil => simp [putEntry]
  | cons e rest ih =>
    obtain ⟨k, old⟩ := e
    by_cases h : k = key <;> simp [putEntry, h, ih]

/-- The table with another entry under a key. -/
def put (key : κ) (value : α) (table : Table κ α) : Table κ α :=
  ⟨putEntry key value table.entries⟩

variable [Inhabited α]

/-- Find an entry in a list of entries. -/
def getEntry (key : κ) : List (κ × α) → α
  | [] => default
  | (k, value) :: rest => if k = key then value else getEntry key rest

/-- The entry under a key. -/
def get (table : Table κ α) (key : κ) : α :=
  getEntry key table.entries

@[simp] theorem getEntry_putEntry (key : κ) (value : α) (l : List (κ × α)) :
    getEntry key (putEntry key value l) = value := by
  induction l with
  | nil => simp [putEntry, getEntry]
  | cons e rest ih =>
    obtain ⟨k, old⟩ := e
    by_cases h : k = key <;> simp [putEntry, getEntry, h, ih]

theorem getEntry_putEntry_of_ne {key other : κ} (h : other ≠ key) (value : α)
    (l : List (κ × α)) : getEntry other (putEntry key value l) = getEntry other l := by
  induction l with
  | nil => simp [putEntry, getEntry, Ne.symm h]
  | cons e rest ih =>
    obtain ⟨k, old⟩ := e
    by_cases hk : k = key
    · simp [putEntry, getEntry, hk, Ne.symm h]
    · simp [putEntry, getEntry, hk, ih]

@[simp] theorem get_put (table : Table κ α) (key : κ) (value : α) :
    (table.put key value).get key = value :=
  getEntry_putEntry key value table.entries

theorem get_put_of_ne {key other : κ} (h : other ≠ key) (table : Table κ α) (value : α) :
    (table.put key value).get other = table.get other :=
  getEntry_putEntry_of_ne h value table.entries

/-- The entry under a key, as a part of the table. -/
def entry (key : κ) : Cell (Table κ α) α where
  get table := table.get key
  set value table := table.put key value
  get_set _ _ := get_put _ _ _
  set_set v w table := by simp [put]

end Table

end Transactional
