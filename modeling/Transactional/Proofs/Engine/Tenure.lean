import Transactional.Proofs.Engine.Hold

/-!
# Holding a connection to the SQL engine

Whoever holds a connection knows its tables, and those that it would go back to.  A call may fail,
and then it has had no effect here; so a commit that fails leaves the transaction open, and so does
a rollback that fails.  When the connection goes back with a transaction open, the pool lets go of
it, and then its tables are those of before.

* `Engine.Stock` — the connections that there are, those at rest, and the jobs about leases that are
  due; `Engine.Stock.Orderly` — no connection is put at rest with a transaction open.
* `Engine.Tenure`, `Engine.tenure` — what is known of a connection that one holds or has held, and
  the discipline of knowing it.
* `Engine.onOpen_obeys`, `Engine.knows_drop` — using the connection, and giving it back.
-/

namespace Transactional

namespace Engine

/-! ## Connections -/

/-- **The connections that there are**, those at rest, and the jobs about leases that are due. -/
structure Stock where
  links : Nat → Link
  count : Nat
  idle : List Nat
  jobs : List Job

namespace Stock

/-- The tables of a connection, as they would be without a transaction. -/
def content (stock : Stock) (number : Nat) : List StoredTable :=
  if number < stock.count then (stock.links number).database.committed else []

/-- **The pool is in order**: the connections at rest are there to be used, and have no transaction
open. -/
structure Orderly (stock : Stock) : Prop where
  known : ∀ number ∈ stock.idle, number < stock.count
  place : ∀ number ∈ stock.idle, (stock.links number).place = .idle
  usable : ∀ number ∈ stock.idle, (stock.links number).isBroken = false
  saved : ∀ number ∈ stock.idle, (stock.links number).database.saved = none
  nodup : stock.idle.Nodup
  cache : ∀ number, (stock.links number).cache.Faithful

/-- **A connection is put at rest.** -/
lemma Orderly.rest {stock : Stock} (h : stock.Orderly) {number : Nat}
    (hknown : number < stock.count)
    (hplace : (stock.links number).place = .idle) (husable : (stock.links number).isBroken = false)
    (hsaved : (stock.links number).database.saved = none) (hnew : number ∉ stock.idle) :
    ({ stock with idle := stock.idle ++ [number] } : Stock).Orderly := by
  have hall : ∀ {P : Nat → Prop}, (∀ m ∈ stock.idle, P m) → P number →
    ∀ m ∈ stock.idle ++ [number], P m := by
    intro P h hnumber m hm
    rcases List.mem_append.mp hm with hm | hm
    · exact h m hm
    · rwa [List.mem_singleton.mp hm]
  refine ⟨hall h.known hknown, hall h.place hplace, hall h.usable husable, hall h.saved hsaved,
    ?_, h.cache⟩
  refine List.nodup_append.mpr ⟨h.nodup, List.nodup_singleton number, ?_⟩
  rintro m hm _ hmem rfl
  exact hnew (List.mem_singleton.mp hmem ▸ hm)

def put (number : Nat) (link : Link) (stock : Stock) : Stock :=
  { stock with links := Function.update stock.links number link }

@[simp] lemma links_put (number : Nat) (link : Link) (stock : Stock) :
    (stock.put number link).links number = link :=
  Function.update_self ..

lemma links_put_of_ne {number other : Nat} (h : other ≠ number) (link : Link) (stock : Stock) :
    (stock.put number link).links other = stock.links other :=
  Function.update_of_ne h ..

end Stock

def stock (s : World) : Stock :=
  ⟨s.links.get, s.linkCount, s.books.idle, s.leaseJobs⟩

@[simp] lemma stock_set (number : Nat) (link : Link) (s : World) :
    stock ((Engine.link number).set link s) = (stock s).put number link := by
  have hlinks : (s.links.put number link).get = Function.update s.links.get number link := by
    funext m
    by_cases hm : m = number
    · rw [hm, Function.update_self]
      exact Table.get_put s.links number link
    · rw [Function.update_of_ne hm]
      exact Table.get_put_of_ne hm s.links link
  exact congrArg (fun links => (⟨links, s.linkCount, s.books.idle, s.leaseJobs⟩ : Stock)) hlinks

lemma get_link (number : Nat) (s : World) :
    (Engine.link number).get s = (stock s).links number := rfl

lemma stock_schedule {f : Schedule → Schedule} (hf : ∀ c, (f c).starts = c.starts) (s : World) :
    stock (Host.schedule.modify f s) = stock s :=
  congrArg (Stock.mk s.links.get s.linkCount s.books.idle) (World.leaseJobs_of_starts (hf _))

lemma stock_of_still {number : Nat} {s s' : World} (h : Host.Still (LeaseHost.leases number) s s') :
    stock s' = stock s :=
  h.same stock (fun _ _ => rfl)
    (fun _ s hstarts =>
      congrArg (Stock.mk s.links.get s.linkCount s.books.idle) (World.leaseJobs_of_starts hstarts))
    fun _ _ => rfl

lemma stock_notifyOne (s : World) : stock (notifyOne s) = stock s := by
  unfold notifyOne
  split
  · rfl
  next task rest _ => exact stock_schedule (Schedule.starts_wake task) _

lemma leases_notifyOne (number : Nat) (s : World) :
    (LeaseHost.leases number).get (notifyOne s) = (LeaseHost.leases number).get s := by
  unfold notifyOne
  split <;> rfl

/-! ## What is known of a connection -/

/-- **What is known of a connection** that one holds or has held. -/
inductive Tenure where
  | resting (tables : List StoredTable)
  | begun (tables : List StoredTable)
  | spent (tables : List StoredTable)

namespace Tenure

/-- Whether the connection has been given back. -/
def isOver : Tenure → Bool
  | .spent _ => true
  | _ => false

/-- The tables that are left if the connection goes back now. -/
def settled (before : List StoredTable) : Tenure → List StoredTable
  | .resting tables | .spent tables => tables
  | .begun _ => before

def Of (before : List StoredTable) : Tenure → Link → Prop
  | .resting tables, link => link.Holds false none tables
  | .begun tables, link => link.Holds true (some before) tables
  | .spent tables, link => link.database.committed = tables

variable {before : List StoredTable} {link : Link} {k k' : Tenure}

lemma Of.committed (h : k.Of before link) : link.database.committed = k.settled before := by
  cases k with
  | resting tables | begun tables => simp [Database.committed, h.saved, h.tables, settled]
  | spent tables => exact h

lemma Of.place (h : k.Of before link) (hk : k.isOver = false) : link.place = .lent := by
  cases k with
  | resting tables | begun tables => exact Link.Holds.place h
  | spent tables => cases hk

lemma Of.lives (h : k.Of before link) (hk : k.isOver = false) : link.isTerminated = false := by
  cases k with
  | resting tables | begun tables => exact Link.Holds.lives h
  | spent tables => cases hk

lemma Of.cache (h : k.Of before link) (hk : k.isOver = false) : link.cache.Faithful := by
  cases k with
  | resting tables | begun tables => exact Link.Holds.cache h
  | spent tables => cases hk

/-- **What one knows who holds or has held a connection** on a lease: the pool is in order, the
other connections have the tables that they had, and what is known of the connection itself; and
nobody is to close the lease in one's place. -/
structure Knows (were : Nat → List StoredTable) (base number : Nat) (k : Tenure)
    (stock : Stock) : Prop where
  orderly : stock.Orderly
  undue : .close base number ∉ stock.jobs
  known : base < stock.count
  others : ∀ number ≠ base, stock.content number = were number
  own : k.Of (were base) (stock.links base)

variable {were : Nat → List StoredTable} {base number : Nat} {stock : Stock}

lemma Knows.content (h : k.Knows were base number stock) :
    stock.content base = k.settled (were base) := by
  rw [Stock.content, if_pos h.known]
  exact h.own.committed

lemma Knows.not_idle (h : k.Knows were base number stock) (hk : k.isOver = false) :
    base ∉ stock.idle := by
  intro hmem
  have hplace := h.orderly.place base hmem
  rw [h.own.place hk] at hplace
  cases hplace

lemma Knows.put (h : k.Knows were base number stock) (hk : k.isOver = false)
    (hlink : k'.Of (were base) link)
    (hcache : link.cache.Faithful) : k'.Knows were base number (stock.put base link) := by
  have hidle : ∀ number ∈ stock.idle, (stock.put base link).links number = stock.links number := by
    intro number hmem
    refine Stock.links_put_of_ne ?_ link stock
    rintro rfl
    exact h.not_idle hk hmem
  refine ⟨⟨h.orderly.known, ?_, ?_, ?_, h.orderly.nodup, fun number => ?_⟩, h.undue,
    h.known, ?_, ?_⟩
  · exact fun number hmem => (hidle number hmem).symm ▸ h.orderly.place number hmem
  · exact fun number hmem => (hidle number hmem).symm ▸ h.orderly.usable number hmem
  · exact fun number hmem => (hidle number hmem).symm ▸ h.orderly.saved number hmem
  · by_cases hne : number = base
    · rwa [hne, Stock.links_put]
    · rw [Stock.links_put_of_ne hne]
      exact h.orderly.cache number
  · intro number hne
    rw [← h.others number hne, Stock.content, Stock.content, Stock.links_put_of_ne hne]
    rfl
  · rwa [Stock.links_put]

end Tenure

/-! ## The discipline -/

variable {were : Nat → List StoredTable} {base number : Nat} {trouble : Trouble}
  {settings : Settings}
  {k k' : Tenure} {s s' : World}

/-- **The discipline of somebody who holds a connection**, and gives it back only when the lease has
been closed. -/
def tenure (were : Nat → List StoredTable) (base number : Nat) : Discipline World Tenure where
  knows k s := k.Knows were base number (stock s)
  may k _ k' s' := k'.Knows were base number (stock s')
    ∧ (k'.isOver = true → k.isOver = true ∨ ((LeaseHost.leases number).get s').closed = true)
  waits _ _ := True

/-- **The lease makes no difference** to what is known of the connection. -/
lemma tenure_tolerates :
    ((besetPool trouble settings).lease base number).Tolerates (tenure were base number) where
  still {k s s'} hs h := by
    have hstock : stock s' = stock s := stock_of_still h
    refine ⟨?_, .inl⟩
    rw [hstock]
    exact hs
  keeps {k s s'} hs h := by
    have hstock : stock s' = stock s := stock_of_still h
    show k.Knows were base number (stock s')
    rw [hstock]
    exact hs
  before _ _ hmay := hmay
  pause _ := trivial

/-- Using the connection, and knowing something of it afterwards. -/
abbrev beneath (trouble : Trouble) (settings : Settings) (were : Nat → List StoredTable)
    (base number : Nat) : Discipline World Tenure :=
  ((besetPool trouble settings).lease base number).besides (tenure were base number)

lemma beneath_put {link : Link} (hs : k.Knows were base number (stock s)) (hk : k.isOver = false)
    (hk' : k'.isOver = false) (hlink : k'.Of (were base) link) :
    (beneath trouble settings were base number).may k s k' ((Engine.link base).set link s) := by
  refine ⟨rfl, ?_, fun hover => absurd hover (by simp [hk'])⟩
  rw [stock_set]
  exact hs.put hk hlink (hlink.cache hk')

/-- **Using the connection**; the call may fail. -/
lemma onOpen_obeys {f : Link → Except Fault α × Link} {fails : World → Link → Option Mishap}
    {ends : Except Fault α → Tenure → Prop}
    (harmless : ∀ s l mishap, fails s l = some mishap → mishap.change = id) (hk : k.isOver = false)
    (hf : ∀ link, k.Of (were base) link →
      ∃ k', k'.isOver = false ∧ k'.Of (were base) (f link).2 ∧ ends (f link).1 k')
    (herror : ∀ fault, ends (.error fault) k) :
    (Attempt.step fun s => onOpen base (fun l => failing (fails s l) f l) s).run.Obeys
      (beneath trouble settings were base number) (fun _ _ => False) ends k := by
  intro s hs
  have hlives : ((Engine.link base).get s).isTerminated = false := hs.own.lives hk
  simp only [onOpen, hlives]
  cases hmishap : fails s ((Engine.link base).get s) with
  | some mishap =>
    have hsame : mishap.change = id := harmless _ _ _ hmishap
    refine ⟨k, beneath_put hs hk hk ?_, herror mishap.fault⟩
    rw [failing, hsame]
    exact hs.own
  | none =>
    obtain ⟨k', hk', hlink, hends⟩ := hf _ hs.own
    exact ⟨k', beneath_put hs hk hk' hlink, hends⟩

/-! ## Giving the connection back -/

lemma knows_destroy (hs : k.Knows were base number (stock s)) (hk : k.isOver = false)
    (handle : StatementHandle) :
    (beneath trouble settings were base number).may k s k
      ((beset trouble base).destroy handle s) := by
  refine beneath_put hs hk hk ?_
  have hown := hs.own
  rw [← get_link] at hown
  cases k with
  | resting tables | begun tables =>
    have hheld : Link.Holds _ _ _ _ := hown
    exact ⟨hheld.place, hheld.lives, hheld.cache, hheld.noted, hheld.saved, hheld.tables⟩
  | spent tables => cases hk

lemma knows_destroyAll (hk : k.isOver = false) (handles : List StatementHandle)
    (hs : k.Knows were base number (stock s)) :
    (beneath trouble settings were base number).may k s k
      (((besetPool trouble settings).lease base number).destroyAll handles s) := by
  induction handles generalizing s with
  | nil => exact ⟨rfl, hs, .inl⟩
  | cons handle rest ih =>
    have hfirst : (beneath trouble settings were base number).may k s k
        ((beset trouble base).destroy handle s) := knows_destroy hs hk handle
    obtain ⟨hlease, hknows, -⟩ := hfirst
    obtain ⟨hlease', hmay⟩ := ih hknows
    exact ⟨hlease'.trans hlease, hmay⟩

/-- **Giving the connection back**: the pool puts it at rest or lets go of it, and in either case
its tables are those that were to be left. -/
lemma knows_drop (hs : k.Knows were base number (stock s)) (hk : k.isOver = false) :
    (Tenure.spent (k.settled (were base))).Knows were base number (stock (drop base s))
      ∧ (LeaseHost.leases number).get (drop base s) = (LeaseHost.leases number).get s := by
  have hown := hs.own
  rw [← get_link] at hown
  have hcommitted := hown.committed
  have hcache := hown.cache hk
  have hplace := hown.place hk
  have hgone : ∀ place : Place, (Tenure.spent (k.settled (were base))).Of (were base)
      { (Engine.link base).get s with place } := fun _ => hcommitted
  unfold drop
  simp only [hplace]
  unfold putBack
  cases hbroken : ((Engine.link base).get s).isBroken with
  | true =>
    refine ⟨?_, leases_notifyOne number _⟩
    simp only [if_true, stock_notifyOne]
    have hput := hs.put hk (hgone .gone) hcache
    rw [← stock_set] at hput
    exact hput
  | false =>
    refine ⟨?_, leases_notifyOne number _⟩
    simp only [Bool.false_eq_true, if_false, stock_notifyOne]
    have hput := hs.put hk (hgone .idle) hcache
    have hsaved : ((Engine.link base).get s).database.saved = none := by
      cases k with
      | resting tables => exact hown.saved
      | begun tables =>
        have hnoted : ((Engine.link base).get s).inTransaction = true := hown.noted
        rw [Link.isBroken, hnoted, Bool.or_true] at hbroken
        cases hbroken
      | spent tables => cases hk
    let rested : Link := { (Engine.link base).get s with place := .idle }
    have hself : ((stock s).put base rested).links base = rested := Stock.links_put ..
    have hstock : stock (EngineHost.books.modify (fun b => { b with idle := b.idle ++ [base] })
          ((Engine.link base).modify (fun l => { l with place := .idle }) s))
        = { (stock s).put base rested with idle := (stock s).idle ++ [base] } := by
      have hset := stock_set base rested s
      exact congrArg (fun t : Stock => { t with idle := (stock s).idle ++ [base] }) hset
    rw [hstock]
    refine ⟨?_, hput.undue, hput.known, hput.others, hput.own⟩
    refine hput.orderly.rest hs.known ?_ ?_ ?_ (hs.not_idle hk) <;> simp only [hself, rested]
    · exact hbroken
    · exact hsaved

end Engine

end Transactional
