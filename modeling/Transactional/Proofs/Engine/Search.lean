import Transactional.Proofs.Engine.Checkout
import Transactional.Proofs.Engine.Transaction
import Transactional.Proofs.Run.Tracked

/-!
# Looking for a lease on the SQL engine

Whoever looks for a lease takes a connection that is at rest, or has the pool open one.  Neither
changes any tables; and when he has a lease, he knows the tables of its connection.

* `Engine.Found` — the pool is as it was found; it stays so when connections are opened, taken and
  put at rest.
* `Engine.Search`, `Engine.search` — how far somebody has come, and the discipline of looking for a
  lease.
* `Engine.grab_searches` — getting hold of a lease keeps to it.
* `Engine.Considerate`, `Engine.Searching` — what may happen around somebody who looks for a lease
  or has one, and what stays true of him meanwhile.
-/

namespace Transactional

namespace Engine

variable {trouble : Trouble} {settings : Settings} {were : Nat → List StoredTable}
  {base number n : Nat}
  {s s' : World}

/-! ## A pool as it was found -/

/-- **The pool is as it was found**: in order, and every connection has the tables that it had. -/
structure Found (were : Nat → List StoredTable) (stock : Stock) : Prop where
  orderly : stock.Orderly
  content : ∀ m, stock.content m = were m

namespace Stock

variable {stock : Stock}

def grown (place : Place) (stock : Stock) : Stock :=
  { stock.put stock.count { place } with count := stock.count + 1 }

def taken (n : Nat) (rest : List Nat) (stock : Stock) : Stock :=
  { stock.put n { stock.links n with place := .lent } with idle := rest }

end Stock

namespace Found

variable {stock : Stock}

lemma grown (h : Found were stock) (place : Place) : Found were (stock.grown place) := by
  have hold : ∀ m ∈ stock.idle, (stock.grown place).links m = stock.links m := fun m hm =>
    Stock.links_put_of_ne (h.orderly.known m hm).ne _ stock
  refine ⟨⟨fun m hm => Nat.lt_succ_of_lt (h.orderly.known m hm), ?_, ?_, ?_, h.orderly.nodup,
    fun m => ?_⟩,
    fun m => ?_⟩
  · exact fun m hm => (hold m hm).symm ▸ h.orderly.place m hm
  · exact fun m hm => (hold m hm).symm ▸ h.orderly.usable m hm
  · exact fun m hm => (hold m hm).symm ▸ h.orderly.saved m hm
  · by_cases hm : m = stock.count
    · rw [hm, Stock.grown, Stock.links_put]
      nofun
    · rw [Stock.grown, Stock.links_put_of_ne hm]
      exact h.orderly.cache m
  · rw [← h.content m]
    by_cases hm : m = stock.count
    · subst hm
      simp [Stock.content, Stock.grown, Database.committed]
    · have hlt : m < stock.count + 1 ↔ m < stock.count := by omega
      simp only [Stock.content, Stock.grown, Stock.put, Function.update_of_ne hm, hlt]

lemma grown_idle (h : Found were stock) :
    Found were { stock.grown .idle with idle := stock.idle ++ [stock.count] } := by
  have hnew : (stock.grown .idle).links stock.count = { place := .idle } := Stock.links_put ..
  have hgrown := h.grown .idle
  refine ⟨hgrown.orderly.rest (Nat.lt_succ_self _) ?_ ?_ ?_ fun hm => ?_, hgrown.content⟩
  · rw [hnew]
  · rw [hnew]
    rfl
  · rw [hnew]
  · exact (h.orderly.known _ hm).ne rfl

/-- **A connection that has been at rest** is as it was. -/
lemma taken {rest : List Nat} (h : Found were stock) (hidle : stock.idle = n :: rest) :
    Found were (stock.taken n rest) := by
  have hmem : ∀ m ∈ rest, m ∈ stock.idle := fun m hm => hidle ▸ List.mem_cons_of_mem n hm
  have hnodup := h.orderly.nodup
  rw [hidle, List.nodup_cons] at hnodup
  have hold : ∀ m ∈ rest, (stock.taken n rest).links m = stock.links m := fun m hm =>
    Stock.links_put_of_ne (ne_of_mem_of_not_mem hm hnodup.1) _ stock
  refine ⟨⟨fun m hm => h.orderly.known m (hmem m hm), ?_, ?_, ?_, hnodup.2, fun m => ?_⟩,
    fun m => ?_⟩
  · exact fun m hm => (hold m hm).symm ▸ h.orderly.place m (hmem m hm)
  · exact fun m hm => (hold m hm).symm ▸ h.orderly.usable m (hmem m hm)
  · exact fun m hm => (hold m hm).symm ▸ h.orderly.saved m (hmem m hm)
  · by_cases hm : m = n
    · rw [hm, Stock.taken, Stock.links_put]
      exact h.orderly.cache n
    · rw [Stock.taken, Stock.links_put_of_ne hm]
      exact h.orderly.cache m
  · rw [← h.content m]
    by_cases hm : m = n
    · subst hm
      simp only [Stock.content, Stock.taken, Stock.put, Function.update_self]
    · simp only [Stock.content, Stock.taken, Stock.put, Function.update_of_ne hm]

lemma holds_taken {rest : List Nat} (h : Found were stock) (hidle : stock.idle = n :: rest) :
    ((stock.taken n rest).links n).Holds false none (were n) := by
  have hmem : n ∈ stock.idle := hidle ▸ List.mem_cons_self
  obtain ⟨hlives, hnoted⟩ := Bool.or_eq_false_iff.mp (h.orderly.usable n hmem)
  have hsaved := h.orderly.saved n hmem
  have hcontent := h.content n
  rw [Stock.content, if_pos (h.orderly.known n hmem), Database.committed, hsaved] at hcontent
  rw [Stock.taken, Stock.links_put]
  exact ⟨rfl, hlives, h.orderly.cache n, hnoted, hsaved, hcontent⟩

lemma holds_grown (h : Found were stock) :
    ((stock.grown .lent).links stock.count).Holds false none (were stock.count) := by
  have hcontent := h.content stock.count
  rw [Stock.content, if_neg (Nat.lt_irrefl _)] at hcontent
  rw [Stock.grown, Stock.links_put]
  exact ⟨rfl, rfl, fun _ hentry => absurd hentry List.not_mem_nil, rfl, rfl, hcontent⟩

lemma spared (h : Found were (Engine.stock s)) (hspared : Spared base number s s') :
    Found were (Engine.stock s') :=
  ⟨hspared.orderly h.orderly, fun m => (hspared.content m).trans (h.content m)⟩

end Found

/-! ## The discipline -/

/-- **Nobody looks after a lease.** -/
def Undue (base number : Nat) (stock : Stock) : Prop :=
  ∀ job, job = .watch base number ∨ job = .close base number → job ∉ stock.jobs

/-- **How far somebody has come in getting hold of a lease.** -/
inductive Search where
  | seeking
  | opened (n : Nat)
  | leased (n m : Nat)

/-- **What is true then.** -/
def Search.Knows (trouble : Trouble) (settings : Settings) (were : Nat → List StoredTable)
    (base number : Nat)
    (s : World) : Search → Prop
  | .seeking => Found were (stock s) ∧ Undue base number (stock s)
  | .opened n => Found were (stock s) ∧ Undue base number (stock s) ∧ n < (stock s).count
      ∧ ((stock s).links n).Holds false none (were n)
  | .leased n m => n = base → m = number →
      (sole trouble settings were base number).knows (.held false [], .resting (were base)) s

/-- **The discipline of getting hold of a lease.** -/
def search (trouble : Trouble) (settings : Settings) (were : Nat → List StoredTable)
    (base number : Nat) :
    Discipline World Search where
  knows x s := x.Knows trouble settings were base number s
  may _ _ y s' := y.Knows trouble settings were base number s'
  waits x _ := x = .seeking

def Search.Ends : Except Fault (Nat × Nat) → Search → Prop
  | .ok (n, m), x => x = .leased n m
  | .error _, x => x = .seeking

lemma Untouched.stock (h : Untouched s s') : stock s' = stock s := by
  unfold Engine.stock
  rw [h.links, h.linkCount, h.idle, h.jobs]

/-- **Taking a connection.** -/
lemma knows_take (hs : Search.seeking.Knows trouble settings were base number s) :
    (Search.opened (take s).1).Knows trouble settings were base number (take s).2 := by
  obtain ⟨hfound, hundue⟩ := hs
  cases hidle : s.books.idle with
  | nil =>
    let counted : World := EngineHost.books.set
      { s.books with idle := [], count := s.books.count + 1 } s
    have htake : take s = newLink .lent counted := by
      simp only [take, show (EngineHost.books.get s).idle = [] from hidle, counted]
      rw [← hidle]
      rfl
    have hcounted : stock counted = stock s := by
      unfold stock
      rw [hidle]
      rfl
    have hset : stock ((link s.linkCount).set { place := .lent } counted)
        = (stock s).put s.linkCount { place := .lent } := by rw [stock_set, hcounted]
    have hstock : stock (newLink .lent counted).2 = (stock s).grown .lent :=
      congrArg (fun t : Stock => { t with count := s.linkCount + 1 }) hset
    rw [htake]
    refine ⟨?_, ?_, ?_, ?_⟩ <;> rw [hstock]
    · exact hfound.grown .lent
    · exact hundue
    · exact Nat.lt_succ_self _
    · exact hfound.holds_grown
  | cons n rest =>
    let left : World := EngineHost.books.set { s.books with idle := rest } s
    have htake : take s = (n, (link n).modify (fun l => { l with place := .lent }) left) := by
      simp only [take, show (EngineHost.books.get s).idle = n :: rest from hidle]
      rfl
    have hstock : stock ((link n).modify (fun l => { l with place := .lent }) left)
        = (stock s).taken n rest := stock_set n { (link n).get s with place := .lent } left
    have hidle : (stock s).idle = n :: rest := hidle
    rw [htake]
    refine ⟨?_, ?_, ?_, ?_⟩ <;> rw [hstock]
    · exact hfound.taken hidle
    · exact hundue
    · exact hfound.orderly.known n (hidle ▸ List.mem_cons_self)
    · exact hfound.holds_taken hidle

/-- **A checkout.** -/
lemma checkout_searches : (checkout settings : Attempt World Nat).run.Obeys
    (search trouble settings were base number) (fun _ _ => True)
    (fun r x => x = r.toOption.elim .seeking .opened) .seeking := by
  let stage : Option Nat → Search := fun taken => taken.elim .seeking .opened
  refine Task.Obeys.map (D := seekers) stage (fun _ _ _ => trivial) ?_ ?_ (fun _ _ _ => trivial) ?_
    (checkout_seeks settings)
  · rintro (_ | n) s (_ | m) s' hs hmay
    · exact ⟨hmay.stock ▸ hs.1, hmay.stock ▸ hs.2⟩
    · obtain ⟨rfl, hrest⟩ := hmay
      have htaken : (Search.opened (take s).1).Knows trouble settings were base number (take s).2 :=
        knows_take hs
      rw [Search.Knows, ← hrest.stock] at htaken
      exact htaken
    · exact hmay.elim
    · obtain ⟨rfl, hrest⟩ := hmay
      have hopened : (Search.opened n).Knows trouble settings were base number s := hs
      rw [Search.Knows, ← hrest.stock] at hopened
      exact hopened
  · rintro _ _ rfl
    rfl
  · rintro r _ rfl
    rfl

/-- **Whoever gets hold of a lease** knows the tables of its connection. -/
theorem grab_searches {manager : Manager World}
    (hpool : manager.pool = besetPool trouble settings) :
    manager.grab.run.Obeys (search trouble settings were base number) (fun _ _ => True) Search.Ends
      .seeking := by
  obtain ⟨pool, closed, wrapping, timeout⟩ := manager
  obtain rfl : pool = besetPool trouble settings := hpool
  have hensure : (Manager.ensureOpen ⟨besetPool trouble settings, closed, wrapping,
    timeout⟩).run.Obeys
      (search trouble settings were base number) (fun _ _ => True) (fun _ x => x = .seeking)
        .seeking := by
    intro s hs
    refine ⟨.seeking, hs, ?_⟩
    dsimp only
    split <;> rfl
  refine Attempt.obeys_bind hensure ?_ fun _ _ h => h
  rintro _ _ rfl
  refine Attempt.obeys_bind checkout_searches ?_ fun _ _ h => h
  rintro n _ rfl s ⟨hfound, hundue, hknown, hheld⟩
  refine ⟨.leased n s.leaseCount, ?_, rfl⟩
  rintro rfl rfl
  have hjobs : (Pool.startWatchedLease n s).2.leaseJobs = s.leaseJobs ++ [.watch n s.leaseCount] :=
    World.leaseJobs_spawn (.watch n s.leaseCount) nofun _
  have hstock : stock (Pool.startWatchedLease n s).2
      = { stock s with jobs := (stock s).jobs ++ [.watch n s.leaseCount] } :=
    congrArg (Stock.mk s.links.get s.linkCount s.books.idle) hjobs
  have hnew : (LeaseHost.leases s.leaseCount).get (Pool.startWatchedLease n s).2 = {} :=
    Table.get_put s.leases _ _
  refine ⟨congrArg LeaseState.plain hnew, ?_⟩
  show Tenure.Knows _ _ _ _ _
  rw [hstock]
  refine ⟨⟨hfound.orderly.known, hfound.orderly.place, hfound.orderly.usable, hfound.orderly.saved,
    hfound.orderly.nodup, hfound.orderly.cache⟩, fun hdue => ?_, hknown,
      fun m _ => hfound.content m, hheld⟩
  rcases List.mem_append.mp hdue with hdue | hdue
  · exact hundue _ (.inr rfl) hdue
  · simp at hdue

end Engine

end Transactional
