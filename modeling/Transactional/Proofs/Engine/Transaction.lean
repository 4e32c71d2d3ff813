import Transactional.Proofs.Engine.Tenure
import Transactional.Proofs.Run.Staying

/-!
# Transactions on the SQL engine

While a program goes on, the tables of its connection are those of before with the statements
applied that it has executed.  At the end of its transaction they are that for everybody if it has
been committed, and otherwise everybody has the tables of before, whatever went wrong and even if
rolling back went wrong too.

* `Operation.executed`, `Deed.executed`, `Program.Executes` — the statements that are executed.
* `Engine.Spared` — what others leave alone.
* `Engine.sole` — the discipline of a run that has a lease on a connection.
* `Engine.Serves` — a connection that is as good as the lease: `Engine.lease_serves`,
  `Engine.Serves.logged`.
* `Engine.Serves.account` — what a program makes of the tables.
* **`Engine.Serves.transaction`** — what is left after a transaction.
-/

namespace Transactional

/-! ## The statements that are executed -/

/-- The statement that a call executes, with its values. -/
def Memory.Call.executed? : Memory.Call → Option (String × List Scalar)
  | .execute _ sql bindings => some (sql, bindings)
  | _ => none

/-- **The statements that an operation executes.** -/
def Operation.executed (operation : Operation) : List (String × List Scalar) :=
  (operation.calls 0).filterMap Memory.Call.executed?

/-- **The statements that a deed has executed.** -/
def Deed.executed : Deed σ → List (String × List Scalar)
  | .performed operation (.ok _) => operation.executed
  | _ => []

/-- **A program may execute a text.** -/
def Program.Executes (program : Program σ) (sql : String) : Prop :=
  ∃ call, program.Asks 0 call ∧ call.executed?.map Prod.fst = some sql

namespace Engine

/-! ## Others -/

/-- What a connection is, up to those who watch it. -/
def Link.plain (link : Link) : Link :=
  { link with signal := { link.signal with waiting := [] } }

/-- **What others leave alone**: the lease, the connection as long as it is lent, and the tables of
all connections, as they would be without a transaction; they leave the pool in order, and have
nobody look after the lease. -/
structure Spared (base number : Nat) (s s' : World) : Prop where
  lease : ((LeaseHost.leases number).get s').plain = ((LeaseHost.leases number).get s).plain
  link : ((stock s).links base).place = .lent →
    ((stock s').links base).plain = ((stock s).links base).plain
  content : ∀ m, (stock s').content m = (stock s).content m
  count : (stock s).count ≤ (stock s').count
  orderly : (stock s).Orderly → (stock s').Orderly
  jobs : ∀ job, job = .watch base number ∨ job = .close base number → job ∈ (stock s').jobs → job
    ∈ (stock s).jobs

/-- **What can be relied on while a connection is lent.** -/
structure Lent (base : Nat) (s : World) : Prop where
  orderly : (stock s).Orderly
  known : base < (stock s).count
  place : ((stock s).links base).place = .lent

namespace Spared

variable {base number : Nat} {s s' s'' : World}

lemma refl (s : World) : Spared base number s s :=
  ⟨rfl, fun _ => rfl, fun _ => rfl, Nat.le_refl _, id, fun _ _ => id⟩

lemma of_same (hstock : stock s' = stock s)
    (hlease : (LeaseHost.leases number).get s' = (LeaseHost.leases number).get s) :
    Spared base number s s' :=
  ⟨congrArg LeaseState.plain hlease, fun _ => by rw [hstock], fun _ => by rw [hstock],
    by rw [hstock], by rw [hstock]; exact id, fun _ _ => by rw [hstock]; exact id⟩

lemma schedule {f : Schedule → Schedule} (hf : ∀ c, (f c).starts = c.starts) (s : World) :
    Spared base number s (Host.schedule.modify f s) :=
  .of_same (stock_schedule hf s) rfl

end Spared

lemma Link.Holds.of_plain {noted : Bool} {saved : Option (List StoredTable)}
    {tables : List StoredTable}
    {link link' : Link} (h : link.Holds noted saved tables) (hsame : link'.plain = link.plain) :
    link'.Holds noted saved tables where
  place := (congrArg Link.place hsame :).trans h.place
  lives := (congrArg Link.isTerminated hsame :).trans h.lives
  cache := by
    have hcache : link'.cache = link.cache := (congrArg Link.cache hsame :)
    exact hcache ▸ h.cache
  noted := (congrArg Link.inTransaction hsame :).trans h.noted
  saved := (congrArg (fun l => l.database.saved) hsame :).trans h.saved
  tables := (congrArg (fun l => l.database.tables) hsame :).trans h.tables

/-! ## A run with a lease -/

variable {trouble : Trouble} {settings : Settings} {were : Nat → List StoredTable}
  {base number : Nat}
  {T T' : List StoredTable} {x y : LeaseState × Tenure} {k : Tenure} {s s' : World}

/-- **The discipline of a run that has a lease** on a connection. -/
abbrev sole (trouble : Trouble) (settings : Settings) (were : Nat → List StoredTable)
    (base number : Nat) : Discipline World (LeaseState × Tenure) :=
  ((besetPool trouble settings).lease base number).alone (tenure were base number)

lemma knows_spared (hs : k.Knows were base number (stock s)) (h : Spared base number s s') :
    k.Knows were base number (stock s') := by
  have hknown : base < (stock s').count := Nat.lt_of_lt_of_le hs.known h.count
  refine ⟨h.orderly hs.orderly, fun hdue => hs.undue (h.jobs _ (.inr rfl) hdue), hknown,
    fun m hm => (h.content m).trans (hs.others m hm), ?_⟩
  have hown := hs.own
  cases k with
  | resting tables | begun tables =>
    have hheld : Link.Holds _ _ _ _ := hown
    exact hheld.of_plain (h.link hheld.place)
  | spent tables =>
    have hcontent := h.content base
    rw [Stock.content, Stock.content, if_pos hknown, if_pos hs.known] at hcontent
    exact hcontent.trans hown

lemma sole_spared (hs : (sole trouble settings were base number).knows x s)
    (h : Spared base number s s') : (sole trouble settings were base number).may x s x s' :=
  ⟨h.lease.trans hs.1, id, knows_spared hs.2 h, .inl⟩

lemma sole_timeless : (sole trouble settings were base number).Timeless where
  stay hs := sole_spared hs (.refl _)
  after {x s y s' f} hf hmay := by
    obtain ⟨hlease, hclosed, hknows, hover⟩ := hmay
    have hstock : stock (Host.schedule.modify f s') = stock s' := stock_schedule hf s'
    exact ⟨hlease, hclosed, hstock ▸ hknows, hover⟩
  either _ _ := trivial

/-- A transaction is open, and the tables are these. -/
def Runs (T : List StoredTable) (x : LeaseState × Tenure) : Prop :=
  ∃ handles, x = (.held true handles, .begun T)

/-- No transaction is open, and the tables are these. -/
def Rests (T : List StoredTable) (x : LeaseState × Tenure) : Prop :=
  ∃ handles, x = (.held false handles, .resting T)

/-- The lease has been closed, and the connection given back with these tables. -/
def Parts (T : List StoredTable) (x : LeaseState × Tenure) : Prop :=
  x = (.emptied false false, .spent T)

/-- Giving up in the middle of a transaction. -/
abbrev Cut (trouble : Trouble) (settings : Settings) (were : Nat → List StoredTable)
    (base number : Nat) : LeaseState × Tenure → (World → World) → Prop :=
  Company.Leaves (sole trouble settings were base number) fun y => ∃ T, Runs T y

lemma Runs.cut (h : Runs T x) : Cut trouble settings were base number x id :=
  fun _ hs => ⟨x, sole_spared hs (.refl _), T, h⟩

lemma begin_obeys (harmless : trouble.Harmless) :
    (beset trouble base).begin.run.Obeys (beneath trouble settings were base number)
      (fun _ _ => False)
      (fun r k => r = .ok () ∧ k = .begun (were base)
        ∨ (∃ fault, r = .error fault) ∧ k = .resting (were base))
      (.resting (were base)) := by
  refine onOpen_obeys (fun s _ => harmless _ s) rfl (fun link hlink => ?_)
    fun fault => .inr ⟨⟨fault, rfl⟩, rfl⟩
  obtain ⟨hok, hheld⟩ := Link.Holds.begin hlink
  exact ⟨.begun (were base), rfl, hheld, .inl ⟨hok, rfl⟩⟩

lemma commit_obeys (harmless : trouble.Harmless) (T : List StoredTable) :
    (beset trouble base).commit.run.Obeys (beneath trouble settings were base number)
      (fun _ _ => False)
      (fun r k => r = .ok () ∧ k = .resting T ∨ (∃ fault, r = .error fault) ∧ k = .begun T)
      (.begun T) := by
  refine onOpen_obeys (fun s _ => harmless _ s) rfl (fun link hlink => ?_)
    fun fault => .inr ⟨⟨fault, rfl⟩, rfl⟩
  obtain ⟨hok, hheld⟩ := Link.Holds.commit hlink
  exact ⟨.resting T, rfl, hheld, .inl ⟨hok, rfl⟩⟩

lemma rollback_obeys (harmless : trouble.Harmless) (T : List StoredTable) :
    (beset trouble base).rollback.run.Obeys (beneath trouble settings were base number)
      (fun _ _ => False)
      (fun r k => r = .ok () ∧ k = .resting (were base) ∨ (∃ fault, r = .error fault) ∧ k
        = .begun T)
      (.begun T) := by
  refine onOpen_obeys (fun s _ => harmless _ s) rfl (fun link hlink => ?_)
    fun fault => .inr ⟨⟨fault, rfl⟩, rfl⟩
  obtain ⟨hok, hheld⟩ := Link.Holds.rollback hlink
  exact ⟨.resting (were base), rfl, hheld, .inl ⟨hok, rfl⟩⟩

lemma prepare_obeys (harmless : trouble.Harmless) (T : List StoredTable) (sql : String)
    (kind : StatementKind) :
    ((beset trouble base).prepare sql kind).run.Obeys (beneath trouble settings were base number)
      (fun _ _ => False) (fun r k => k = .begun T ∧ ∀ handle, r = .ok handle → handle.sql = sql)
      (.begun T) := by
  refine onOpen_obeys (fun s _ => harmless _ s) rfl (fun link hlink => ?_)
    fun fault => ⟨rfl, by rintro _ ⟨⟩⟩
  obtain ⟨hheld, hsql⟩ := Link.Holds.prepareOn hlink sql kind
  exact ⟨.begun T, rfl, hheld, rfl, hsql⟩

/-- **A statement that succeeds** has done what it says. -/
lemma execute_obeys (harmless : trouble.Harmless) (T : List StoredTable)
    (handle : StatementHandle) (bindings : List Scalar) (hplain : Plain handle.sql) :
    ((beset trouble base).execute handle bindings).run.Obeys
      (beneath trouble settings were base number) (fun _ _ => False)
      (fun r k => ∃ T', k = .begun T' ∧ (r.toBool = true → T' = applied T (handle.sql, bindings)))
      (.begun T) := by
  refine onOpen_obeys ?_ rfl (fun link hlink => ?_) fun fault => ⟨T, rfl, by rintro ⟨⟩⟩
  · intro s link mishap hmishap
    split at hmishap
    · exact harmless _ s mishap hmishap
    · cases hmishap
  unfold executeOn
  split
  · obtain ⟨T', hheld, hok⟩ := Link.Holds.run hlink hplain handle.kind bindings
    refine ⟨.begun T', rfl, hheld, T', rfl, fun htrue => ?_⟩
    cases hresult : (run handle.sql handle.kind bindings link).1 with
    | error fault =>
      rw [hresult] at htrue
      cases htrue
    | ok outcome => exact hok outcome hresult
  · exact ⟨.begun T, rfl, hlink, T, rfl, by rintro ⟨⟩⟩

/-- **Destroying what is left, and giving the connection back.** -/
lemma release_may (hk : k.isOver = false) (handles : List StatementHandle)
    (hstate : ((LeaseHost.leases number).get s).plain = .emptied false true)
    (hs : k.Knows were base number (stock s)) :
    (sole trouble settings were base number).may (.emptied false true, k) s
      (.emptied false false, .spent (k.settled (were base)))
      (((besetPool trouble settings).lease base number).release
        (((besetPool trouble settings).lease base number).destroyAll handles s)) := by
  let cleared : World := ((besetPool trouble settings).lease base number).destroyAll handles s
  have hdestroyed : (beneath trouble settings were base number).may k s k cleared :=
    knows_destroyAll hk handles hs
  obtain ⟨hlease, hcleared, -⟩ := hdestroyed
  let deaf : World :=
    (LeaseHost.leases number).modify (fun state => { state with listening := false }) cleared
  have hplain : ((LeaseHost.leases number).get cleared).plain = .emptied false true :=
    hlease.trans hstate
  have hlistening : ((LeaseHost.leases number).get cleared).listening = true :=
    (congrArg LeaseState.listening hplain :)
  have hdeaf : ((LeaseHost.leases number).get deaf).plain = .emptied false false := by
    have hget : (LeaseHost.leases number).get deaf
        = { (LeaseHost.leases number).get cleared with listening := false } := Cell.get_modify ..
    rw [hget, LeaseState.eq_of_plain hplain]
    rfl
  have hstock : stock deaf = stock cleared := stock_of_still (.modify _ cleared)
  have hknows : k.Knows were base number (stock deaf) := hstock.symm ▸ hcleared
  have hdropped : (Tenure.spent (k.settled (were base))).Knows were base number
    (stock (drop base deaf))
      ∧ (LeaseHost.leases number).get (drop base deaf) = (LeaseHost.leases number).get deaf :=
    knows_drop hknows hk
  obtain ⟨hover, hsame⟩ := hdropped
  have hrelease : ((besetPool trouble settings).lease base number).release cleared
    = drop base deaf :=
    if_pos hlistening
  rw [hrelease]
  have hend : ((LeaseHost.leases number).get (drop base deaf)).plain = .emptied false false :=
    (congrArg LeaseState.plain hsame).trans hdeaf
  exact ⟨hend, fun _ => rfl, hover, fun _ => .inr (congrArg LeaseState.closed hend :)⟩

/-- **A connection that is as good as the lease** for a run. -/
structure Serves (trouble : Trouble) (settings : Settings) (were : Nat → List StoredTable)
    (base number : Nat) (conn : Connection World) : Prop where
  begin : ∀ {x}, Rests (were base) x →
    conn.begin.run.Obeys (sole trouble settings were base number) (fun _ _ => True)
      (fun r y => r = .ok () ∧ Runs (were base) y ∨ (∃ fault, r = .error fault)
        ∧ Rests (were base) y) x
  commit : ∀ {T x}, Runs T x →
    conn.commit.run.Obeys (sole trouble settings were base number) (fun _ _ => True)
      (fun r y => r = .ok () ∧ Rests T y ∨ (∃ fault, r = .error fault) ∧ Runs T y) x
  rollback : ∀ {T x}, Runs T x →
    conn.rollback.run.Obeys (sole trouble settings were base number) (fun _ _ => True)
      (fun r y => r = .ok () ∧ Rests (were base) y ∨ (∃ fault, r = .error fault) ∧ Runs T y) x
  prepare : ∀ {T x} (sql : String) (kind : StatementKind), Runs T x →
    (conn.prepare sql kind).run.Obeys (sole trouble settings were base number)
      (Cut trouble settings were base number)
      (fun r y => Runs T y ∧ ∀ handle, r = .ok handle → handle.sql = sql) x
  execute : ∀ {T x} (handle : StatementHandle) (bindings : List Scalar), Plain handle.sql →
    Runs T x →
    (conn.execute handle bindings).run.Obeys (sole trouble settings were base number)
      (Cut trouble settings were base number)
      (fun r y => ∃ T', Runs T' y ∧ (r.toBool = true → T' = applied T (handle.sql, bindings))) x
  destroy : ∀ {T x s} (handle : StatementHandle), Runs T x →
    (sole trouble settings were base number).knows x s →
    ∃ y, (sole trouble settings were base number).may x s y (conn.destroy handle s) ∧ Runs T y
  close : ∀ {T x}, (Rests T x ∨ T = were base ∧ ∃ T', Runs T' x) →
    conn.close.Obeys (sole trouble settings were base number) (fun _ _ => True) (fun _ => Parts T) x
  drop : ∀ s, ((LeaseHost.leases number).get s).closed = true → conn.drop s = s

/-- **Closing the lease** rolls back if a transaction is open, and gives the connection back. -/
lemma close_obeys (harmless : trouble.Harmless)
    (hx : Rests T x ∨ T = were base ∧ ∃ T', Runs T' x) :
    ((besetPool trouble settings).lease base number).connection.close.Obeys
      (sole trouble settings were base number) (fun _ _ => True) (fun _ => Parts T) x := by
  let tidied : Tenure → Prop := fun k => k.isOver = false ∧ k.settled (were base) = T
  have hback : ∀ handles k s, tidied k →
      (sole trouble settings were base number).knows (.emptied false true, k) s →
      ∃ k', (sole trouble settings were base number).may (.emptied false true, k) s
          (.emptied false false, k')
          (((besetPool trouble settings).lease base number).release
            (((besetPool trouble settings).lease base number).destroyAll handles s))
        ∧ k' = .spent T := by
    rintro handles k s ⟨hk, rfl⟩ ⟨hstate, hknows⟩
    exact ⟨_, release_may hk handles hstate hknows, rfl⟩
  rcases hx with ⟨handles, rfl⟩ | ⟨rfl, T', handles, rfl⟩
  · refine (Lease.shutdown_alone (apart ..) tenure_tolerates tidied (fun _ => trivial)
      (by rintro ⟨⟩) (fun _ => ⟨rfl, rfl⟩) (hback handles)).imp ?_
    rintro _ ⟨state, k⟩ ⟨rfl, rfl⟩
    rfl
  · refine (Lease.shutdown_alone (apart ..) tenure_tolerates tidied (fun _ => trivial)
      (fun _ => (rollback_obeys harmless T').imp ?_) (by rintro ⟨⟩) (hback handles)).imp ?_
    · rintro r k (⟨-, rfl⟩ | ⟨-, rfl⟩) <;> exact ⟨rfl, rfl⟩
    · rintro _ ⟨state, k⟩ ⟨rfl, rfl⟩
      rfl

/-- **The lease serves.** -/
lemma lease_serves (harmless : trouble.Harmless) : Serves trouble settings were base number
    ((besetPool trouble settings).lease base number).connection where
  begin := by
    rintro x ⟨handles, rfl⟩
    refine (Lease.operate_alone (apart ..) tenure_tolerates (fun _ _ => true) (fun _ => id)
      (fun _ => rfl) (begin_obeys harmless) trivial).imp ?_
    rintro r ⟨state, k⟩ ⟨⟨rfl, rfl⟩ | ⟨⟨fault, rfl⟩, rfl⟩, rfl⟩
    · exact .inl ⟨rfl, handles, rfl⟩
    · exact .inr ⟨⟨fault, rfl⟩, handles, rfl⟩
  commit := by
    rintro T x ⟨handles, rfl⟩
    refine (Lease.operate_alone (apart ..) tenure_tolerates (fun _ _ => false) (fun _ => id)
      (fun _ => rfl) (commit_obeys harmless T) trivial).imp ?_
    rintro r ⟨state, k⟩ ⟨⟨rfl, rfl⟩ | ⟨⟨fault, rfl⟩, rfl⟩, rfl⟩
    · exact .inl ⟨rfl, handles, rfl⟩
    · exact .inr ⟨⟨fault, rfl⟩, handles, rfl⟩
  rollback := by
    rintro T x ⟨handles, rfl⟩
    refine (Lease.operate_alone (apart ..) tenure_tolerates (fun _ _ => false) (fun _ => id)
      (fun _ => rfl) (rollback_obeys harmless T) trivial).imp ?_
    rintro r ⟨state, k⟩ ⟨⟨rfl, rfl⟩ | ⟨⟨fault, rfl⟩, rfl⟩, rfl⟩
    · exact .inl ⟨rfl, handles, rfl⟩
    · exact .inr ⟨⟨fault, rfl⟩, handles, rfl⟩
  prepare := by
    rintro T x sql kind ⟨handles, rfl⟩
    have hruns : Runs T (.held true handles, .begun T) := ⟨handles, rfl⟩
    refine (Lease.operate_alone (apart ..) tenure_tolerates (fun _ => id)
      (fun handle handles => handles ++ [handle]) (fun _ => rfl)
      (prepare_obeys harmless T sql kind) hruns.cut).imp ?_
    rintro r ⟨state, k⟩ ⟨⟨rfl, hsql⟩, rfl⟩
    refine ⟨?_, hsql⟩
    cases r with
    | error fault => exact ⟨handles, rfl⟩
    | ok handle => exact ⟨handles ++ [handle], rfl⟩
  execute := by
    rintro T x handle bindings hplain ⟨handles, rfl⟩
    have hruns : Runs T (.held true handles, .begun T) := ⟨handles, rfl⟩
    refine (Lease.operate_alone (apart ..) tenure_tolerates (fun _ => id) (fun _ => id)
      (fun _ => rfl) (execute_obeys harmless T handle bindings hplain) hruns.cut).imp ?_
    rintro r ⟨state, k⟩ ⟨⟨T', rfl, hok⟩, rfl⟩
    refine ⟨T', ⟨handles, ?_⟩, hok⟩
    cases r <;> rfl
  destroy := by
    rintro T x s handle ⟨handles, rfl⟩ hs
    have hdestroy : ∀ s, (Tenure.begun T).Knows were base number (stock s) →
        ∃ k', (beneath trouble settings were base number).may (.begun T) s k'
            ((beset trouble base).destroy handle s) ∧ k' = .begun T :=
      fun s hs => ⟨.begun T, knows_destroy hs rfl handle, rfl⟩
    obtain ⟨⟨state, k⟩, hmay, rfl, rfl⟩ := Lease.destroy_alone tenure_tolerates hdestroy hs
    exact ⟨_, hmay, _, rfl⟩
  close := close_obeys harmless
  drop s hclosed := if_pos hclosed

lemma Serves.logged {conn : Connection World} (h : Serves trouble settings were base number conn)
    {write : String → World → World} (hwrite : ∀ line s, Spared base number s (write line s)) :
    Serves trouble settings were base number (Connection.logged write conn) where
  begin hx _ hs := ⟨_, sole_spared hs (hwrite _ _), h.begin hx⟩
  commit hx _ hs := ⟨_, sole_spared hs (hwrite _ _), h.commit hx⟩
  rollback hx _ hs := ⟨_, sole_spared hs (hwrite _ _), h.rollback hx⟩
  prepare := h.prepare
  execute handle bindings hplain hx _ hs :=
    ⟨_, sole_spared hs (hwrite _ _), h.execute handle bindings hplain hx⟩
  destroy := h.destroy
  close := h.close
  drop := h.drop

/-! ## Programs -/

lemma replayed_append (executed more : List (String × List Scalar)) (T : List StoredTable) :
    replayed (executed ++ more) T = replayed more (replayed executed T) :=
  List.foldl_append

lemma replayed_singleton (executed : String × List Scalar) (T : List StoredTable) :
    replayed [executed] T = applied T executed := by
  simp only [replayed, List.foldl_cons, List.foldl_nil]

/-- The statements that calls execute neither begin nor end a transaction. -/
def Plainly (calls : List Memory.Call) : Prop :=
  ∀ call ∈ calls, ∀ executed, call.executed? = some executed → Plain executed.1

/-- **An attempt in the middle of a transaction**: it goes on, and if the attempt succeeds these
statements have been executed. -/
def Performs (trouble : Trouble) (settings : Settings) (were : Nat → List StoredTable)
    (base number : Nat) (Q : Except Fault α → Prop) (attempt : Attempt World α)
    (executed : List (String × List Scalar)) : Prop :=
  ∀ T x, Runs T x → attempt.run.Obeys (sole trouble settings were base number)
    (Cut trouble settings were base number)
    (fun r y => (∃ T', Runs T' y ∧ (r.toBool = true → T' = replayed executed T)) ∧ Q r) x

namespace Performs

variable {Q : Except Fault α → Prop} {executed more : List (String × List Scalar)}

lemma pure (r : Except Fault α) :
    Performs trouble settings were base number (fun _ => True) (Attempt.pureResult r) [] :=
  fun T _ hx => ⟨⟨T, hx, fun _ => rfl⟩, trivial⟩

/-- **One attempt after the other.** -/
lemma andThen {attempt : Attempt World α} {f : α → Attempt World β}
    (h : Performs trouble settings were base number Q attempt executed)
    (hf : ∀ a, Q (.ok a) → Performs trouble settings were base number (fun _ => True) (f a) more) :
    Performs trouble settings were base number (fun _ => True) (attempt >>= f)
      (executed ++ more) := by
  intro T x hx
  refine Attempt.obeys_bind (h T x hx) ?_ ?_
  · rintro a y ⟨⟨T', hy, hT'⟩, hQ⟩
    refine (hf a hQ T' y hy).imp ?_
    rintro r z ⟨⟨T'', hz, hT''⟩, -⟩
    refine ⟨⟨T'', hz, fun htrue => ?_⟩, trivial⟩
    rw [replayed_append, ← hT' rfl]
    exact hT'' htrue
  · rintro fault y ⟨⟨T', hy, -⟩, -⟩
    exact ⟨⟨T', hy, by rintro ⟨⟩⟩, trivial⟩

lemma andReturn {attempt : Attempt World α} {f : α → Attempt World β}
    (h : Performs trouble settings were base number Q attempt executed)
    (hf : ∀ a, ∃ r, f a = Attempt.pureResult r) :
    Performs trouble settings were base number (fun _ => True) (attempt >>= f) executed := by
  have hthen : Performs trouble settings were base number (fun _ => True) (attempt >>= f)
      (executed ++ []) := h.andThen fun a _ => by
    obtain ⟨r, hr⟩ := hf a
    rw [hr]
    exact pure r
  rwa [List.append_nil] at hthen

end Performs

namespace Serves

variable {conn : Connection World} (S : Serves trouble settings were base number conn)

include S

lemma query (statement : BoundStatement) (hplain : Plain statement.sql) :
    Performs trouble settings were base number (fun _ => True)
      (conn.query statement.kind statement.sql statement.params)
      [(statement.sql, statement.params)] := by
  have hprepare : Performs trouble settings were base number
      (fun r => ∀ handle, r = .ok handle → handle.sql = statement.sql)
      (conn.prepare statement.sql statement.kind) [] :=
    fun T _ hx => (S.prepare statement.sql statement.kind hx).imp
      fun _ _ hy => ⟨⟨T, hy.1, fun _ => rfl⟩, hy.2⟩
  refine hprepare.andThen fun handle hsql T x hx => ?_
  have hsql : handle.sql = statement.sql := hsql handle rfl
  refine (S.execute handle statement.params (hsql ▸ hplain) hx).bind ?_
  rintro r y ⟨T', hy, hT'⟩ s hs
  obtain ⟨z, hmay, hz⟩ := S.destroy handle hy hs
  refine ⟨z, hmay, ⟨T', hz, fun htrue => ?_⟩, trivial⟩
  rw [replayed_singleton, ← hsql]
  exact hT' htrue

lemma built (statement : Except Fault BoundStatement)
    (hplain : Plainly (BoundStatement.builtCalls 0 statement)) :
    Performs trouble settings were base number (fun _ => True) (conn.runBuilt statement)
      ((BoundStatement.builtCalls 0 statement).filterMap Memory.Call.executed?) := by
  cases statement with
  | error fault => exact Performs.pure (.error fault)
  | ok statement =>
    have hsql : Plain statement.sql := hplain (.execute 0 statement.sql statement.params)
      (by simp [BoundStatement.builtCalls, BoundStatement.calls])
        (statement.sql, statement.params) rfl
    exact S.query statement hsql

/-- **Every operation.** -/
lemma perform (operation : Operation) (hplain : Plainly (operation.calls 0)) :
    Performs trouble settings were base number (fun _ => True) (conn.perform operation)
      operation.executed := by
  cases operation with
  | query kind sql bindings =>
    have hsql : Plain sql := hplain (.execute 0 sql bindings)
      (by simp [Operation.calls, BoundStatement.calls]) (sql, bindings) rfl
    exact (S.query ⟨kind, sql, bindings⟩ hsql).andReturn fun outcome => ⟨.ok _, rfl⟩
  | insert table row =>
    have hbuilt := S.built (insertStatement table row) hplain
    refine (hbuilt.andReturn fun outcome => ?_).andReturn fun id => ⟨.ok _, rfl⟩
    cases outcome with
    | inserted number => exact ⟨.ok _, rfl⟩
    | _ => exact ⟨.error _, rfl⟩
  | update table row =>
    have hbuilt := S.built (updateStatement table row) hplain
    exact (hbuilt.andReturn fun _ => ⟨.ok _, rfl⟩).andReturn fun _ => ⟨.ok _, rfl⟩
  | delete table target =>
    have hbuilt := S.built (deleteStatement table target) hplain
    exact (hbuilt.andReturn fun _ => ⟨.ok _, rfl⟩).andReturn fun _ => ⟨.ok _, rfl⟩
  | read table key =>
    have hsql : Plain (readStatement table key).sql :=
      hplain (.execute 0 (readStatement table key).sql (readStatement table key).params)
        (by simp [Operation.calls, BoundStatement.calls])
        ((readStatement table key).sql, (readStatement table key).params) rfl
    refine ((S.query (readStatement table key) hsql).andReturn fun outcome => ?_).andReturn
      fun _ => ⟨.ok _, rfl⟩
    cases outcome with
    | rows set => exact ⟨.ok _, rfl⟩
    | _ => exact ⟨.error _, rfl⟩
  | prepare kind sql =>
    have hprepare : Performs trouble settings were base number (fun _ => True)
        (conn.prepare sql kind) [] :=
      fun T _ hx => (S.prepare sql kind hx).imp fun _ _ hy => ⟨⟨T, hy.1, fun _ => rfl⟩, trivial⟩
    exact hprepare.andReturn fun _ => ⟨.ok _, rfl⟩
  | execute statement bindings =>
    have hsql : Plain statement.sql :=
      hplain (.execute 0 statement.sql bindings) (by simp [Operation.calls])
        (statement.sql, bindings) rfl
    have hexecute : Performs trouble settings were base number (fun _ => True)
        (conn.execute statement bindings) [(statement.sql, bindings)] := by
      intro T _ hx
      refine (S.execute statement bindings hsql hx).imp ?_
      rintro _ _ ⟨T', hy, hT'⟩
      exact ⟨⟨T', hy, fun htrue => (hT' htrue).trans (replayed_singleton _ T).symm⟩, trivial⟩
    exact hexecute.andReturn fun _ => ⟨.ok _, rfl⟩
  | emit event => exact Performs.pure (.ok _)

omit S in
lemma future_obeys {task : Task World α} (h : task.Respects (Lent base) (Spared base number))
    (hx : Runs T x) : task.Obeys (sole trouble settings were base number)
      (Cut trouble settings were base number) (fun _ y => y = x) x := by
  have hlent : ∀ s, (sole trouble settings were base number).knows x s → Lent base s := by
    obtain ⟨handles, rfl⟩ := hx
    exact fun s hs => ⟨hs.2.orderly, hs.2.known, hs.2.own.place rfl⟩
  refine Task.Obeys.of_respects h hlent (fun s s' hs hspared => sole_spared hs hspared)
    (fun _ _ => trivial) fun f hf s hs => ⟨x, sole_spared hs (hf s (hlent s hs)), T, hx⟩

/-- **A program goes on as long as it goes**, and if it does not fail its statements have been
executed. -/
theorem account (program : Program World) (hplain : ∀ sql, program.Executes sql → Plain sql)
    (hlifts : program.Lifts fun task => task.Respects (Lent base) (Spared base number))
    (hx : Runs T x) :
    (program.account conn).Obeys (sole trouble settings were base number)
      (Cut trouble settings were base number)
      (fun told y => ∃ T', Runs T' y
        ∧ (told.1.result.toBool = true → T' = replayed (told.2.flatMap Deed.executed) T)) x := by
  induction program generalizing T x with
  | finish v | skip v => exact ⟨T, hx, fun _ => rfl⟩
  | fail fault => exact ⟨T, hx, by rintro ⟨⟩⟩
  | perform operation =>
    have hcalls : Plainly (operation.calls 0) := fun call hcall executed hexecuted =>
      hplain executed.1 ⟨call, hcall, by rw [hexecuted]; rfl⟩
    refine (S.perform operation hcalls T x hx).bind ?_
    rintro (fault | v) y ⟨⟨T', hy, hT'⟩, -⟩
    · exact ⟨T', hy, by rintro ⟨⟩⟩
    · refine ⟨T', hy, fun _ => (hT' rfl).trans ?_⟩
      rw [List.flatMap_singleton]
      rfl
  | await task =>
    refine (future_obeys hlifts hx).bind ?_
    rintro r y rfl
    exact ⟨T, hx, fun _ => rfl⟩
  | scope inner ih =>
    refine (ih hplain hlifts hx).bind ?_
    rintro ⟨exit, deeds⟩ y ⟨T', hy, hT'⟩
    refine ⟨T', hy, fun htrue => hT' ?_⟩
    cases exit with
    | value v | skipped v => rfl
    | failed fault => cases htrue
  | andThen first next ihf ihn =>
    unfold Program.account
    have hfirst : ∀ sql, first.Executes sql → Plain sql := by
      rintro sql ⟨call, hcall, hsql⟩
      exact hplain sql ⟨call, .inl hcall, hsql⟩
    refine (ihf hfirst hlifts.1 hx).bind ?_
    rintro ⟨exit, deeds⟩ y ⟨T', hy, hT'⟩
    cases exit with
    | value v =>
      have hnext : ∀ sql, (next v).Executes sql → Plain sql := by
        rintro sql ⟨call, hcall, hsql⟩
        exact hplain sql ⟨call, .inr ⟨v, hcall⟩, hsql⟩
      refine (ihn v hnext (hlifts.2 v) hy).bind ?_
      rintro ⟨exit, more⟩ z ⟨T'', hz, hT''⟩
      refine ⟨T'', hz, fun htrue => (hT'' htrue).trans ?_⟩
      rw [hT' rfl, List.flatMap_append, replayed_append]
    | skipped v | failed fault => exact ⟨T', hy, hT'⟩

/-- **The body of a run**, also if it is cut off at its limit. -/
theorem bodyAccount (limit : Option Duration) (program : Program World)
    (hplain : ∀ sql, program.Executes sql → Plain sql)
    (hlifts : program.Lifts fun task => task.Respects (Lent base) (Spared base number))
    (hx : Runs T x) :
    (Run.bodyAccount conn limit program).Obeys (sole trouble settings were base number)
      (Cut trouble settings were base number)
      (fun told y => ∃ T', Runs T' y
        ∧ (told.1.toBool = true → T' = replayed (told.2.flatMap Deed.executed) T)) x := by
  have hprogram := S.account program hplain hlifts hx
  cases limit with
  | none => exact hprogram.bind fun _ _ hy => hy
  | some d =>
    refine (hprogram.within sole_timeless d.ceilMillis).bind ?_
    rintro (_ | told) y ⟨htold, hcut⟩
    · obtain ⟨T', hy⟩ := hcut rfl
      exact ⟨T', hy, by rintro ⟨⟩⟩
    · exact htold told rfl

/-! ## Transactions -/

omit S in
lemma sole_report (trace : Trace) (hs : (sole trouble settings were base number).knows x s) :
    (sole trouble settings were base number).may x s x (Host.report trace s) :=
  sole_spared hs (.of_same rfl rfl)

/-- **Undoing a transaction** leaves the tables of before, also if rolling back fails twice. -/
lemma undo (cause : Fault) (hx : Runs T x) :
    (Run.undo conn cause).Obeys (sole trouble settings were base number) (fun _ _ => True)
      (fun r y => r = .error cause ∧ Parts (were base) y) x := by
  have hclose : ∀ {y}, (Rests (were base) y ∨ ∃ T', Runs T' y) →
      (conn.close.bind fun _ => .done (.error cause)).Obeys (sole trouble settings were base number)
        (fun _ _ => True)
        (fun (r : Except Fault Value) y => r = .error cause ∧ Parts (were base) y) y :=
    fun hy => (S.close (hy.imp_right fun h => ⟨rfl, h⟩)).bind fun _ _ hz => ⟨rfl, hz⟩
  unfold Run.undo Run.rollbackQuietly
  rw [Task.bind_assoc]
  refine (S.rollback hx).bind ?_
  rintro r y (⟨rfl, hy⟩ | ⟨⟨fault, rfl⟩, hy⟩)
  · exact hclose (.inl hy)
  · exact fun s hs => ⟨y, sole_report _ hs, hclose (.inr ⟨T, hy⟩)⟩

def left (before : List StoredTable) (told : Except Fault Value × List (Deed World)) :
    List StoredTable :=
  if told.1.toBool then replayed (told.2.flatMap Deed.executed) before else before

/-- **Concluding a transaction** leaves the tables that it has come to, if that succeeds. -/
lemma conclude {sink : Sink World} (hsink : ∀ event s, Spared base number s (sink.publish event s))
    (value : Value) (events : List Event) (hx : Runs T x) :
    (Run.conclude conn sink value events).Obeys (sole trouble settings were base number)
      (fun _ _ => True)
      (fun r y => Parts (if r.toBool then T else were base) y) x := by
  have hpublish : ∀ {y s}, (sole trouble settings were base number).knows y s →
      (sole trouble settings were base number).may y s y (sink.publishAll events s) := by
    intro y s hs
    induction events generalizing s with
    | nil => exact sole_spared hs (.refl s)
    | cons event rest ih =>
      have hfirst := sole_spared hs (hsink event s)
      exact ih ⟨hfirst.1, hfirst.2.2.1⟩
  refine (S.commit hx).bind ?_
  rintro r y (⟨rfl, hy⟩ | ⟨⟨fault, rfl⟩, hy⟩)
  · refine (S.close (.inl hy)).bind fun _ z hz s hs => ⟨z, hpublish hs, hz⟩
  · refine fun s hs => ⟨y, sole_report _ hs, (S.undo fault hy).imp ?_⟩
    rintro _ z ⟨rfl, hz⟩
    exact hz

lemma onAccount {sink : Sink World}
    (hsink : ∀ event s, Spared base number s (sink.publish event s)) (limit : Option Duration)
    (program : Program World) (hplain : ∀ sql, program.Executes sql → Plain sql)
    (hlifts : program.Lifts fun task => task.Respects (Lent base) (Spared base number))
    (hx : Rests (were base) x) :
    (Run.onAccount conn sink limit program).Obeys (sole trouble settings were base number)
      (fun _ _ => True) (fun told y => Parts (left (were base) told) y) x := by
  refine (S.begin hx).bind ?_
  rintro r y (⟨rfl, hy⟩ | ⟨⟨fault, rfl⟩, hy⟩)
  · refine ((S.bodyAccount limit program hplain hlifts hy).mono (fun _ _ _ => trivial)
      fun _ _ h => h).bind ?_
    rintro ⟨result, deeds⟩ z ⟨T', hz, hT'⟩
    cases result with
    | ok value =>
      refine (S.conclude hsink value (deeds.flatMap Deed.emitted) hz).bind fun outcome w hw => ?_
      obtain rfl : T' = replayed (deeds.flatMap Deed.executed) (were base) := hT' rfl
      exact hw
    | error fault =>
      refine (S.undo fault hz).bind ?_
      rintro _ w ⟨rfl, hw⟩
      exact hw
  · exact (S.close (.inl hy)).bind fun _ _ hz => hz

/-- **What is left after a transaction**: the tables of before with what has been executed applied
to them, if it succeeds, and else the tables of before. -/
theorem transaction {sink : Sink World}
    (hsink : ∀ event s, Spared base number s (sink.publish event s)) (limit : Option Duration)
    (program : Program World) (hplain : ∀ sql, program.Executes sql → Plain sql)
    (hlifts : program.Lifts fun task => task.Respects (Lent base) (Spared base number))
    (hx : Rests (were base) x) :
    (Task.holding conn.drop (Run.onAccount conn sink limit program)).Obeys
      (sole trouble settings were base number) (fun _ _ => True)
      (fun told y => Parts (left (were base) told) y) x := by
  refine (S.onAccount hsink limit program hplain hlifts hx).holding fun told y s hy hs => ?_
  have hclosed : ((LeaseHost.leases number).get s).closed = true := by
    obtain ⟨hstate, -⟩ := hs
    rw [hy] at hstate
    exact (congrArg LeaseState.closed hstate :)
  rw [S.drop s hclosed]
  exact ⟨y, sole_spared hs (.refl s), hy⟩

end Serves

end Engine

end Transactional
