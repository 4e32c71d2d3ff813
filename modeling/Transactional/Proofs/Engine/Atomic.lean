import Transactional.Proofs.Engine.Search

/-!
# A run on the SQL engine has its whole effect or none

When a run is over that has failed, every connection has the tables that it had before, wherever the
run has failed, and even if rolling back has failed as well.  When it has succeeded, its connection
has those with the statements applied that it has executed, and the others have theirs.

* `Engine.Considerate`, `Engine.Solitary` — what may happen around a run.
* `Engine.Idle`, `Engine.Attended` — what is true of a run before and after it has a lease.
* `Engine.Solitary.tracks` — it stays true whatever happens.
* **`Engine.all_or_nothing`** — what is true when the run is over.
-/

namespace Transactional

namespace Engine

variable {trouble : Trouble} {settings : Settings} {were : Nat → List StoredTable}
  {base number : Nat}
  {s s' : World} {α : Type}

/-! ## Those who do not write -/

/-- What concerns only those who watch connections leaves the pool in order. -/
lemma Stock.Orderly.of_plain {stock stock' : Stock} (h : stock.Orderly)
    (hlinks : ∀ m, (stock'.links m).plain = (stock.links m).plain)
    (hcount : stock'.count = stock.count)
    (hidle : stock'.idle = stock.idle) : stock'.Orderly := by
  refine ⟨?_, ?_, ?_, ?_, hidle ▸ h.nodup, fun m => ?_⟩
  · rw [hidle, hcount]
    exact h.known
  · rw [hidle]
    exact fun m hm => (congrArg Link.place (hlinks m) :).trans (h.place m hm)
  · rw [hidle]
    exact fun m hm => (congrArg Link.isBroken (hlinks m) :).trans (h.usable m hm)
  · rw [hidle]
    exact fun m hm => (congrArg (fun l => l.database.saved) (hlinks m) :).trans (h.saved m hm)
  · have hcache : (stock'.links m).cache = (stock.links m).cache :=
      (congrArg Link.cache (hlinks m) :)
    exact hcache ▸ h.cache m

lemma Spared.of_plain (hlease : ((LeaseHost.leases number).get s').plain
      = ((LeaseHost.leases number).get s).plain)
    (hlinks : ∀ m, ((stock s').links m).plain = ((stock s).links m).plain)
    (hcount : (stock s').count = (stock s).count) (hidle : (stock s').idle = (stock s).idle)
    (hjobs : ∀ job ∈ (stock s').jobs, job ∈ (stock s).jobs) : Spared base number s s' := by
  refine ⟨hlease, fun _ => hlinks base, fun m => ?_, hcount.ge, fun h => h.of_plain hlinks
    hcount hidle,
    fun job _ => hjobs job⟩
  rw [Stock.content, Stock.content, hcount]
  exact if_congr Iff.rfl (congrArg (fun l => l.database.committed) (hlinks m) :) rfl

lemma spared_takeOff (turn : Turn) (s : World) : Spared base number s (Company.takeOff turn s) := by
  refine .of_plain rfl (fun _ => rfl) rfl rfl fun job hjob => ?_
  have hstarts : (Company.takeOff turn s).schedule.starts.Sublist s.schedule.starts :=
    List.erase_sublist.filterMap _
  exact ((hstarts.map Prod.snd).filter _).subset hjob

lemma mem_leaseJobs {n : TaskId} {job : Job} (hdue : .start n job ∈ (Host.schedule.get s).ready)
    (hjob : job ≠ .replenish) : job ∈ (stock s).jobs := by
  have hstarts : (n, job) ∈ s.schedule.starts := List.mem_filterMap.mpr ⟨_, hdue, rfl⟩
  exact List.mem_filter.mpr ⟨List.mem_map.mpr ⟨_, hstarts, rfl⟩, by simpa using hjob⟩

/-- **Opening another connection** takes a single turn. -/
lemma poll_replenish (self : TaskId) (s : World) :
    ((replenish : Task World Unit).poll self s).1 = .done ()
      ∧ stock ((replenish : Task World Unit).poll self s).2
        = { (stock s).grown .idle with idle := (stock s).idle ++ [(stock s).count] }
      ∧ ∀ m, (LeaseHost.leases m).get ((replenish : Task World Unit).poll self s).2
        = (LeaseHost.leases m).get s := by
  let opened : World := EngineHost.books.modify
    (fun b =>
      { b with idle := b.idle ++ [s.linkCount], count := b.count + 1, opening := b.opening - 1 })
    (newLink .idle s).2
  have hpoll : (replenish : Task World Unit).poll self s = (.done (), notifyOne opened) := rfl
  have hset := stock_set s.linkCount { place := .idle } s
  rw [hpoll]
  refine ⟨rfl, ?_, fun m => leases_notifyOne m opened⟩
  rw [stock_notifyOne]
  exact congrArg
    (fun t : Stock => { t with count := s.linkCount + 1, idle := s.books.idle ++ [s.linkCount] })
      hset

lemma spared_replenish (self : TaskId) (hknown : base < (stock s).count)
    (horderly : (stock s).Orderly) :
    Spared base number s ((replenish : Task World Unit).poll self s).2 := by
  obtain ⟨-, hstock, hleases⟩ := poll_replenish self s
  have hfound : Found (stock s).content (stock ((replenish : Task World Unit).poll self s).2) :=
    hstock ▸ Found.grown_idle ⟨horderly, fun _ => rfl⟩
  refine ⟨congrArg LeaseState.plain (hleases number), fun _ => ?_, hfound.content, ?_,
    fun _ => hfound.orderly,
    fun _ _ => ?_⟩ <;> rw [hstock]
  · exact congrArg Link.plain (Stock.links_put_of_ne hknown.ne _ _)
  · exact Nat.le_succ _
  · exact id

/-- **Looking after a lease** that is not to be ended. -/
lemma poll_watch (self : TaskId)
    (h : ((link base).get s).place = .lent ∧ ((link base).get s).isTerminated = false
      ∨ ((LeaseHost.leases number).get s).closed = true) :
    let polled := (((besetPool trouble settings).lease base number).watch false).poll self s
    (polled.1 = ((besetPool trouble settings).lease base number).watch false ∨ polled.1 = .done ())
      ∧ Spared base number s polled.2 := by
  let lease : Lease World := (besetPool trouble settings).lease base number
  show ((Task.poll self (lease.watch false) s).1 = _ ∨ _) ∧ Spared base number s _
  rw [Lease.watch, Task.poll]
  split
  · rw [Task.poll]
    cases hend : lease.base.watch.ending? s with
    | none => exact ⟨.inr rfl, .refl s⟩
    | some status =>
      have hclosed : ((LeaseHost.leases number).get s).closed = true := by
        refine h.resolve_left fun hlent => ?_
        obtain ⟨hplace, hlives⟩ := hlent
        have hopen : ((link base).get s).signal.status.isTerminal = false := hlives
        have hnone : lease.base.watch.ending? s = none := by
          show (connection base : Connection World).watch.ending? s = none
          simp [Watch.ending?, connection, hplace, hopen]
        rw [hnone] at hend
        cases hend
      let marked : World := (LeaseHost.leases number).modify
        (fun state => { state with closed := true }) s
      have hshutdown : (lease.shutdown status).poll self s = (.done (), marked) := by
        have hcell : (lease.cell.get s).closed = true := hclosed
        simp only [Lease.shutdown, Task.poll, hcell, if_true]
        rfl
      have hsame : ({ (LeaseHost.leases number).get s with closed := true } : LeaseState)
          = (LeaseHost.leases number).get s := by rw [← hclosed]
      simp only [Bool.false_and, Bool.false_eq_true, if_false, id, hshutdown]
      refine ⟨.inr trivial, .of_plain ?_ (fun _ => rfl) rfl rfl fun _ => id⟩
      exact congrArg LeaseState.plain ((Cell.get_modify _ _ s).trans hsame)
  · refine ⟨.inl rfl, .of_plain ?_ (fun m => ?_) rfl rfl fun _ => id⟩
    · have hget : (LeaseHost.leases number).get (lease.eitherEnd.register self s)
          = { (LeaseHost.leases number).get s with
              signal := ((LeaseHost.leases number).get s).signal.join self } := Cell.get_set ..
      rw [hget]
      simp only [LeaseState.plain, Signal.join]
      split <;> rfl
    · by_cases hm : m = base
      · subst hm
        have hget : (stock (lease.eitherEnd.register self s)).links m
            = { (stock s).links m with signal := ((stock s).links m).signal.join self } :=
          Table.get_put s.links m _
        rw [hget]
        simp only [Link.plain, Signal.join]
        split <;> rfl
      · exact congrArg Link.plain (Table.get_put_of_ne hm s.links _)

/-! ## A run and what happens around it -/

/-- **What may happen around a run** that has a lease, or will have it: those who look after the
lease begin when they are due, and so do those who open connections; everybody else leaves it alone.
-/
def Considerate (base number : Nat) (s : World) : Company.Move World → Prop
  | .front | .beside _ _ => True
  | .start _ job => job = .watch base number ∨ job = .close base number ∨ job = .replenish
  | .around change => Spared base number s (change s)

/-- **A run without a lease**: the pool is as it was found, and is given connections at most. -/
structure Idle (were : Nat → List StoredTable) (base number : Nat)
    (c : Company World α) : Prop where
  found : Found were (stock c.state)
  undue : Undue base number (stock c.state)
  beside : ∀ strand ∈ c.beside, strand.task = replenish ∨ strand.task = .done ()

lemma Idle.take {c : Company World α} (h : Idle were base number c) {move : Company.Move World}
    (hmove : Considerate base number c.state move) (hne : move ≠ .front) :
    Idle were base number (c.take (besetPool trouble settings).perform move) := by
  obtain ⟨s, front, beside⟩ := c
  obtain ⟨hfound, hundue, hbeside⟩ := h
  have hspared : ∀ {s'}, Spared base number s s' → Found were (stock s') ∧ Undue base number
    (stock s') :=
    fun h => ⟨hfound.spared h, fun job hjob hdue => hundue job hjob (h.jobs job hjob hdue)⟩
  cases move with
  | front => exact absurd rfl hne
  | beside place self =>
    simp only [Company.take]
    cases hplace : beside[place]? with
    | none => exact ⟨hfound, hundue, hbeside⟩
    | some strand =>
      have hturn : ((strand.task.poll self s).1 = .done ())
          ∧ Found were (stock (strand.task.poll self s).2)
          ∧ Undue base number (stock (strand.task.poll self s).2) := by
        rcases hbeside strand (List.mem_of_getElem? hplace) with htask | htask <;> rw [htask]
        · obtain ⟨hdone, hstock, -⟩ := poll_replenish self s
          rw [hstock]
          exact ⟨hdone, hfound.grown_idle, hundue⟩
        · exact ⟨rfl, hfound, hundue⟩
      refine ⟨hturn.2.1, hturn.2.2, fun other hother => ?_⟩
      rcases List.mem_or_eq_of_mem_set hother with hother | rfl
      · exact hbeside other hother
      · exact .inr hturn.1
  | start n job =>
    simp only [Company.take]
    split
    next hdue =>
      obtain ⟨htaken, hnobody⟩ := hspared (spared_takeOff (.start n job) s)
      refine ⟨htaken, hnobody, fun other hother => ?_⟩
      rcases List.mem_append.mp hother with hother | hother
      · exact hbeside other hother
      · rw [List.mem_singleton.mp hother]
        rcases hmove with rfl | rfl | rfl
        · exact absurd (mem_leaseJobs hdue (by simp)) (hundue _ (.inl rfl))
        · exact absurd (mem_leaseJobs hdue (by simp)) (hundue _ (.inr rfl))
        · exact .inl rfl
    next => exact ⟨hfound, hundue, hbeside⟩
  | around change =>
    obtain ⟨hfound', hundue'⟩ := hspared hmove
    exact ⟨hfound', hundue', hbeside⟩

/-- **A run that looks for a lease.** -/
structure Searching (trouble : Trouble) (settings : Settings) (were : Nat → List StoredTable)
    (base number : Nat)
    (c : Company World (Except Fault (Nat × Nat))) : Prop extends Idle were base number c where
  front : c.front.Obeys (search trouble settings were base number) (fun _ _ => True)
    Search.Ends .seeking

/-- **A turn** in which it gets hold of a lease, or is refused one, or neither. -/
lemma Searching.turn {c : Company World (Except Fault (Nat × Nat))}
    (h : Searching trouble settings were base number c)
    {c' : Company World (Except Fault (Nat × Nat))}
    (hc' : c' = c.take (besetPool trouble settings).perform .front) :
    (c'.front = .done (.ok (base, number)) →
        (sole trouble settings were base number).knows
          (.held false [], .resting (were base)) c'.state)
      ∧ (∀ fault, c'.front = .done (.error fault) → Idle were base number c')
      ∧ (c'.front.result? = none → Searching trouble settings were base number c') := by
  obtain ⟨x, hx, hknows, -⟩ := h.front.poll (R := fun _ _ => True) (fun _ => trivial)
    (fun _ _ => trivial) (fun _ hmay => ⟨hmay, trivial⟩) Company.frontTask ⟨h.found, h.undue⟩
  obtain rfl := hc'
  have hrests := Company.rests_poll Company.frontTask c.front c.state
  have hidle : x = .seeking → Idle were base number
    (c.take (besetPool trouble settings).perform .front) := by
    rintro rfl
    exact ⟨hknows.1, hknows.2, h.beside⟩
  simp only [Company.take] at hidle ⊢
  cases htask : (c.front.poll Company.frontTask c.state).1 with
  | done r =>
    rw [htask] at hx hidle
    refine ⟨?_, ?_, fun hwaits => by simp [Task.result?] at hwaits⟩
    · rintro ⟨⟩
      obtain rfl : x = .leased base number := hx
      exact hknows rfl rfl
    · rintro fault ⟨⟩
      exact hidle hx
  | act update next =>
    rw [htask] at hrests
    exact hrests.elim
  | wait on next =>
    rw [htask] at hx hidle
    obtain rfl : x = .seeking := hx.1
    exact ⟨fun hdone => by simp at hdone, fun _ hdone => by simp at hdone, fun _ => ⟨hidle rfl, hx⟩⟩

/-- **The discipline of a run that has a lease**, which it has closed when it has given the
connection back. -/
def tended (trouble : Trouble) (settings : Settings) (were : Nat → List StoredTable)
    (base number : Nat) :
    Discipline World (LeaseState × Tenure) where
  knows x s := (sole trouble settings were base number).knows x s
    ∧ (x.2.isOver = true → x.1.closed = true)
  may x s y s' := (sole trouble settings were base number).may x s y s'
    ∧ (y.2.isOver = true → y.1.closed = true)
  waits := (sole trouble settings were base number).waits

lemma tended_of_sole {task : Task World α} {ends : α → LeaseState × Tenure → Prop}
    {x : LeaseState × Tenure}
    (h : task.Obeys (sole trouble settings were base number) (fun _ _ => True) ends x) :
    task.Obeys (tended trouble settings were base number) (fun _ _ => True) ends x := by
  refine Task.Obeys.map (D := sole trouble settings were base number) id (fun _ _ hs => hs.1) ?_
    (fun _ _ => id)
    (fun _ _ => id) (fun _ _ => id) h
  rintro x s y s' ⟨-, hx⟩ hmay
  refine ⟨hmay, fun hy => ?_⟩
  obtain ⟨hstate, hclosed, -, hover⟩ := hmay
  rcases hover hy with hover | hdone
  · exact hclosed (hx hover)
  · exact (congrArg LeaseState.closed hstate).symm.trans hdone

/-- **Helping a run that has a lease**: to look after it, to open connections, or to have done so.
-/
inductive Helps (trouble : Trouble) (settings : Settings) (base number : Nat) :
    Task World Unit → Prop where
  | watch : Helps trouble settings base number
      (((besetPool trouble settings).lease base number).watch false)
  | replenish : Helps trouble settings base number Engine.replenish
  | done : Helps trouble settings base number (.done ())

/-- **A run that has a lease**, and those who help it. -/
structure Attended (trouble : Trouble) (settings : Settings) (were : Nat → List StoredTable)
    (base number : Nat)
    (c : Company World (Except Fault Value × List (Deed World))) : Prop where
  front : ∃ x, (tended trouble settings were base number).knows x c.state
    ∧ c.front.Obeys (tended trouble settings were base number) (fun _ _ => True)
      (fun told y => Parts (Serves.left (were base) told) y) x
  beside : ∀ strand ∈ c.beside, Helps trouble settings base number strand.task

lemma tended_spared {x : LeaseState × Tenure}
    (hs : (tended trouble settings were base number).knows x s)
    (h : Spared base number s s') : (tended trouble settings were base number).knows x s' := by
  obtain ⟨hlease, -, hknows, -⟩ := sole_spared hs.1 h
  exact ⟨⟨hlease, hknows⟩, hs.2⟩

/-- **Those who help a run** leave everything as it is known. -/
lemma helps_poll {x : LeaseState × Tenure}
    (hs : (tended trouble settings were base number).knows x s)
    {task : Task World Unit} (htask : Helps trouble settings base number task) (self : TaskId) :
    Helps trouble settings base number (task.poll self s).1 ∧ Spared base number s
      (task.poll self s).2 := by
  obtain ⟨⟨hlease, hknows⟩, hover⟩ := hs
  cases htask with
  | watch =>
    have hends : ((link base).get s).place = .lent ∧ ((link base).get s).isTerminated = false
        ∨ ((LeaseHost.leases number).get s).closed = true := by
      cases hk : x.2.isOver with
      | false => exact .inl ⟨hknows.own.place hk, hknows.own.lives hk⟩
      | true => exact .inr ((congrArg LeaseState.closed hlease :).trans (hover hk))
    obtain ⟨htask | htask, hspared⟩ := poll_watch self hends
    · exact ⟨by rw [htask]; exact .watch, hspared⟩
    · exact ⟨by rw [htask]; exact .done, hspared⟩
  | replenish =>
    refine ⟨?_, spared_replenish self hknows.known hknows.orderly⟩
    rw [(poll_replenish self s).1]
    exact .done
  | done => exact ⟨.done, .refl s⟩

/-- **Whatever happens**, what is known of the lease and of the tables stays true. -/
lemma Attended.take {c : Company World (Except Fault Value × List (Deed World))}
    (h : Attended trouble settings were base number c) {move : Company.Move World}
    (hmove : Considerate base number c.state move) :
    Attended trouble settings were base number
      (c.take (besetPool trouble settings).perform move) := by
  obtain ⟨s, front, beside⟩ := c
  obtain ⟨⟨x, hs, hobeys⟩, hbeside⟩ := h
  cases move with
  | front =>
    have hstay : ∀ {x s y s'}, (tended trouble settings were base number).may x s y s' →
        (tended trouble settings were base number).knows y s' := by
      rintro x s y s' ⟨⟨hlease, -, hknows, -⟩, hover⟩
      exact ⟨⟨hlease, hknows⟩, hover⟩
    obtain ⟨y, hy, hknows, -⟩ := hobeys.poll (R := fun _ _ => True) (fun _ => trivial)
      (fun _ _ => trivial)
      (fun _ hmay => ⟨hstay hmay, trivial⟩) Company.frontTask hs
    exact ⟨⟨y, hknows, hy⟩, hbeside⟩
  | beside place self =>
    simp only [Company.take]
    cases hplace : beside[place]? with
    | none => exact ⟨⟨x, hs, hobeys⟩, hbeside⟩
    | some strand =>
      obtain ⟨hhelps, hspared⟩ := helps_poll hs (hbeside strand (List.mem_of_getElem? hplace)) self
      refine ⟨⟨x, tended_spared hs hspared, hobeys⟩, fun other hother => ?_⟩
      rcases List.mem_or_eq_of_mem_set hother with hother | rfl
      · exact hbeside other hother
      · exact hhelps
  | start n job =>
    simp only [Company.take]
    split
    next hdue =>
      refine ⟨⟨x, tended_spared hs (spared_takeOff (.start n job) s), hobeys⟩,
        fun other hother => ?_⟩
      rcases List.mem_append.mp hother with hother | hother
      · exact hbeside other hother
      · rw [List.mem_singleton.mp hother]
        rcases hmove with rfl | rfl | rfl
        · exact .watch
        · exact absurd (mem_leaseJobs hdue (by simp)) hs.1.2.undue
        · exact .replenish
    next => exact ⟨⟨x, hs, hobeys⟩, hbeside⟩
  | around change => exact ⟨⟨x, tended_spared hs hmove, hobeys⟩, hbeside⟩

/-! ## From beginning to end -/

/-- **A run on the SQL engine which nobody meddles with**: its connection and its lease are the
given ones, if it is given any, or else the pool is said to be left alone in the same way; the lease
may write a log; the futures of the program, those who receive its events, and everybody else leave
the tables as they are. -/
structure Solitary (trouble : Trouble) (settings : Settings) (base number : Nat)
    (manager : Manager World)
    (sink : Sink World) (limit : Option Duration) (program : Program World) (s₀ : World)
    (moves : List (Company.Move World)) : Prop where
  pool : manager.pool = besetPool trouble settings
  wrapping : manager.wrapping = none ∨ ∃ write, manager.wrapping = some (Connection.logged write)
    ∧ ∀ line s, Spared base number s (write line s)
  publishing : ∀ event s, Spared base number s (sink.publish event s)
  futures : program.Lifts fun task => task.Respects (Lent base) (Spared base number)
  hand : ∀ held, Run.hand manager s₀ moves = some held → held = (base, number)
  orderly : (stock s₀).Orderly
  undue : Undue base number (stock s₀)
  heeds : Company.Heeds manager.pool.perform (Considerate base number)
    (Company.opening (runWith manager sink limit program).run s₀) moves

namespace Solitary

variable {manager : Manager World} {sink : Sink World} {limit : Option Duration}
  {program : Program World}
  {s₀ : World} {moves : List (Company.Move World)}
  (h : Solitary trouble settings base number manager sink limit program s₀ moves)

include h

lemma serves (harmless : trouble.Harmless) :
    Serves trouble settings were base number (manager.handedOut (base, number)) := by
  have hlease : Serves trouble settings were base number
    ((besetPool trouble settings).lease base number).connection :=
    lease_serves harmless
  have hhanded : manager.handedOut (base, number)
      = manager.wrap ((besetPool trouble settings).lease base number).connection := by
    rw [Manager.handedOut, h.pool]
  rw [hhanded, Manager.wrap]
  rcases h.wrapping with hnone | ⟨write, hsome, hwrite⟩
  · rwa [hnone]
  · rw [hsome]
    exact hlease.logged hwrite

/-- **What is true of a run that has found a lease**, or has been refused one. -/
def Goes (trouble : Trouble) (settings : Settings) (were : Nat → List StoredTable)
    (base number : Nat)
    (grabbed : Except Fault (Nat × Nat))
    (c : Company World (Except Fault Value × List (Deed World))) : Prop :=
  (grabbed = .ok (base, number) → Attended trouble settings were base number c)
    ∧ ∀ fault, grabbed = .error fault → c.front = .done (.error fault, []) ∧ Idle were base number c

/-- **What stays true of a run**, whatever happens to it. -/
lemma tracks (harmless : trouble.Harmless) (hplain : ∀ sql, program.Executes sql → Plain sql) :
    Run.Tracks manager sink limit program (Considerate base number)
      (Searching trouble settings were base number) (Goes trouble settings were base number) where
  own _ := trivial
  seeking := by
    intro c move hseeks hmove hnone
    rw [h.pool] at hnone ⊢
    by_cases hfront : move = .front
    · subst hfront
      exact (hseeks.turn rfl).2.2 hnone
    · refine ⟨hseeks.toIdle.take hmove hfront, ?_⟩
      rw [Company.front_take _ c hfront]
      exact hseeks.front
  found := by
    intro c grabbed hseeks hdone
    rw [h.pool] at hdone ⊢
    obtain ⟨hheld, hrefused, -⟩ := hseeks.turn rfl
    refine ⟨?_, ?_⟩
    · rintro rfl
      have hknows : (tended trouble settings were base number).knows
          (.held false [], .resting (were base))
            (c.take (besetPool trouble settings).perform .front).state :=
        ⟨hheld hdone, nofun⟩
      have hserves : Serves trouble settings were base number (manager.handedOut (base, number)) :=
        h.serves harmless
      have hrests : Rests (were base) (LeaseState.held false [], Tenure.resting (were base)) :=
        ⟨[], rfl⟩
      have hobeys := hserves.transaction h.publishing limit program hplain h.futures hrests
      have hattended : Attended trouble settings were base number
          ((c.take (besetPool trouble settings).perform .front).led
            (Run.transact manager sink limit program (.ok (base, number)))) := by
        refine ⟨⟨_, hknows, tended_of_sole hobeys⟩, fun strand hstrand => ?_⟩
        rcases hseeks.beside strand hstrand with htask | htask <;> rw [htask]
        · exact .replenish
        · exact .done
      exact hattended.take (trivial : Considerate base number _ .front)
    · rintro fault rfl
      have hidle := hrefused fault hdone
      exact ⟨rfl, ⟨hidle.found, hidle.undue, hidle.beside⟩⟩
  going := by
    intro grabbed c move hgoes hmove
    rw [h.pool]
    refine ⟨fun hgrabbed => (hgoes.1 hgrabbed).take hmove, fun fault hgrabbed => ?_⟩
    obtain ⟨hdone, hidle⟩ := hgoes.2 fault hgrabbed
    by_cases hfront : move = .front
    · subst hfront
      rw [Company.take, hdone]
      exact ⟨rfl, hidle.found, hidle.undue, hidle.beside⟩
    · exact ⟨(Company.front_take _ c hfront).trans hdone, hidle.take hmove hfront⟩

lemma goes (harmless : trouble.Harmless) (hplain : ∀ sql, program.Executes sql → Plain sql)
    {grabbed : Except Fault (Nat × Nat)}
    (hgrabbed : (Run.grabbing manager s₀ moves).front = .done grabbed) :
    Goes trouble settings (stock s₀).content base number grabbed
      (Run.recounted manager sink limit program s₀ moves) :=
  ((h.tracks harmless hplain).recounted
    ⟨⟨⟨h.orderly, fun _ => rfl⟩, h.undue, nofun⟩, grab_searches h.pool⟩ h.heeds).2 grabbed hgrabbed

/-- **A run that has had a lease** has given its connection back, with the tables that its account
says. -/
lemma parted (harmless : trouble.Harmless) (hplain : ∀ sql, program.Executes sql → Plain sql)
    (hhand : Run.hand manager s₀ moves = some (base, number))
    {told : Except Fault Value × List (Deed World)}
    (hover : (Run.recounted manager sink limit program s₀ moves).front = .done told) :
    ((LeaseHost.leases number).get (Run.recounted manager sink limit program s₀
      moves).state).listening = false
      ∧ (stock (Run.recounted manager sink limit program s₀ moves).state).Orderly
      ∧ (stock (Run.recounted manager sink limit program s₀ moves).state).content base
        = Serves.left ((stock s₀).content base) told
      ∧ ∀ m ≠ base, (stock (Run.recounted manager sink limit program s₀ moves).state).content m
        = (stock s₀).content m := by
  obtain ⟨⟨x, ⟨⟨hlease, hknows⟩, -⟩, hobeys⟩, -⟩ :=
    (h.goes harmless hplain (Run.grabbing_of_hand hhand)).1 rfl
  rw [hover] at hobeys
  obtain rfl : x = (.emptied false false, .spent (Serves.left ((stock s₀).content base) told)) :=
    hobeys
  exact ⟨(congrArg LeaseState.listening hlease :), hknows.orderly, hknows.content, hknows.others⟩

/-- **A run that has been refused a lease** leaves all tables as they are. -/
lemma refused (harmless : trouble.Harmless) (hplain : ∀ sql, program.Executes sql → Plain sql)
    {fault : Fault}
    (hrefused : (Run.grabbing manager s₀ moves).front = .done (.error fault)) :
    (Run.recounted manager sink limit program s₀ moves).front = .done (.error fault, [])
      ∧ (stock (Run.recounted manager sink limit program s₀ moves).state).Orderly
      ∧ ∀ m, (stock (Run.recounted manager sink limit program s₀ moves).state).content m
        = (stock s₀).content m := by
  obtain ⟨hdone, hidle⟩ := (h.goes harmless hplain hrefused).2 fault rfl
  exact ⟨hdone, hidle.found.orderly, hidle.found.content⟩

end Solitary

/-- **A run has its whole effect or none**, wherever it fails, and whatever else fails then: if it
has failed, all tables are what they were before, and its connection has been given back; if it has
succeeded, those of its connection are what they were with the statements applied, one after the
other, that it has executed.  No connection is at rest with a transaction open, so these tables are
what the next one to come finds. -/
theorem all_or_nothing {manager : Manager World} {sink : Sink World} {limit : Option Duration}
    {program : Program World} {s₀ : World} {moves : List (Company.Move World)}
    {outcome : Except Fault Value}
    (harmless : trouble.Harmless) (hplain : ∀ sql, program.Executes sql → Plain sql)
    (h : Solitary trouble settings base number manager sink limit program s₀ moves)
    (hover : (Run.unfolded manager sink limit program s₀ moves).front = .done outcome) :
    let after : World := (Run.unfolded manager sink limit program s₀ moves).state
    ∃ deeds, (Run.recounted manager sink limit program s₀ moves).front = .done (outcome, deeds)
      ∧ (Run.hand manager s₀ moves = some (base, number) →
          ((LeaseHost.leases number).get after).listening = false)
      ∧ (stock after).Orderly
      ∧ (∀ fault, outcome = .error fault → ∀ m, (stock after).content m = (stock s₀).content m)
      ∧ ∀ value, outcome = .ok value → Run.hand manager s₀ moves = some (base, number)
          ∧ (stock after).content base
            = replayed (deeds.flatMap Deed.executed) ((stock s₀).content base)
          ∧ ∀ m ≠ base, (stock after).content m = (stock s₀).content m := by
  intro after
  obtain ⟨deeds, hdone, hstate⟩ := Run.recounted_of_unfolded manager sink limit program s₀
    moves hover
  have hafter : after = (Run.recounted manager sink limit program s₀ moves).state := hstate.symm
  rw [hafter]
  refine ⟨deeds, hdone, fun hhand => (h.parted harmless hplain hhand hdone).1, ?_⟩
  obtain ⟨fault | held, hgrabbed⟩ := Run.grabbed_of_over sink limit program hdone
  · obtain ⟨hfront, horderly, hcontent⟩ := h.refused harmless hplain hgrabbed
    obtain ⟨rfl, rfl⟩ := Prod.mk.inj (Task.done.inj (hdone.symm.trans hfront))
    refine ⟨horderly, fun _ _ => hcontent, ?_⟩
    rintro value ⟨⟩
  · have hhand := Run.hand_of_done hgrabbed []
    rw [List.append_nil] at hhand
    obtain rfl := h.hand held hhand
    obtain ⟨-, horderly, hown, hothers⟩ := h.parted harmless hplain hhand hdone
    refine ⟨horderly, ?_, ?_⟩
    · rintro fault rfl m
      by_cases hm : m = base
      · rw [hm]
        exact hown
      · exact hothers m hm
    · rintro value rfl
      exact ⟨hhand, hown, hothers⟩

/-! ## A run that creates a table -/

/-- Neither a commit nor a rollback succeeds. -/
def stuck : Trouble
  | .commit _, _ | .rollback _, _ => some { fault := .engine "disk I/O error" }
  | _, _ => none

def creation : String := "CREATE TABLE t (id INTEGER PRIMARY KEY)"

def creating : Program World := .perform (.query .other creation [])

/-- A connection is opened for whoever looks for a lease. -/
def obliging : List (Company.Move World) := [.start 1 .replenish, .beside 0 2, .front]

lemma creating_plain : ∀ sql, creating.Executes sql → Plain sql := by
  rintro sql ⟨call, hcall, hsql⟩
  have hcreation : Plain creation := by
    unfold Plain creation
    decide +kernel
  simp only [creating, Program.Asks, Operation.calls, BoundStatement.calls, List.mem_cons,
    List.not_mem_nil, or_false] at hcall
  rcases hcall with rfl | rfl | rfl
  · cases hsql
  · obtain rfl : creation = sql := Option.some.inj hsql
    exact hcreation
  · cases hsql

lemma solitary_creating (hhand : Run.hand (World.manager (besetPool trouble .single)) {} obliging
      = some (0, 0)) :
    Solitary trouble .single 0 0 (World.manager (besetPool trouble .single)) .discard none creating
      {} obliging where
  pool := rfl
  wrapping := .inl rfl
  publishing _ s := .refl s
  futures := trivial
  hand _ hheld := Option.some.inj (hheld.symm.trans hhand)
  orderly := ⟨nofun, nofun, nofun, nofun, List.nodup_nil, fun _ _ => nofun⟩
  undue _ _ := nofun
  heeds := ⟨.inr (.inr rfl), trivial, trivial, trivial⟩

def created (trouble : Trouble) : Company World (Except Fault Value × List (Deed World)) :=
  Run.recounted (World.manager (besetPool trouble .single)) .discard none creating {} obliging

/-- How it has ended: with a fault, or with a value. -/
def ended? (trouble : Trouble) : Option (Option Fault) :=
  (created trouble).front.result?.map fun
    | (.error fault, _) => some fault
    | (.ok _, _) => none

lemma unfolded_of_ended {fault : Option Fault} (h : ended? trouble = some fault) :
    let run := Run.unfolded (World.manager (besetPool trouble .single)) .discard none creating
      {} obliging
    ∃ outcome, run.front = .done outcome ∧ run.state = (created trouble).state
      ∧ ∀ f, fault = some f ↔ outcome = .error f := by
  obtain ⟨⟨outcome, deeds⟩, hresult, hfault⟩ := Option.map_eq_some_iff.mp h
  obtain ⟨hfront, hstate⟩ := Run.unfolded_of_recounted (Task.done_of_result hresult)
  refine ⟨outcome, hfront, hstate, fun f => ?_⟩
  rw [← hfault]
  cases outcome <;> simp

/-- A run that can neither commit nor roll back leaves nothing behind, and one that can leaves its
table. -/
theorem all_or_nothing_creating :
    (ended? stuck = some (some (.engine "disk I/O error"))
        ∧ ((LeaseHost.leases 0).get (created stuck).state).listening = false
        ∧ (stock (created stuck).state).Orderly
        ∧ ∀ m, (stock (created stuck).state).content m = [])
      ∧ ended? (fun _ _ => none) = some none
      ∧ ((stock (created fun _ _ => none).state).content 0).map StoredTable.name = ["t"]
      ∧ ∀ m ≠ 0, (stock (created fun _ _ => none).state).content m = [] := by
  have hfails : stuck.Harmless := by
    intro call s mishap hmishap
    cases call with
    | commit | rollback => rw [← Option.some.inj hmishap]
    | _ => cases hmishap
  have hnone : Trouble.Harmless fun _ _ => none := fun _ _ _ => nofun
  have hempty : ∀ m, (stock {}).content m = [] := fun m => if_neg (Nat.not_lt_zero m)
  have hstuck : ended? stuck = some (some (.engine "disk I/O error")) := by decide +kernel
  have hsmooth : ended? (fun _ _ => none) = some none := by decide +kernel
  have hhand : Run.hand (World.manager (besetPool stuck .single)) {} obliging = some (0, 0) := by
    decide +kernel
  have hhand' : Run.hand (World.manager (besetPool (fun _ _ => none) .single)) {} obliging
    = some (0, 0) := by
    decide +kernel
  refine ⟨⟨hstuck, ?_⟩, hsmooth, ?_⟩
  · obtain ⟨outcome, hover, hstate, hfault⟩ := unfolded_of_ended hstuck
    obtain ⟨deeds, -, hback, horderly, hbefore, -⟩ :=
      all_or_nothing hfails creating_plain (solitary_creating hhand) hover
    rw [hstate] at hback horderly hbefore
    exact ⟨hback hhand, horderly, fun m => (hbefore _ ((hfault _).mp rfl) m).trans (hempty m)⟩
  · obtain ⟨outcome, hover, hstate, hfault⟩ := unfolded_of_ended hsmooth
    obtain ⟨deeds, -, -, -, -, hafter⟩ :=
      all_or_nothing hnone creating_plain (solitary_creating hhand') hover
    cases outcome with
    | error fault => exact absurd ((hfault fault).mpr rfl) nofun
    | ok value =>
      rw [hstate] at hafter
      obtain ⟨-, -, hothers⟩ := hafter value rfl
      exact ⟨by decide +kernel, fun m hm => (hothers m hm).trans (hempty m)⟩

end Engine

end Transactional
