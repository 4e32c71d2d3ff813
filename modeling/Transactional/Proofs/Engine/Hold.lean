import Transactional.Proofs.Engine.Kept

/-!
# A connection in somebody's hands

Whoever has taken a connection out of the pool knows what it has noted, which statements are
prepared on it and which number comes next.  What he does is none of the business of those who have
other connections.  When the connection goes back, the pool puts it at rest if nothing is noted on
it, and else lets go of it.

* `World.leaseJobs` — the jobs that are due and concern leases.
* `Engine.Spares` — what leaves alone the other connections and the other leases.
* `Engine.Hold`, `Engine.hold` — what is known of the connection until it has been given back, and
  the discipline of knowing it.
* `Engine.call_holds` — using the connection.
* `Engine.release_holds` — destroying what is left, and giving the connection back.
-/

namespace Transactional

/-- **The jobs that are due and concern leases.** -/
def World.leaseJobs (s : World) : List Job :=
  (s.schedule.starts.map Prod.snd).filter (· ≠ .replenish)

lemma World.leaseJobs_of_starts {s s' : World} (h : s'.schedule.starts = s.schedule.starts) :
    s'.leaseJobs = s.leaseJobs := by
  rw [leaseJobs, h, leaseJobs]

lemma World.leaseJobs_spawn (job : Job) (hjob : job ≠ .replenish) (s : World) :
    (Host.spawn job s).leaseJobs = s.leaseJobs ++ [job] := by
  have hstarts : (Host.spawn job s).schedule.starts = s.schedule.starts
    ++ [(s.schedule.nextTask, job)] :=
    Schedule.starts_spawn job s.schedule
  rw [leaseJobs, hstarts]
  simp [leaseJobs, hjob]

namespace Engine

/-! ## What others have -/

/-- **Other connections and other leases are left alone**, and so is everything that is due. -/
structure Spares (base number : Nat) (s s' : World) : Prop where
  links : ∀ m ≠ base, ((link m).get s).Alike ((link m).get s')
  linkCount : s'.linkCount = s.linkCount
  leases : ∀ n ≠ number, ((LeaseHost.leases n).get s').plain = ((LeaseHost.leases n).get s).plain
  leaseCount : s'.leaseCount = s.leaseCount
  jobs : s'.leaseJobs = s.leaseJobs

lemma Link.Alike.trans {l l' l'' : Link} (h : l.Alike l') (h' : l'.Alike l'') : l.Alike l'' where
  place := h'.place.trans h.place
  lives := h'.lives.trans h.lives
  noted := h'.noted.trans h.noted
  saved hnone := h'.saved (h.saved hnone)
  statements := h'.statements.trans h.statements
  next := h'.next.trans h.next
  cache hfaithful := h'.cache (h.cache hfaithful)

namespace Spares

variable {base number : Nat} {s s' s'' : World}

lemma refl (s : World) : Spares base number s s :=
  ⟨fun _ _ => .refl _, rfl, fun _ _ => rfl, rfl, rfl⟩

lemma trans (h : Spares base number s s') (h' : Spares base number s' s'') :
    Spares base number s s'' :=
  ⟨fun m hm => (h.links m hm).trans (h'.links m hm), h'.linkCount.trans h.linkCount,
    fun n hn => (h'.leases n hn).trans (h.leases n hn), h'.leaseCount.trans h.leaseCount,
    h'.jobs.trans h.jobs⟩

lemma of_still (h : Host.Still (LeaseHost.leases number) s s') : Spares base number s s' where
  links m _ := .of_eq (h.same (link m).get (fun _ _ => rfl) (fun _ _ _ => rfl) fun _ _ => rfl)
  linkCount := h.same World.linkCount (fun _ _ => rfl) (fun _ _ _ => rfl) fun _ _ => rfl
  leases n hn := congrArg LeaseState.plain <| h.same (LeaseHost.leases n).get
    (fun v s => Table.get_put_of_ne hn s.leases v) (fun _ _ _ => rfl) fun _ _ => rfl
  leaseCount := h.same World.leaseCount (fun _ _ => rfl) (fun _ _ _ => rfl) fun _ _ => rfl
  jobs := h.same World.leaseJobs (fun _ _ => rfl) (fun _ _ hc => World.leaseJobs_of_starts hc)
    fun _ _ => rfl

lemma of_link (v : Link) (s : World) : Spares base number s ((link base).set v s) where
  links _ hm := .of_eq (Table.get_put_of_ne hm s.links v)
  linkCount := rfl
  leases _ _ := rfl
  leaseCount := rfl
  jobs := rfl

lemma books (h : Spares base number s s') (f : Books → Books) :
    Spares base number s (EngineHost.books.modify f s') :=
  ⟨h.links, h.linkCount, h.leases, h.leaseCount, h.jobs⟩

end Spares

/-! ## The discipline -/

/-- **What is known of a connection** that one has taken out of the pool. -/
inductive Hold where
  /-- One has it still: whether a transaction is noted, the numbers of the prepared statements, and
  the number of the next one. -/
  | kept (noted : Bool) (ids : List UInt64) (next : UInt64)
  | returned

/-- **The numbers of statements go on**: some are forgotten, or the next one is given out. -/
def Onward (ids : List UInt64) (next : UInt64) (ids' : List UInt64) (next' : UInt64) : Prop :=
  ids' ⊆ ids ∧ next' = next ∨ ids' = ids ++ [next] ∧ next' = next + 1

lemma Onward.refl (ids : List UInt64) (next : UInt64) : Onward ids next ids next :=
  .inl ⟨fun _ => id, rfl⟩

/-- **A connection is back in the pool**: at rest with nothing noted, or gone. -/
def Back (base : Nat) (next : UInt64) (s s' : World) : Prop :=
  s'.books.idle = s.books.idle ∧ ((link base).get s').place = .gone
    ∨ s'.books.idle = s.books.idle ++ [base] ∧ ((link base).get s').Kept .idle false [] next

/-- **What can be done with a connection** that one has taken out of the pool. -/
inductive Hold.May (base number : Nat) : Hold → World → Hold → World → Prop where
  | use {noted noted' : Bool} {ids ids' : List UInt64} {next next' : UInt64} {s s' : World}
      (spares : Spares base number s s') (idle : s'.books.idle = s.books.idle)
      (kept : ((link base).get s').Kept .lent noted' ids' next')
        (onward : Onward ids next ids' next') :
      May base number (.kept noted ids next) s (.kept noted' ids' next') s'
  | back {noted : Bool} {ids : List UInt64} {next : UInt64} {s s' : World}
      (spares : Spares base number s s') (back : Back base next s s')
      (closed : ((LeaseHost.leases number).get s').closed = true) :
      May base number (.kept noted ids next) s .returned s'
  | leave {s s' : World} (spares : Spares base number s s') (idle : s'.books.idle = s.books.idle)
      (alike : ((link base).get s).Alike ((link base).get s')) : May base number .returned s
        .returned s'

lemma Hold.May.spares {base number : Nat} {k k' : Hold} {s s' : World}
    (h : Hold.May base number k s k' s') : Spares base number s s' := by
  cases h with
  | use spares | back spares | leave spares => exact spares

/-- **The discipline of somebody who has taken a connection out of the pool.** -/
def hold (base number : Nat) : Discipline World Hold where
  knows
    | .kept noted ids next, s => ((link base).get s).Kept .lent noted ids next
    | .returned, _ => True
  may := Hold.May base number
  waits _ _ := True

variable {trouble : Trouble} {settings : Settings} {base number : Nat} {noted : Bool}
  {ids : List UInt64} {next : UInt64} {k k' : Hold} {s s' : World}

/-- **The lease makes no difference.** -/
lemma hold_tolerates :
    ((besetPool trouble settings).lease base number).Tolerates (hold base number) where
  still {k s s'} hs h := by
    have hlink : (link base).get s' = (link base).get s :=
      h.same (link base).get (fun _ _ => rfl) (fun _ _ _ => rfl) fun _ _ => rfl
    have hidle : s'.books.idle = s.books.idle :=
      h.same (fun s => s.books.idle) (fun _ _ => rfl) (fun _ _ _ => rfl) fun _ _ => rfl
    cases k with
    | kept noted ids next => exact .use (.of_still h) hidle (hlink.symm ▸ hs) (.refl ids next)
    | returned => exact .leave (.of_still h) hidle (.of_eq hlink)
  keeps {k s s'} hs h := by
    have hlink : (link base).get s' = (link base).get s :=
      h.same (link base).get (fun _ _ => rfl) (fun _ _ _ => rfl) fun _ _ => rfl
    cases k with
    | kept noted ids next =>
      show ((link base).get s').Kept .lent noted ids next
      rwa [hlink]
    | returned => trivial
  before {k s middle k' s'} _ h hmay := by
    have hspares : Spares base number s middle := .of_still h
    have hlink : (link base).get middle = (link base).get s :=
      h.same (link base).get (fun _ _ => rfl) (fun _ _ _ => rfl) fun _ _ => rfl
    have hidle : middle.books.idle = s.books.idle :=
      h.same (fun s => s.books.idle) (fun _ _ => rfl) (fun _ _ _ => rfl) fun _ _ => rfl
    cases hmay with
    | use spares idle kept onward =>
      exact .use (hspares.trans spares) (idle.trans hidle) kept onward
    | back spares back closed =>
      refine .back (hspares.trans spares) ?_ closed
      rwa [Back, hidle] at back
    | leave spares idle alike =>
      exact .leave (hspares.trans spares) (idle.trans hidle) (hlink ▸ alike)
  pause _ := trivial

/-- Using the connection beneath a lease. -/
abbrev handling (trouble : Trouble) (settings : Settings) (base number : Nat) :
    Discipline World Hold :=
  ((besetPool trouble settings).lease base number).besides (hold base number)

lemma handling_put {noted' : Bool} {ids' : List UInt64} {next' : UInt64} {l : Link}
    (kept : l.Kept .lent noted' ids' next') (onward : Onward ids next ids' next') (s : World) :
    (handling trouble settings base number).may (.kept noted ids next) s (.kept noted' ids' next')
      ((link base).set l s) := by
  refine ⟨rfl, .use (.of_link l s) rfl ?_ onward⟩
  rwa [(link base).get_set]

/-- **Using the connection**; the call may go wrong. -/
lemma call_holds {f : Link → Except Fault α × Link} {fails : World → Link → Option Mishap}
    (ends : Except Fault α → Hold → Prop)
    (hfails : ∀ s l mishap, l.Kept .lent noted ids next → fails s l = some mishap →
      (∀ database : Database, database.saved = none → (mishap.change database).saved = none)
        ∧ ends (.error mishap.fault) (.kept noted ids next))
    (hf : ∀ l, l.Kept .lent noted ids next → ∃ noted' ids' next',
      (f l).2.Kept .lent noted' ids' next' ∧ Onward ids next ids' next'
        ∧ ends (f l).1 (.kept noted' ids' next')) :
    (Attempt.step fun s => onOpen base (fun l => failing (fails s l) f l) s).run.Obeys
      (handling trouble settings base number) (fun _ _ => False) ends (.kept noted ids next) := by
  intro s hs
  have hkept : ((link base).get s).Kept .lent noted ids next := hs
  simp only [onOpen, hkept.lives]
  cases hmishap : fails s ((link base).get s) with
  | some mishap =>
    obtain ⟨hopens, hends⟩ := hfails s _ mishap hkept hmishap
    exact ⟨_, handling_put (hkept.mishap hopens) (.refl ids next) s, hends⟩
  | none =>
    obtain ⟨noted', ids', next', hkept', honward, hends⟩ := hf _ hkept
    exact ⟨_, handling_put hkept' honward s, hends⟩

/-! ## Giving the connection back -/

lemma destroy_holds (trouble : Trouble) (settings : Settings) (handle : StatementHandle)
    (hs : (hold base number).knows (.kept noted ids next) s) :
    (handling trouble settings base number).may (.kept noted ids next) s
      (.kept noted (ids.filter (· != handle.id)) next) ((beset trouble base).destroy handle s) := by
  have hkept : ((link base).get s).Kept .lent noted ids next := hs
  exact handling_put (hkept.destroy handle.id) (.inl ⟨List.filter_sublist.subset, rfl⟩) s

lemma destroyAll_holds (trouble : Trouble) (settings : Settings) (handles : List StatementHandle)
    (hs : (hold base number).knows (.kept noted ids next) s) :
    (handling trouble settings base number).may (.kept noted ids next) s
      (.kept noted (ids.filter fun id => !handles.any (·.id == id)) next)
      (((besetPool trouble settings).lease base number).destroyAll handles s) := by
  induction handles generalizing ids s with
  | nil =>
    have hkept : ((link base).get s).Kept .lent noted ids next := hs
    have hall : (ids.filter fun id => !([] : List StatementHandle).any (·.id == id)) = ids :=
      List.filter_eq_self.mpr fun _ _ => rfl
    rw [hall]
    exact ⟨rfl, .use (.refl s) rfl hkept (.refl ids next)⟩
  | cons handle rest ih =>
    obtain ⟨hlease, hfirst⟩ := destroy_holds trouble settings handle hs
    cases hfirst with
    | use spares idle kept onward =>
      obtain ⟨hlease', hrest⟩ := ih kept
      cases hrest with
      | use spares' idle' kept' onward' =>
        refine ⟨hlease'.trans hlease, .use (spares.trans spares') (idle'.trans idle) ?_
          (.inl ⟨List.filter_sublist.subset, rfl⟩)⟩
        have hfilter : (ids.filter (· != handle.id)).filter (fun id => !rest.any (·.id == id))
            = ids.filter fun id => !(handle :: rest).any (·.id == id) := by
          rw [List.filter_filter]
          refine List.filter_congr fun id _ => ?_
          rw [List.any_cons, Bool.not_or, Bool.and_comm, bne, Bool.beq_comm]
        rw [← hfilter]
        exact kept'

lemma notifyOne_spares (base number : Nat) (s : World) :
    Spares base number s (notifyOne s) ∧ (notifyOne s).books.idle = s.books.idle
      ∧ (∀ m, (link m).get (notifyOne s) = (link m).get s)
      ∧ (LeaseHost.leases number).get (notifyOne s) = (LeaseHost.leases number).get s := by
  unfold notifyOne
  split
  · exact ⟨.refl s, rfl, fun _ => rfl, rfl⟩
  next task rest _ =>
    refine ⟨⟨fun _ _ => .refl _, rfl, fun _ _ => rfl, rfl, ?_⟩, rfl, fun _ => rfl, rfl⟩
    exact World.leaseJobs_of_starts (Schedule.starts_wake task _)

/-- **A lease that has been closed gives the connection back**: the pool puts it at rest or lets go
of it. -/
lemma drop_holds (trouble : Trouble) (settings : Settings)
    (hclosed : ((LeaseHost.leases number).get s).closed = true)
    (hs : (hold base number).knows (.kept noted [] next) s) :
    (handling trouble settings base number).may (.kept noted [] next) s .returned
      (drop base s) := by
  have hkept : ((link base).get s).Kept .lent noted [] next := hs
  have hplace : ((link base).get s).place = .lent := hkept.place
  unfold drop
  simp only [hplace]
  unfold putBack
  have hbroken : ((link base).get s).isBroken = noted := by
    rw [Link.isBroken, hkept.lives, hkept.noted, Bool.false_or]
  rw [hbroken]
  cases noted with
  | true =>
    let gone : World := EngineHost.books.modify (fun b => { b with count := b.count - 1 }) <|
      (link base).modify (fun l => { l with place := .gone }) s
    obtain ⟨hspares, hidle, hlinks, hlease⟩ := notifyOne_spares base number gone
    have hgone : Spares base number s gone := (Spares.of_link _ s).books _
    refine ⟨congrArg LeaseState.plain hlease, .back (hgone.trans hspares) (.inl ⟨hidle, ?_⟩)
      ((congrArg LeaseState.closed hlease).trans hclosed)⟩
    refine (congrArg Link.place (hlinks base)).trans ?_
    exact congrArg Link.place ((link base).get_modify (fun l => { l with place := .gone }) s)
  | false =>
    let rested : World := EngineHost.books.modify (fun b => { b with idle := b.idle ++ [base] }) <|
      (link base).modify (fun l => { l with place := .idle }) s
    obtain ⟨hspares, hidle, hlinks, hlease⟩ := notifyOne_spares base number rested
    have hrested : Spares base number s rested := (Spares.of_link _ s).books _
    refine ⟨congrArg LeaseState.plain hlease, .back (hrested.trans hspares) (.inr ⟨hidle, ?_⟩)
      ((congrArg LeaseState.closed hlease).trans hclosed)⟩
    have hget : (link base).get rested = { (link base).get s with place := .idle } :=
      (link base).get_modify (fun l => { l with place := .idle }) s
    have hrest : ((link base).get rested).Kept .idle false [] next := hget ▸ hkept.move .idle
    exact hrest.alike (.of_eq (hlinks base))

end Engine

end Transactional
