import Transactional.Proofs.Engine.Hold
import Transactional.Proofs.Run.Staying

/-!
# Checking a connection of the SQL engine out

A checkout takes the connection that has rested longest, or a new one; up to then it does nothing
that concerns connections or leases, and it can be given up at any time.

* `Engine.Untouched`, `Engine.Elsewhere`, `Engine.Others` — what may happen beside all connections,
  beside those that are lent, and beside a single one.
* `Engine.Takes`, `Engine.Taken` — a connection has been taken.
* `Engine.seekers`, `Engine.checkout_obeys` — the discipline of looking for a connection, and a
  checkout keeps to it.
-/

namespace Transactional

namespace Engine

/-! ## What happens beside it -/

/-- **Neither connections nor leases have changed**, nor who is at rest, nor which jobs about leases
are due. -/
structure Untouched (s s' : World) : Prop where
  links : s'.links = s.links
  linkCount : s'.linkCount = s.linkCount
  idle : s'.books.idle = s.books.idle
  leases : s'.leases = s.leases
  leaseCount : s'.leaseCount = s.leaseCount
  jobs : s'.leaseJobs = s.leaseJobs

/-- **What may happen beside all connections that are lent**: those who own a connection of their
own may do with it what they like, and the pool may let go of connections at rest; but leases, their
jobs and the connections that are lent are left alone. -/
structure Elsewhere (s s' : World) : Prop where
  leases : ∀ n, ((LeaseHost.leases n).get s').plain = ((LeaseHost.leases n).get s).plain
  leaseCount : s'.leaseCount = s.leaseCount
  jobs : s'.leaseJobs = s.leaseJobs
  linkCount : s.linkCount ≤ s'.linkCount
  idle : s'.books.idle.Sublist s.books.idle
  rest : ∀ m ∈ s'.books.idle, ((link m).get s).Alike ((link m).get s')
  lent : ∀ m, ((link m).get s).place = .lent → ((link m).get s).Alike ((link m).get s')
  others : ∀ m, ((link m).get s).Alike ((link m).get s')
    ∨ ((link m).get s').place = .owned ∨ ((link m).get s').place = .gone

/-- **What leaves everything alone except one connection** and who is at rest. -/
structure Others (base : Nat) (s s' : World) : Prop where
  links : ∀ m ≠ base, ((link m).get s).Alike ((link m).get s')
  leases : ∀ n, ((LeaseHost.leases n).get s').plain = ((LeaseHost.leases n).get s).plain
  leaseCount : s'.leaseCount = s.leaseCount
  jobs : s'.leaseJobs = s.leaseJobs

/-- **A connection has been taken**: the one that has rested longest, or a new one. -/
inductive Taken (base : Nat) (s s' : World) : Prop where
  | rested (others : Others base s s') (count : s'.linkCount = s.linkCount)
      (idle : s.books.idle = base :: s'.books.idle)
      (moved : (link base).get s' = { (link base).get s with place := .lent })
  | new (others : Others base s s') (count : base = s.linkCount ∧ s'.linkCount = s.linkCount + 1)
      (idle : s'.books.idle = s.books.idle) (new : (link base).get s' = { place := .lent })

namespace Untouched

variable {s s' s'' : World}

lemma refl (s : World) : Untouched s s := ⟨rfl, rfl, rfl, rfl, rfl, rfl⟩

lemma trans (h : Untouched s s') (h' : Untouched s' s'') : Untouched s s'' :=
  ⟨h'.links.trans h.links, h'.linkCount.trans h.linkCount, h'.idle.trans h.idle,
    h'.leases.trans h.leases,
    h'.leaseCount.trans h.leaseCount, h'.jobs.trans h.jobs⟩

lemma schedule {f : Schedule → Schedule} (hf : ∀ c, (f c).starts = c.starts) (s : World) :
    Untouched s (Host.schedule.modify f s) :=
  ⟨rfl, rfl, rfl, rfl, rfl, World.leaseJobs_of_starts (hf _)⟩

lemma books {f : Books → Books} (hf : ∀ b, (f b).idle = b.idle) (s : World) :
    Untouched s (EngineHost.books.modify f s) :=
  ⟨rfl, rfl, hf _, rfl, rfl, rfl⟩

lemma order (settings : Settings) (s : World) : Untouched s (order settings s) := by
  unfold Engine.order
  split
  · refine ⟨rfl, rfl, rfl, rfl, rfl, ?_⟩
    have hstarts : (Host.spawn .replenish
        (EngineHost.books.modify (fun b => { b with opening := b.opening + 1 }) s)).schedule.starts
        = s.schedule.starts ++ [(s.schedule.nextTask, .replenish)] := Schedule.starts_spawn ..
    rw [World.leaseJobs, hstarts]
    simp [World.leaseJobs]
  · exact .refl s

lemma notifyOne (s : World) : Untouched s (notifyOne s) := by
  unfold Engine.notifyOne
  split
  · exact .refl s
  next task rest _ =>
    refine (books (f := fun b => { b with waiting := rest }) (fun _ => rfl) s).trans ?_
    exact schedule (Schedule.starts_wake task) _

lemma inLine_register (settings : Settings) (ticket self : Nat) (s : World) :
    Untouched s ((inLine settings ticket).register self s) := by
  simp only [inLine]
  split
  · exact .refl s
  · refine (books (f := fun b => { b with waiting := b.waiting ++ [(ticket, self)] })
      (fun _ => rfl) s).trans ?_
    exact order settings _

lemma leaveLine (ticket : Nat) (s : World) : Untouched s (leaveLine ticket s) :=
  books (fun b => (rfl : { b with waiting := b.waiting.filter (·.1 != ticket) }.idle = b.idle)) s

lemma inLine_abandon (settings : Settings) (ticket : Nat) (s : World) :
    Untouched s ((inLine settings ticket).abandon s) := by
  simp only [inLine]
  split
  · exact leaveLine ticket s
  · exact notifyOne s

lemma elsewhere (h : Untouched s s') : Elsewhere s s' := by
  have hlink : ∀ m, ((link m).get s).Alike ((link m).get s') := fun m =>
    .of_eq (congrArg (fun t : Table Nat Link => t.get m) h.links)
  exact ⟨fun n => congrArg (fun t : Table Nat LeaseState => (t.get n).plain) h.leases,
    h.leaseCount, h.jobs,
    h.linkCount.ge, h.idle ▸ .refl _, fun m _ => hlink m, fun m _ => hlink m,
      fun m => .inl (hlink m)⟩

end Untouched

namespace Elsewhere

variable {s s' s'' : World}

lemma refl (s : World) : Elsewhere s s := (Untouched.refl s).elsewhere

end Elsewhere

/-! ## Looking for a connection -/

lemma taken_take (s : World) : Taken (take s).1 s (take s).2 := by
  cases hidle : s.books.idle with
  | nil =>
    have htake : take s = newLink .lent
        (EngineHost.books.set { s.books with idle := [], count := s.books.count + 1 } s) := by
      simp only [take, show (EngineHost.books.get s).idle = [] from hidle]
      rw [← hidle]
      rfl
    rw [htake]
    exact .new ⟨fun m hm => .of_eq (Table.get_put_of_ne hm s.links _), fun _ => rfl, rfl, rfl⟩
      ⟨rfl, rfl⟩
      hidle.symm ((link s.linkCount).get_set _ _)
  | cons base rest =>
    let rested : World := EngineHost.books.set { s.books with idle := rest } s
    have htake : take s = (base, (link base).modify (fun l => { l with place := .lent })
      rested) := by
      simp only [take, show (EngineHost.books.get s).idle = base :: rest from hidle]
      rfl
    rw [htake]
    have hmoved : (link base).get ((link base).modify (fun l => { l with place := .lent }) rested)
        = { (link base).get s with place := .lent } := (link base).get_modify _ rested
    exact .rested ⟨fun m hm => .of_eq (Table.get_put_of_ne hm s.links _), fun _ => rfl, rfl,
      rfl⟩ rfl hidle
      hmoved

/-- **A connection is taken**, and nothing else happens. -/
def Takes (base : Nat) (s s' : World) : Prop :=
  base = (take s).1 ∧ Untouched (take s).2 s'

lemma Takes.taken {base : Nat} {s s' : World} (h : Takes base s s') : Taken base s s' := by
  obtain ⟨rfl, hrest⟩ := h
  have hlink : ∀ m, (link m).get s' = (link m).get (take s).2 := fun m =>
    congrArg (fun t : Table Nat Link => t.get m) hrest.links
  have hothers : Others (take s).1 s (take s).2 → Others (take s).1 s s' := fun h =>
    ⟨fun m hm => (h.links m hm).trans (.of_eq (hlink m)), fun n => (hrest.elsewhere.leases n).trans
      (h.leases n),
      hrest.leaseCount.trans h.leaseCount, hrest.jobs.trans h.jobs⟩
  cases taken_take s with
  | rested others count idle moved =>
    exact .rested (hothers others) (hrest.linkCount.trans count) (hrest.idle.symm ▸ idle)
      ((hlink _).trans moved)
  | new others count idle new =>
    exact .new (hothers others) ⟨count.1, hrest.linkCount.trans count.2⟩ (hrest.idle.trans idle)
      ((hlink _).trans new)

/-- **The discipline of looking for a connection**, until one has been taken. -/
def seekers : Discipline World (Option Nat) where
  knows _ _ := True
  may
    | none, s, none, s' => Untouched s s'
    | none, s, some base, s' => Takes base s s'
    | some base, s, some base', s' => base = base' ∧ Untouched s s'
    | some _, _, none, _ => False
  waits p _ := p = none

lemma seekers_timeless : seekers.Timeless where
  stay {x s} _ := by
    cases x with
    | none => exact Untouched.refl s
    | some base => exact ⟨rfl, .refl s⟩
  after {x s y s' f} hf h := by
    cases x with
    | none => cases y with
      | none => exact Untouched.trans h (.schedule hf s')
      | some base => exact ⟨h.1, h.2.trans (.schedule hf s')⟩
    | some base => cases y with
      | none => exact h
      | some base' => exact ⟨h.1, h.2.trans (.schedule hf s')⟩
  either _ h := h

lemma seekers_leaves {f : World → World} (hf : ∀ s, Untouched s (f s)) :
    Company.Leaves seekers (· = none) none f :=
  fun s _ => ⟨none, hf s, rfl⟩

/-- **Checking a connection out.** -/
theorem checkout_seeks (settings : Settings) :
    (checkout settings : Attempt World Nat).run.Obeys seekers
      (fun p f => p = none ∧ ∀ s, Untouched s (f s)) (fun r p => p = r.toOption) none := by
  have hline : ∀ ticket, (Task.wait (inLine settings ticket) (.act (leaveLine ticket) fun _ =>
      Task.step take) : Task World Nat).Obeys seekers (Company.Leaves seekers (· = none))
      (fun base p => p = some base) none := fun ticket =>
    ⟨rfl, seekers_leaves (Untouched.inLine_abandon settings ticket),
      fun self s _ => Untouched.inLine_register settings ticket self s,
      fun s _ _ => ⟨none, .refl s, fun s _ => ⟨none, Untouched.leaveLine ticket s,
        fun s _ => ⟨some (take s).1, ⟨rfl, .refl _⟩, rfl⟩⟩⟩⟩
  have hticket : ∀ s, Untouched s (Host.takeTicket s).2 :=
    fun s => .schedule (f := fun c => { c with nextTicket := c.nextTicket + 1 }) (fun _ => rfl) s
  have hwithin := Task.Obeys.within seekers_timeless
    (show ((Task.step Host.takeTicket).bind fun ticket => .wait (inLine settings ticket) <|
      .act (leaveLine ticket) fun _ => Task.step take : Task World Nat).Obeys seekers _ _ none from
      fun s _ => ⟨none, hticket s, hline _⟩) settings.patience
  intro s _
  refine ⟨none, .refl s, ?_⟩
  dsimp only
  split
  · rfl
  refine fun s _ => ⟨none, .books (f := fun b => { b with looking := b.looking + 1 })
    (fun _ => rfl) s, ?_⟩
  have hend : ∀ s : World, Untouched s (endLooking s) := fun s =>
    .books (f := fun b => { b with looking := b.looking - 1 }) (fun _ => rfl) s
  refine Task.Obeys.bind (show (Task.holding endLooking _).Obeys seekers _
    (fun r p => p = r) none from
    Task.Obeys.holding (hwithin.mono ?_ fun _ _ => id) ?_) ?_
  · intro p f hleaves
    cases p with
    | none =>
      refine ⟨rfl, fun s => ?_⟩
      obtain ⟨_, hmay, rfl⟩ := hleaves s trivial
      exact Untouched.trans hmay (hend (f s))
    | some base =>
      obtain ⟨_, hmay, rfl⟩ := hleaves {} trivial
      exact hmay.elim
  · rintro r p s ⟨hsome, hnone⟩ -
    cases r with
    | none =>
      obtain rfl := hnone rfl
      exact ⟨none, hend s, rfl⟩
    | some base =>
      obtain rfl := hsome base rfl
      exact ⟨some base, ⟨rfl, hend s⟩, rfl⟩
  · rintro (_ | base) p rfl <;> rfl

end Engine

end Transactional
