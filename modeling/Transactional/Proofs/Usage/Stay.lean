import Transactional.Proofs.Lease.Story
import Transactional.Proofs.Usage.Lent

/-!
# A lease leaves its connection as it was

Somebody has a lease to himself, uses it in some way, and closes it or lets go of it.  In between
failures may be injected and taken back, and whatever concerns neither the lease nor its connection
may happen; the connection itself does not end.  However the lease ends, the connection beneath sees
the same calls: a transaction that has not been finished is rolled back, what is left of the
statements is destroyed, and the connection is given back once.

* `Parting`, `Usage.until` — how a lease ends, and a usage with its end.
* `World.Around`, `Stay` — what happens around a lease, and everything that can happen in its time.
* `Station`, `stations` — what each of the tasks on the lease is at, and the discipline that they
  keep to.
* `Stay.kept` — there is always exactly one who has the lease in hand.
* **`left_as_found`** — what the connection beneath has seen in the end.
-/

namespace Transactional

/-- **How a lease ends.** -/
inductive Parting where
  | close
  | drop

def Parting.task (conn : Connection σ) : Parting → Task σ Unit
  | .close => conn.close
  | .drop => Task.change conn.drop

/-- **A usage, and then the end.** -/
def Usage.until (parting : Parting) (usage : Usage α) (conn : Connection σ) :
    Task σ (α × List Answered) :=
  (usage.on conn).bind fun x => (parting.task conn).bind fun _ => .done x

/-- **What may happen around a lease** whose connection does not end. -/
structure World.Around (base number : Nat) (s s' : World) : Prop where
  calls : s'.callsOn base = s.callsOn base
  link : ((Memory.link base).get s').plain = ((Memory.link base).get s).plain
  lease : ((LeaseHost.leases number).get s').plain = ((LeaseHost.leases number).get s).plain
  closings : s'.closings base number = s.closings base number

/-- **Everything that can happen in the time of a lease**: the task of whoever has it takes its
steps, so do the jobs of the lease while he waits or is gone, and other things happen around them.
It is counted how often the connection beneath is given back. -/
inductive Stay (base number : Nat) (task : Task World α) (s₀ : World) :
    Nat → Company World α → Prop where
  | start : Stay base number task s₀ 0 ⟨s₀, task, []⟩
  | step {given : Nat} {c c' : Company World α} (h : Stay base number task s₀ given c)
      (hstep : Company.Step (Memory.pool.Jobs base number) c c') :
      Stay base number task s₀ (given + (c'.state.accounts.released - c.state.accounts.released)) c'
  | around {given : Nat} {c : Company World α} {s' : World} (h : Stay base number task s₀ given c)
      (hout : World.Around base number c.state s') :
      Stay base number task s₀ given { c with state := s' }

/-- **A turn of a task is a part of such a time**: of whoever has the lease. -/
lemma Stay.turn {base number given : Nat} {task front : Task World α} {s₀ s : World}
    {beside : List (Strand World)} (self : TaskId)
    (story : Stay base number task s₀ given ⟨s, front, beside⟩) :
    ∃ given', Stay base number task s₀ given' ⟨(front.poll self s).2, (front.poll self s).1,
      beside⟩ := by
  induction front generalizing s given with
  | done a => exact ⟨given, story⟩
  | act update next ih => exact ih s (story.step (.front (.act update next s)))
  | wait on next ih =>
    rw [Task.poll]
    split
    next hready => exact ih (story.step (.front (.pass on next s hready)))
    next => exact ⟨_, story.step (.front (.register on next self s))⟩

lemma Stay.turn_beside {base number given : Nat} {task front : Task World α} {s₀ s : World}
    {strand : Task World Unit} {optional : Bool} (self : TaskId)
    (before after : List (Strand World))
    (hrest : front.Rests)
    (story : Stay base number task s₀ given ⟨s, front, before ++ ⟨strand, optional⟩ :: after⟩) :
    ∃ given', Stay base number task s₀ given'
      ⟨(strand.poll self s).2, front, before ++ ⟨(strand.poll self s).1, optional⟩ :: after⟩ := by
  induction strand generalizing s given with
  | done a => exact ⟨given, story⟩
  | act update next ih => exact ih s (story.step (.beside hrest (.act update next s)))
  | wait on next ih =>
    rw [Task.poll]
    split
    next hready => exact ih (story.step (.beside hrest (.pass on next s hready)))
    next => exact ⟨_, story.step (.beside hrest (.register on next self s))⟩

/-! ## The tasks on a lease -/

/-- **What a task on a lease is at.** -/
inductive Station where
  | user (x : LeaseState × Possession)
  | parted (m : Mirror)
  /-- It closes a lease with these books for somebody who has let go of it. -/
  | closer (m : Mirror) (x : LeaseState × Possession)
  | keeper
  | late

/-- **What a task on a lease may do.** -/
inductive Station.May (permit : Bool) (base number : Nat) :
    Station → World → Station → World → Prop where
  | use {x y : LeaseState × Possession} {s s' : World}
      (h : (lending permit base number).may x s y s') :
      May permit base number (.user x) s (.user y) s'
  | part {m : Mirror} {s : World} :
      May permit base number (.user m.stage) s (.parted m) (Host.spawn (.close base number) s)
  | close {m : Mirror} {x y : LeaseState × Possession} {s s' : World}
      (h : (lending permit base number).may x s y s') :
      May permit base number (.closer m x) s (.closer m y) s'
  | glance {p : Station} {s s' : World} (hp : p = .keeper ∨ p = .late)
      (h : World.Around base number s s')
      (hreleased : s'.accounts.released = s.accounts.released) : May permit base number p s p s'
  | notice {s : World} (h : ((LeaseHost.leases number).get s).closed = true) :
      May permit base number .keeper s .late s

/-- **The discipline of the tasks on a lease.** -/
def stations (permit : Bool) (base number : Nat) : Discipline World Station where
  knows
    | .user x, s | .closer _ x, s => (lending permit base number).knows x s
    | .parted _, _ => True
    | .keeper, s => ((Memory.connection base).watch.ending? s).isSome = true →
        ((LeaseHost.leases number).get s).closed = true
    | .late, s => ((LeaseHost.leases number).get s).closed = true
  may := Station.May permit base number
  waits
    | .closer _ _, ready => ready = (Task.pause : Wait World).ready
    | _, _ => True

/-- **When a task beside the others is over**: whoever closes the lease has closed it. -/
def Station.Past (base : Nat) : Station → Prop
  | .closer m x => x = m.final base
  | .user _ | .parted _ => False
  | .keeper | .late => True

variable {permit : Bool} {base number : Nat} {m : Mirror} {x y : LeaseState × Possession}
  {s s' : World}
  {α : Type} {gone : Station → (World → World) → Prop}

/-! ## What each of them does -/

namespace World.Around

lemma refl (s : World) : Around base number s s := ⟨rfl, rfl, rfl, rfl⟩

/-- **What statements produce and which calls fail** may change at any time. -/
lemma script {f : Memory.Backend → Memory.Backend}
    (hf : ∀ b, f b = { b with responses := (f b).responses, failures := (f b).failures })
    (s : World) :
    Around base number s (MemoryHost.backend.modify f s) := by
  have hsame : MemoryHost.backend.modify f s = { s with backend := f s.backend } := rfl
  rw [hsame, hf]
  exact ⟨rfl, rfl, rfl, rfl⟩

lemma knows (h : Around base number s s') (hs : (lending permit base number).knows x s) :
    (lending permit base number).knows x s' :=
  ⟨h.lease.trans hs.1, h.link.trans hs.2.link, h.calls.trans hs.2.calls⟩

end World.Around

lemma user_obeys {task : Task World α} {ends : α → LeaseState × Possession → Prop}
    (h : task.Obeys (lending permit base number) (fun _ _ => True) ends x) :
    task.Obeys (stations permit base number) (fun _ _ => True)
      (fun a p => ∃ y, p = .user y ∧ ends a y) (.user x) :=
  Task.Obeys.map (D := lending permit base number) Station.user (fun _ _ hs => hs)
    (fun _ _ _ _ _ h => .use h) (fun _ _ _ => trivial) (fun _ _ _ => trivial)
    (fun _ y hy => ⟨y, rfl, hy⟩) h

/-- **A usage with its end** keeps to the discipline. -/
theorem until_obeys (parting : Parting) (usage : Usage α) :
    (usage.until parting (Memory.pool.lease base number : Lease World).connection).Obeys
      (stations permit base number) (fun _ _ => True)
      (fun x p => m.Follows base x.2 ∧ match parting with
        | .close => p = .user ((m.play base x.2).final base)
        | .drop => p = .parted (m.play base x.2)) (.user m.stage) := by
  refine (user_obeys (usage.obeys fun _ => trivial)).bind ?_
  rintro x _ ⟨_, rfl, hfollows, rfl⟩
  cases parting with
  | close =>
    refine (user_obeys (close_obeys fun _ => trivial)).bind ?_
    rintro _ _ ⟨_, rfl, rfl⟩
    exact ⟨hfollows, rfl⟩
  | drop =>
    intro s hs
    have hopen : ((LeaseHost.leases number).get s).closed = false := congrArg LeaseState.closed hs.1
    have hdrop : (Memory.pool.lease base number : Lease World).connection.drop s
        = Host.spawn (.close base number) s := if_neg (Bool.eq_false_iff.mp hopen)
    refine ⟨.parted (m.play base x.2), ?_, hfollows, rfl⟩
    rw [hdrop]
    exact .part

/-- **Closing a lease for somebody who has let go of it.** -/
lemma closer_keeps :
    Company.Keeps (stations permit base number) (Station.Past base)
      ⟨(Memory.pool.lease base number).shutdown .closed, false⟩ (.closer m m.stage) := by
  have hclose : ((Memory.pool.lease base number : Lease World).shutdown .closed).Obeys
      (lending permit base number) (fun _ _ => True) (fun _ y => y = m.final base) m.stage :=
    close_obeys fun _ => trivial
  refine Task.Obeys.map (Station.closer m) (fun _ _ hs => hs) (fun _ _ _ _ _ h => .close h)
    (fun _ _ h => h) (fun _ _ _ => ?_) (fun _ _ h => h) hclose
  rintro ⟨⟩

lemma around_register (self : TaskId) (s : World) :
    World.Around base number s ((Memory.pool.lease base number).eitherEnd.register self s) := by
  let word : Memory.Link → Memory.Link := fun l => { l with signal := l.signal.join self }
  let note : LeaseState → LeaseState := fun state => { state with signal := state.signal.join self }
  refine ⟨rfl, ?_, ?_, rfl⟩
  · show ((Memory.link base).get ((Memory.link base).modify word s)).plain = _
    rw [Cell.get_modify]
    simp only [Memory.Link.plain, word, Signal.join]
    split <;> rfl
  · show ((LeaseHost.leases number).get ((LeaseHost.leases number).modify note s)).plain = _
    rw [Cell.get_modify]
    simp only [LeaseState.plain, note, Signal.join]
    split <;> rfl

lemma shutdown_past (status : Status) :
    ((Memory.pool.lease base number : Lease World).shutdown status).Obeys
      (stations permit base number)
      gone (fun _ => Station.Past base) .late := by
  intro s hs
  have hclosed : ((LeaseHost.leases number).get s).closed = true := hs
  refine ⟨.late, .glance (.inr rfl) ⟨rfl, rfl, ?_, rfl⟩ rfl, ?_⟩
  · have hsame : ({ (LeaseHost.leases number).get s with closed := true } : LeaseState)
        = (LeaseHost.leases number).get s := by rw [← hclosed]
    exact congrArg LeaseState.plain ((Cell.get_modify _ _ s).trans hsame)
  · simp only [show ((Memory.pool.lease base number : Lease World).cell.get s).closed
      = true from hclosed]
    trivial

/-- **Looking after a lease.** -/
lemma keeper_keeps (ownFirst : Bool) :
    Company.Keeps (stations permit base number) (Station.Past base)
      ⟨(Memory.pool.lease base number).watch ownFirst, false⟩ .keeper := by
  refine ⟨trivial, ?_, fun self s _ => .glance (.inl rfl) (around_register self s) rfl,
    fun s _ _ => ⟨_, .glance (.inl rfl) (.refl s) rfl, fun s hs => ?_⟩⟩
  · rintro ⟨⟩
  cases hend : (Memory.pool.lease base number : Lease World).base.watch.ending? s with
  | none => exact ⟨.keeper, .glance (.inl rfl) (.refl s) rfl, by simp only [hend]; trivial⟩
  | some status =>
    by_cases hown : (ownFirst && ((Memory.pool.lease base number).watching.ending? s).isSome) = true
    · exact ⟨.keeper, .glance (.inl rfl) (.refl s) rfl, by simp only [hend, hown, if_true]; trivial⟩
    simp only [hend, hown]
    have hclosed : ((LeaseHost.leases number).get s).closed = true :=
      hs (Option.isSome_iff_exists.mpr ⟨status, hend⟩)
    exact ⟨.late, .notice hclosed, shutdown_past status⟩

end Transactional
