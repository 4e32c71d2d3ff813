import Transactional.Proofs.Run.Course

/-!
# Everything that can happen in a run

A run takes its steps, and so do those who look after its lease; they move only while the run waits.
Around them anything may happen at any moment, also that the connection of the run breaks.  What is
seen of the run on its way is written down: which connection it has opened, which lease it has
started, and which calls it has made.

* `Run.Track` — what has been seen of a run.
* `Run.Story` — everything that can happen, with what has been seen.
* `Run.Story.turn` — a turn of the run is a part of such a story.
-/

namespace Transactional

/-- **Nobody has heard of a connection and a lease**: there is no call on the connection, and no job
for the lease. -/
structure World.Untouched (base number : Nat) (s : World) : Prop where
  calls : s.callsOn base = []
  due : ∀ job, job = .watch base number ∨ job = .close base number → ¬∃ n, Company.Due n job s

namespace Run

/-- **What has been seen of a run**: the connection that it has opened, the lease that it has
started, and its calls on a connection with their success. -/
structure Track where
  link : Option Nat := none
  lease : Option Nat := none
  calls : List (Memory.Call × Bool) := []

/-- What is seen in a step: connections are counted from one, leases from zero. -/
def Track.follow (base : Nat) (s s' : World) (track : Track) : Track where
  link := track.link.or
    (if s'.backend.linkCount = s.backend.linkCount then none else some s'.backend.linkCount)
  lease := track.lease.or (if s'.leaseCount = s.leaseCount then none else some s.leaseCount)
  calls := track.calls ++ World.newCalls base s s'

/-- **Everything that can happen in a run** from some moment on: steps of the run, and of those who
look after its lease while it waits; and whatever happens around them. -/
inductive Story (around : World → World → Prop) (base number : Nat) (run : Task World α)
    (s₀ : World) : Track → Company World α → Prop where
  | start : Story around base number run s₀ {} ⟨s₀, run, []⟩
  | step {track : Track} {c c' : Company World α} (h : Story around base number run s₀ track c)
      (hstep : Company.Step (Memory.pool.Jobs base number) c c') :
      Story around base number run s₀ (track.follow base c.state c'.state) c'
  | outside {track : Track} {c : Company World α} {s' : World}
      (h : Story around base number run s₀ track c) (hout : around c.state s') :
      Story around base number run s₀ track { c with state := s' }

def Track.along (base self : Nat) : Task World α → World → Track → Track
  | .done _, _, track => track
  | .act update next, s, track =>
      along base self (next s) (update s) (track.follow base s (update s))
  | .wait on next, s, track =>
      if on.ready s then along base self next s (track.follow base s s)
      else track.follow base s (on.register self s)

/-- **A turn of the run is a part of its story.** -/
lemma Story.turn {around : World → World → Prop} {base number : Nat} {run task : Task World α}
    {s₀ s : World} {track : Track} {beside : List (Strand World)} (self : TaskId)
    (story : Story around base number run s₀ track ⟨s, task, beside⟩) :
    Story around base number run s₀ (track.along base self task s)
      ⟨(task.poll self s).2, (task.poll self s).1, beside⟩ := by
  induction task generalizing s track with
  | done a => exact story
  | act update next ih => exact ih s (story.step (.front (.act update next s)))
  | wait on next ih =>
    rw [Task.poll, Track.along]
    split
    next hready => exact ih (story.step (.front (.pass on next s hready)))
    next => exact story.step (.front (.register on next self s))

/-- **A run whose result is changed afterwards** has the same story. -/
lemma Story.of_map {around : World → World → Prop} {base number : Nat} {run : Task World α}
    {g : α → β} {s₀ : World} {track : Track} {c : Company World β}
    (story : Story around base number (run.bind fun a => .done (g a)) s₀ track c) :
    ∃ task : Task World α, c.front = task.bind (fun a => .done (g a))
      ∧ Story around base number run s₀ track ⟨c.state, task, c.beside⟩ := by
  induction story with
  | start => exact ⟨run, rfl, .start⟩
  | outside _ hout ih =>
    obtain ⟨task, hfront, story⟩ := ih
    exact ⟨task, hfront, story.outside hout⟩
  | step _ hstep ih =>
    obtain ⟨task, hfront, story⟩ := ih
    cases hstep with
    | front h =>
      obtain rfl := hfront
      obtain ⟨task', rfl, h'⟩ := h.of_map
      exact ⟨task', rfl, story.step (.front h')⟩
    | beside hrest h =>
      obtain rfl := hfront
      exact ⟨task, rfl, story.step (.beside hrest.of_map h)⟩
    | giveUp hrest h hwait =>
      obtain rfl := hfront
      exact ⟨task, rfl, story.step (.giveUp hrest.of_map h hwait)⟩
    | start hrest due h =>
      obtain rfl := hfront
      exact ⟨task, rfl, story.step (.start hrest.of_map due h)⟩

end Run

end Transactional
