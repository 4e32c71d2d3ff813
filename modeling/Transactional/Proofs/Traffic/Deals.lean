import Mathlib.Logic.Relation
import Transactional.Proofs.Lease.Loyalty
import Transactional.Proofs.Run.Staying
import Transactional.Proofs.Traffic.Changes

/-!
# What a task may do that shares a pool

A task that shares a pool plays one part after the other: it waits for a permit, opens a connection
with it, has the connection counted, starts a lease on it, and works on the lease.  Others come to
work on a lease that is there already.  In each part there is little that it may do, and nothing
that it may do without what the part gives it: only who has a lease, or the connection beneath one,
makes calls.

* `Role` — the part that a task plays.
* `World.Handles`, `grip` — what a task on a lease may do to the connection beneath, and when it has
  it in hand.
* `Deal`, `trade` — what may be done in each part, and the discipline of all tasks that share a
  pool.
-/

namespace Transactional

/-- **The part that a task plays** in the traffic of a pool. -/
inductive Role where
  | seeking (place : Place)
  | opened (base : Nat) (counted : Bool)
  /-- It works on a lease.  It may have the connection beneath in hand; and it is loyal if nothing
  but the lease makes it wait. -/
  | leased (base number : Nat) (stage : Stage) (held loyal : Bool)

/-! ## The connection beneath a lease -/

/-- **What a task on a lease may do**, to the lease and to the connection beneath. -/
inductive World.Handles (base number : Nat) : World → World → Prop where
  /-- Tend the lease, and then call the connection beneath, as long as it has not been given back.
  -/
  | work {s m s' : World} {calls : List Memory.Call} (htends : Tends base number s m)
      (hworks : Works base calls m s')
      (hlistening : calls ≠ [] → (s.traffic.leases number).listening = true) :
      Handles base number s s'
  | giveBack {s m : World} {calls : List Memory.Call} (hworks : Works base calls s m)
      (hlistening : (s.traffic.leases number).listening = true) :
      Handles base number s ((Memory.pool.lease base number).release m)

/-- **What a task on a lease relies on**: whether it has the connection beneath in hand, and that
the connection holds its permit until it is given back. -/
structure Stage.Grip (base number : Nat) (p : Stage) (held : Bool) (s : World) : Prop where
  grasps : held = true → p.Grasps (s.traffic.leases number).holdsBase
  unreturned : held = true → (s.traffic.leases number).listening = true
  holding : (s.traffic.leases number).holdsBase = true →
    (s.traffic.leases number).listening = true
  permitted : (s.traffic.leases number).listening = true → s.traffic.permitted base = true

/-- **The discipline for the connection beneath a lease of the pool**: a task knows whether it has
it in hand. -/
def grip (base number : Nat) : Discipline World (Stage × Bool) where
  knows x := x.1.Grip base number x.2
  may _ s y s' :=
    World.Handles base number s s' ∧ (y.2 = true → y.1.Grasps (s'.traffic.leases number).holdsBase)
  waits _ _ := False

/-- The discipline of tasks on a lease of the pool. -/
abbrev handling (base number : Nat) : Discipline World (Stage × Bool) :=
  (Memory.pool.lease base number).discipline (.watch base number) (grip base number)

/-! ## All that may be done -/

/-- **What may be done in each part.** -/
inductive Deal : Role → World → Role → World → Prop where
  | aside {r : Role} {s s' : World} (h : World.Aside s s') : Deal r s r s'
  | ask {p q : Place} {s s' : World}
      (h : Semaphore.Shifts p (Memory.permits.get s) q (Memory.permits.get s'))
      (still : Host.Still Memory.permits s s') : Deal (.seeking p) s (.seeking q) s'
  | refuse {s : World} :
      Deal (.seeking .away) s (.seeking .away) (Semaphore.shutDown Memory.permits s)
  | reach {s : World} :
      Deal (.seeking .inside) s (.opened (s.traffic.linkCount + 1) false) (Memory.newLink true s).2
  | call {base : Nat} {counted : Bool} {calls : List Memory.Call} {s s' : World}
      (h : World.Works base calls s s') : Deal (.opened base counted) s (.opened base counted) s'
  | part {base : Nat} {s : World} :
      Deal (.opened base false) s (.seeking .away) (Memory.drop base s)
  | count {base : Nat} {s : World} :
      Deal (.opened base false) s (.opened base true)
        (MemoryHost.accounts.modify (fun a => { a with acquired := a.acquired + 1 }) s)
  /-- Start a lease on it, which one is going to close or leaves to others. -/
  | lease {base : Nat} {errand : Errand} {s : World}
      (h : errand = .bystander ∨ errand = .pledged) :
      Deal (.opened base true) s (.leased base s.traffic.leaseCount { errand } false false)
        (Pool.startWatchedLease base s).2
  | use {base number : Nat} {p q : Stage} {held held' loyal : Bool} {s s' : World}
      (h : (handling base number).may (p, held) s (q, held') s') :
      Deal (.leased base number p held loyal) s (.leased base number q held' loyal) s'

/-- **The discipline of tasks that share a pool.**  They do one thing after the other.  Who is going
to close his lease may wait before for whatever is `awaited`. -/
def trade (awaited : (World → Bool) → Prop) : Discipline World Role where
  knows
    | .seeking _, _ => True
    | .opened base _, s => s.traffic.permitted base = true
    | .leased base number p held _, s => (handling base number).knows (p, held) s
  may r s r' s' := Relation.ReflTransGen (fun x y => Deal x.1 x.2 y.1 y.2) (r, s) (r', s')
  waits
    | .seeking p, ready => ∃ first : World → Bool, (∀ s, first s = true → ready s = true)
        ∧ (p = .away ∧ first = (Task.pause : Wait World).ready
          ∨ ∃ t, p = .inLine t ∧ first = (Task.paced (Semaphore.inLine Memory.permits t)).ready)
    | .opened _ _, _ => False
    | .leased base number p _ loyal, ready =>
        (∃ first : World → Bool, (∀ s, first s = true → ready s = true)
          ∧ (Memory.pool.lease base number).WaitsFor p first)
        ∨ loyal = false ∧ p.place = .away ∧ p.errand = .pledged
          ∧ ∃ first : World → Bool, (∀ s, first s = true → ready s = true) ∧ awaited first

/-- **A part that is over**: nothing is left to be done. -/
def Role.Past : Role → Prop
  | .seeking place => place = .away
  | .opened _ _ => False
  | .leased _ _ p held _ => p.Over ∧ held = false

variable {awaited : (World → Bool) → Prop} {r r' r'' : Role} {s s' s'' : World} {base number : Nat}
  {p q : Stage} {held held' loyal : Bool}

lemma trade_of_deal (h : Deal r s r' s') : (trade awaited).may r s r' s' := .single h

lemma trade_aside (h : World.Aside s s') : (trade awaited).may r s r s' := trade_of_deal (.aside h)

lemma trade_trans (h : (trade awaited).may r s r' s') (h' : (trade awaited).may r' s' r'' s'') :
    (trade awaited).may r s r'' s'' :=
  Relation.ReflTransGen.trans h h'

lemma trade_timeless : (trade awaited).Timeless where
  stay _ := .refl
  after hf hmay := trade_trans hmay (trade_aside (.schedule hf _))
  either := by
    intro r ready other hwaits
    have hor : ∀ first : World → Bool, (∀ s, first s = true → ready s = true) →
        ∀ s, first s = true → (ready s || other s) = true := by
      intro first hfirst s hs
      rw [hfirst s hs, Bool.true_or]
    cases r with
    | seeking p =>
      obtain ⟨first, hfirst, hfor⟩ := hwaits
      exact ⟨first, hor first hfirst, hfor⟩
    | opened => exact hwaits
    | leased =>
      rcases hwaits with ⟨first, hfirst, hfor⟩ | ⟨hloyal, hplace, herrand, first, hfirst, hawaited⟩
      · exact .inl ⟨first, hor first hfirst, hfor⟩
      · exact .inr ⟨hloyal, hplace, herrand, first, hor first hfirst, hawaited⟩

/-! ## Working on a lease -/

lemma handles_of_inward (h : (Memory.pool.lease base number : Lease World).Inward s s') :
    World.Handles base number s s' :=
  .work (World.tends_of_inward h) (.refl s') fun hne => absurd rfl hne

/-- The grip ignores the lease as long as one does not have the connection beneath in hand. -/
lemma grip_ignores (base number : Nat) :
    (Memory.pool.lease base number).Ignores (grip base number) false :=
  fun _ _ _ _ _ h => ⟨handles_of_inward h, fun hfalse => by cases hfalse⟩

/-- It bears with the lease when the connection beneath has been taken out. -/
lemma grip_bears (hp : p.errand = .carrier) :
    (Memory.pool.lease base number).Bears (grip base number) p :=
  fun _ _ _ _ h => ⟨handles_of_inward h, fun _ => .inr hp⟩

lemma grip_grants (base number : Nat) :
    (Memory.pool.lease base number).Grants (grip base number) false true :=
  fun _ _ s _ hplace hholds _ _ =>
    ⟨handles_of_inward (Lease.inward_refl s), fun _ => .inl ⟨hplace, hholds⟩⟩

/-- **What keeps to the discipline of the lease keeps to that of the pool.** -/
lemma leased_obeys {task : Task World α} {x : Stage × Bool}
    {gone : Stage × Bool → (World → World) → Prop} {gone' : Role → (World → World) → Prop}
    {ends : α → Stage × Bool → Prop} {ends' : α → Role → Prop} (loyal : Bool)
    (h : task.Obeys (handling base number) gone ends x)
    (hgone : ∀ y f, gone y f → gone' (.leased base number y.1 y.2 loyal) f)
    (hends : ∀ a y, ends a y → ends' a (.leased base number y.1 y.2 loyal)) :
    task.Obeys (trade awaited) gone' ends' (.leased base number x.1 x.2 loyal) := by
  refine Task.Obeys.map (D := handling base number)
    (fun y : Stage × Bool => Role.leased base number y.1 y.2 loyal) (fun _ _ => id)
    (fun _ _ _ _ _ hmay => trade_of_deal (.use hmay)) ?_ hgone hends h
  rintro y ready ⟨-, hfor | hfalse⟩
  · exact .inl ⟨ready, fun _ => id, hfor⟩
  · exact hfalse.elim

end Transactional
