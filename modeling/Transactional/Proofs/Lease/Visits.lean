import Transactional.Proofs.Lease.Loyalty
import Transactional.Proofs.Lease.Tasks

/-!
# Visits to the connection beneath a lease

Every call on the connection beneath a lease is a visit.  A diary is kept of them: when each begins,
when it is over or has been given up, and when the pool gets the connection back.  One of the
visitors is of particular interest; the others are not told apart.

* `Visit`, `Pool.noted` — what is written down, and a pool whose leases keep the diary.
* `Pool.Unaware` — the connection beneath and the pool know nothing of the lease, nor of the diary.
* `Post`, `Passes` — where a visitor stands, and what is written down as it goes on.
* `Pool.visiting` — the discipline of visitors: they come in only while the lease is open, unless
  they close it, and only while the connection is in the lease or in their own hands.
-/

namespace Transactional

/-- **What is written down of the visits to a connection.** -/
inductive Visit where
  | enters (mine : Bool)
  | leaves (mine : Bool)
  | back
deriving DecidableEq

def Visit.note (diary : Cell σ (List Visit)) (visit : Visit) : σ → σ :=
  diary.modify (· ++ [visit])

/-- **A visit that is written down**: when it begins, and when it is over or has been given up. -/
def Attempt.noted (diary : Cell σ (List Visit)) (mine : Bool) (attempt : Attempt σ α) :
    Attempt σ α :=
  .of (.act (Visit.note diary (.enters mine)) fun _ =>
    Task.holding (Visit.note diary (.leaves mine)) attempt.run)

/-- **A connection that keeps a diary** of the calls on it. -/
def Connection.noted (diary : Cell σ (List Visit)) (mine : Bool) (conn : Connection σ) :
    Connection σ where
  connect := conn.connect.noted diary mine
  begin := conn.begin.noted diary mine
  commit := conn.commit.noted diary mine
  rollback := conn.rollback.noted diary mine
  prepare sql kind := (conn.prepare sql kind).noted diary mine
  execute handle bindings := (conn.execute handle bindings).noted diary mine
  destroy handle s := Visit.note diary (.leaves mine)
    (conn.destroy handle (Visit.note diary (.enters mine) s))
  watch := conn.watch
  close := conn.close
  drop := conn.drop

/-- **A pool whose leases keep a diary** of the calls beneath them, and of the moment when their
connection is given back. -/
def Pool.noted (diary : Cell σ (List Visit)) (mine : Bool) (pool : Pool σ) : Pool σ :=
  { pool with
    connection := fun base => (pool.connection base).noted diary mine
    giveBack := fun conn s => pool.giveBack conn (Visit.note diary .back s) }

/-- **The connection beneath and the pool know nothing of the lease, nor of the diary**, and these
are parts of the state of their own. -/
structure Pool.Unaware [LeaseHost σ] (pool : Pool σ) (base number : Nat)
    (diary : Cell σ (List Visit)) : Prop where
  apart : (pool.lease base number).Apart
  count : ∀ n s, (LeaseHost.leases number).get (LeaseHost.leaseCount.set n s)
    = (LeaseHost.leases number).get (s : σ)
  diary_lease : ∀ v s, diary.get ((LeaseHost.leases number).set v s) = diary.get s
  diary_count : ∀ n s, diary.get (LeaseHost.leaseCount.set n s) = diary.get s
  diary_schedule : ∀ c s, diary.get (Host.schedule.set c s) = diary.get s
  diary_traces : ∀ t s, diary.get (Host.traces.set t s) = diary.get s
  lease_diary : ∀ d s, (LeaseHost.leases number).get (diary.set d s)
    = (LeaseHost.leases number).get s
  schedule_diary : ∀ d s, Host.schedule.get (diary.set d s) = Host.schedule.get s
  ended_diary : ∀ d s, (pool.connection base).watch.ending? (diary.set d s)
    = (pool.connection base).watch.ending? s
  beneath : (pool.connection base).Respects (fun _ => True) (pool.Elsewhere base number diary.get)
  giveBack : ∀ mine s, pool.Elsewhere base number diary.get s
    (pool.giveBack ((pool.connection base).noted diary mine) s)

/-- **Where a visitor stands.** -/
inductive Post where
  | outside
  /-- It has found the lease open, and may come in; or it has taken the connection out of the lease.
  -/
  | admitted
  | inside
  | gone
  | retired
deriving DecidableEq

/-- **What is written down as a visitor goes on**; the flags say whether the pool still waits for
the connection. -/
inductive Passes (mine : Bool) : Post → Bool → List Visit → Post → Bool → Prop where
  | stay (post : Post) (listening : Bool) : Passes mine post listening [] post listening
  | welcome (listening : Bool) : Passes mine .outside listening [] .admitted listening
  | enter {post post' : Post} {listening : Bool} {more : List Visit} (h : post ≠ .inside)
      (rest : Passes mine .inside true more post' listening) :
      Passes mine post true (.enters mine :: more) post' listening
  | leave {post : Post} {listening listening' : Bool} {more : List Visit}
      (rest : Passes mine .gone listening more post listening') :
      Passes mine .inside listening (.leaves mine :: more) post listening'
  | giveBack {post : Post} (h : post ≠ .inside) : Passes mine post true [.back] .retired false

namespace Passes

variable {mine m : Bool} {post post' : Post} {listening listening' : Bool} {more : List Visit}

lemma mine_of_enters (h : Passes mine post listening more post' listening')
    (hm : .enters m ∈ more) : m = mine := by
  induction h with
  | stay | welcome | giveBack => simp at hm
  | enter _ _ ih => exact (List.mem_cons.mp hm).elim (fun h => Visit.enters.inj h) ih
  | leave _ ih => exact (List.mem_cons.mp hm).elim nofun ih

/-- **Visits that have begun and are not over** are those of visitors who are inside. -/
lemma count (h : Passes mine post listening more post' listening') (m : Bool) :
    more.count (.enters m) + (if mine = m ∧ post = .inside then 1 else 0)
      = more.count (.leaves m) + (if mine = m ∧ post' = .inside then 1 else 0) := by
  induction h with
  | stay | welcome => simp
  | giveBack h => simp [h]
  | enter h _ ih =>
    simp only [List.count_cons, beq_iff_eq, Visit.enters.injEq, reduceCtorEq, if_false, h,
      and_false,
      and_true] at ih ⊢
    omega
  | leave _ ih =>
    simp only [List.count_cons, beq_iff_eq, Visit.leaves.injEq, reduceCtorEq, if_false, and_false,
      and_true] at ih ⊢
    omega

/-- The pool gets the connection back once, and nobody comes in afterwards. -/
lemma back (h : Passes mine post listening more post' listening') :
    (listening = false → listening' = false ∧ (post ≠ .inside → more = []))
      ∧ (listening = true → listening' = true ∧ .back ∉ more
        ∨ listening' = false ∧ ∃ before, more = before ++ [.back] ∧ .back ∉ before) := by
  induction h with
  | stay | welcome => simp
  | giveBack => exact ⟨nofun, fun _ => .inr ⟨rfl, [], rfl, List.not_mem_nil⟩⟩
  | enter _ _ ih =>
    refine ⟨nofun, fun _ => (ih.2 rfl).imp (fun h => ⟨h.1, by simp [h.2]⟩) ?_⟩
    rintro ⟨hfalse, before, rfl, hnot⟩
    exact ⟨hfalse, _ :: before, rfl, by simp [hnot]⟩
  | leave _ ih =>
    refine ⟨fun hl => ⟨(ih.1 hl).1, fun h => absurd rfl h⟩, fun hl =>
      (ih.2 hl).imp (fun h => ⟨h.1, by simp [h.2]⟩) ?_⟩
    rintro ⟨hfalse, before, rfl, hnot⟩
    exact ⟨hfalse, _ :: before, rfl, by simp [hnot]⟩

lemma entered (h : Passes mine post listening more post' listening')
    (hpost : post' = .inside ∨ post' = .gone) :
    post = .inside ∨ post = .gone ∨ .enters mine ∈ more := by
  cases h with
  | stay => exact hpost.imp_right .inl
  | welcome | giveBack => simp at hpost
  | enter => simp
  | leave => exact .inl rfl

lemma outside (h : Passes mine post listening more .outside listening') :
    post = .outside ∧ more = [] := by
  have hinside : ∀ {post listening more post' listening'}, Passes mine post listening more post'
    listening' →
      post ≠ .outside → post' ≠ .outside := by
    intro post listening more post' listening' h
    induction h with
    | stay => exact id
    | welcome => exact fun h => absurd rfl h
    | giveBack => simp
    | enter _ _ ih => exact fun _ => ih (by simp)
    | leave _ ih => exact fun _ => ih (by simp)
  cases h with
  | stay => exact ⟨rfl, rfl⟩
  | enter _ rest => exact absurd rfl (hinside rest (by simp))
  | leave rest => exact absurd rfl (hinside rest (by simp))

end Passes

/-! ## The discipline of visitors -/

/-- **What a visitor knows**: the pool waits for what is in the lease, and for what is in its hands.
-/
structure Post.Knows (post : Post) (p : Stage) (state : LeaseState) : Prop where
  holding : state.holdsBase = true → state.listening = true
  grasps : post = .admitted ∨ post = .inside → p.Grasps state.holdsBase ∧ state.listening = true

namespace Pool

variable [LeaseHost σ]

/-- **What a visitor does**: it goes on as it may, and comes in only while the lease is open, unless
it is the one who ends it; and then it has the connection in hand. -/
structure Pays (number : Nat) (diary : Cell σ (List Visit)) (x : Stage × Bool × Post) (s : σ)
    (y : Stage × Bool × Post) (s' : σ) : Prop where
  mine : y.2.1 = x.2.1
  notes : ∃ more, diary.get s' = diary.get s ++ more
    ∧ Passes x.2.1 x.2.2 ((LeaseHost.leases number).get s).listening more y.2.2
      ((LeaseHost.leases number).get s').listening
  comes : x.2.2 = .outside → y.2.2 ≠ .outside →
    ((LeaseHost.leases number).get s).closed = false ∨ y.1.errand = .carrier
  grasps : y.2.2 = .admitted ∨ y.2.2 = .inside →
    y.1.Grasps ((LeaseHost.leases number).get s').holdsBase

/-- **The discipline for the connection beneath**: it is visited as visitors do. -/
def visiting (pool : Pool σ) (base number : Nat) (diary : Cell σ (List Visit)) :
    Discipline σ (Stage × Bool × Post) where
  knows x s := x.2.2.Knows x.1 ((LeaseHost.leases number).get s)
  may := Pays number diary
  waits x ready := x.2.2 = .inside ∧ (pool.connection base).Awaits ready

/-- **The discipline of visitors.** -/
abbrev visitors (pool : Pool σ) (base number : Nat) (diary : Cell σ (List Visit)) :
    Discipline σ (Stage × Bool × Post) :=
  (pool.lease base number).discipline (.watch base number) (pool.visiting base number diary)

/-- A visitor who is over: it is not inside, nor about to come in. -/
def Away (x : Stage × Bool × Post) : Prop :=
  x.1.Over ∧ x.2.2 ≠ .admitted ∧ x.2.2 ≠ .inside

variable {pool : Pool σ} {base number : Nat} {diary : Cell σ (List Visit)} {mine : Bool}
  {post post' : Post} {p q : Stage} {s s' : σ}

lemma obeys_of_noted (mine : Bool) {gone : Stage × Bool × Post → (σ → σ) → Prop}
    {ends : α → Stage × Bool × Post → Prop} {x : Stage × Bool × Post} {task : Task σ α}
    (h : task.Obeys (((pool.noted diary mine).lease base number).discipline (.watch base number)
      (pool.visiting base number diary)) gone ends x) :
    task.Obeys (pool.visitors base number diary) gone ends x := by
  refine Task.Obeys.map (D := ((pool.noted diary mine).lease base number).discipline
    (.watch base number) (pool.visiting base number diary)) (fun x => x) (fun _ _ => id)
    (fun _ _ _ _ _ => id) ?_ (fun _ _ => id) (fun _ _ => id) h
  rintro x ready ⟨hsight, hfor | hvisit⟩
  · refine ⟨hsight, .inl ?_⟩
    cases hfor with
    | turn => exact .turn
    | line t hplace => exact .line t hplace
    | either hplace herrand => exact .either hplace herrand
  · exact ⟨hsight, .inr hvisit⟩

namespace Pays

variable {x : Stage × Bool × Post} {m : σ}

lemma before (h : pool.Elsewhere base number diary.get s m) {y : Stage × Bool × Post}
    (hpays : Pays number diary x m y s') : Pays number diary x s y s' := by
  have hclosed : ((LeaseHost.leases number).get m).closed
    = ((LeaseHost.leases number).get s).closed :=
    congrArg Aspect.closed h.grows.eq
  obtain ⟨hmine, hnotes, hcomes, hgrasps⟩ := hpays
  rw [h.heard, h.listening] at hnotes
  rw [hclosed] at hcomes
  exact ⟨hmine, hnotes, hcomes, hgrasps⟩

/-- The lease alone changes afterwards, and the visitor has nothing in hand. -/
lemma after (hpays : Pays number diary x s (p, mine, post) m) (hx : x.2.2 ≠ .outside)
    (hpost : post ≠ .admitted ∧ post ≠ .inside) (hdiary : diary.get s' = diary.get m)
    (hlistening : ((LeaseHost.leases number).get s').listening
      = ((LeaseHost.leases number).get m).listening) :
    Pays number diary x s (q, mine, post) s' := by
  obtain ⟨hmine, hnotes, -, -⟩ := hpays
  refine ⟨hmine, ?_, fun h => absurd h hx, fun h => (h.elim hpost.1 hpost.2).elim⟩
  rw [hdiary, hlistening]
  exact hnotes

end Pays

namespace Unaware

variable (K : pool.Unaware base number diary)

include K

lemma noted_apart (mine : Bool) : ((pool.noted diary mine).lease base number).Apart :=
  ⟨K.apart.schedule, K.apart.traces, K.apart.schedule_cell, K.apart.schedule_traces,
    K.apart.ended_cell, K.apart.ended_schedule, K.apart.ended_traces⟩

lemma diary_still (h : Host.Still (pool.lease base number).cell s s') :
    diary.get s' = diary.get s :=
  h.same diary.get K.diary_lease (fun c s _ => K.diary_schedule c s) K.diary_traces

lemma elsewhere_note (visit : Visit) (s : σ) :
    (LeaseHost.leases number).get (Visit.note diary visit s) = (LeaseHost.leases number).get s
      ∧ (pool.lease base number).aspect (.watch base number) (Visit.note diary visit s)
        = (pool.lease base number).aspect (.watch base number) s := by
  have hlease := K.lease_diary (diary.get s ++ [visit]) s
  refine ⟨hlease, ?_⟩
  have hended : (pool.lease base number).base.watch.ending? (Visit.note diary visit s)
      = (pool.lease base number).base.watch.ending? s := K.ended_diary _ s
  have hschedule : Host.schedule.get (Visit.note diary visit s) = Host.schedule.get s :=
    K.schedule_diary _ s
  have hcell : (pool.lease base number).cell.get (Visit.note diary visit s)
      = (pool.lease base number).cell.get s := hlease
  simp only [Lease.aspect, hcell, hended, Company.Due, hschedule]

/-- **A change of the lease alone** takes a visitor nowhere, as long as it has nothing in hand, or
keeps it there. -/
lemma pays_still (h : Host.Still (pool.lease base number).cell s s')
    (hlistening : ((LeaseHost.leases number).get s').listening
      = ((LeaseHost.leases number).get s).listening)
    (hpost : post ≠ .admitted ∧ post ≠ .inside
      ∨ q.Grasps ((LeaseHost.leases number).get s').holdsBase) :
    Pays number diary (p, mine, post) s (q, mine, post) s' where
  mine := rfl
  notes := by
    refine ⟨[], by rw [K.diary_still h, List.append_nil], ?_⟩
    rw [hlistening]
    exact .stay _ _
  comes h h' := absurd h h'
  grasps h := hpost.resolve_left fun hnot => h.elim hnot.1 hnot.2

lemma ignores (hpost : post ≠ .admitted ∧ post ≠ .inside) (mine m : Bool) :
    ((pool.noted diary mine).lease base number).Ignores (pool.visiting base number diary)
      (m, post) :=
  fun _ _ _ _ _ h => K.pays_still h.still h.listening (.inl hpost)

lemma bears (hp : p.errand = .carrier) (mine : Bool) :
    ((pool.noted diary mine).lease base number).Bears (pool.visiting base number diary) p :=
  fun _ _ _ _ h => K.pays_still h.still h.listening (.inr (.inr hp))

end Unaware

end Pool

end Transactional
