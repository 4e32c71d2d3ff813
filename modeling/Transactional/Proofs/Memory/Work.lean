import Transactional.World
import Transactional.Proofs.Lease.Tasks

/-!
# What calls on the scripted backend change

Every call on a connection is noted down in the journal, and beyond that it concerns nothing but the
statements of its connection.  Only the end of a connection and letting go of it are more than that.

* `World.Works` — what calls on one connection change.
* `Memory.plainCall_obeys`, `Memory.prepare_obeys`, `Memory.execute_obeys`, `Memory.destroy_works` —
  each call changes no more.
* `Memory.still_drop` — what letting go of a connection leaves alone.
* `Memory.pool_hears` — a lease of the pool is a part of the world of its own.
-/

namespace Transactional

namespace Memory

lemma link_get_modify (f : Link → Link) (number m : Nat) (s : World) :
    (link m).get ((link number).modify f s)
      = if m = number then f ((link m).get s) else (link m).get s := by
  by_cases h : m = number
  · rw [if_pos h, h, Cell.get_modify]
  · rw [if_neg h]
    exact Table.get_put_of_ne h _ _

lemma link_get_signal (g : Signal) (number m : Nat) (s : World) :
    (link m).get ((signal number).set g s)
      = if m = number then { (link m).get s with signal := g } else (link m).get s :=
  link_get_modify (fun l => { l with signal := g }) number m s

/-- Whether a connection has ended is decided by its status, and by whether somebody holds it. -/
lemma ending_of_same {number : Nat} {s s' : World}
    (hstatus : ((link number).get s').signal.status = ((link number).get s).signal.status)
    (halive : ((link number).get s').alive = ((link number).get s).alive) :
    (connection number).watch.ending? s' = (connection number).watch.ending? s := by
  simp [Watch.ending?, connection, hstatus, halive]

end Memory

namespace World

/-- **What calls on one connection change**: they are noted down, in order, and nobody sees the
state of a connection change. -/
structure Works (number : Nat) (calls : List Memory.Call) (s s' : World) : Prop where
  same : s' = { s with backend := s'.backend }
  journal : s'.backend.journal = s.backend.journal ++ calls
  own : ∀ call ∈ calls, call.number = number
  linkCount : s'.backend.linkCount = s.backend.linkCount
  signal : ∀ m, ((Memory.link m).get s').signal = ((Memory.link m).get s).signal
  alive : ∀ m, ((Memory.link m).get s').alive = ((Memory.link m).get s).alive
  hasPermit : ∀ m, ((Memory.link m).get s').hasPermit = ((Memory.link m).get s).hasPermit

namespace Works

variable {number : Nat} {calls calls' : List Memory.Call} {s s' s'' : World}

lemma refl (s : World) : Works number [] s s :=
  ⟨rfl, (List.append_nil _).symm, by simp, rfl, fun _ => rfl, fun _ => rfl, fun _ => rfl⟩

lemma trans (h : Works number calls s s') (h' : Works number calls' s' s'') :
    Works number (calls ++ calls') s s'' where
  same := by rw [h'.same, h.same]
  journal := by rw [h'.journal, h.journal, List.append_assoc]
  own call hcall := (List.mem_append.mp hcall).elim (h.own call) (h'.own call)
  linkCount := h'.linkCount.trans h.linkCount
  signal m := (h'.signal m).trans (h.signal m)
  alive m := (h'.alive m).trans (h.alive m)
  hasPermit m := (h'.hasPermit m).trans (h.hasPermit m)

lemma leaseCount (h : Works number calls s s') : s'.leaseCount = s.leaseCount := by
  rw [h.same]

lemma note {call : Memory.Call} (hcall : call.number = number) (s : World) :
    Works number [call] s (Memory.note call s) :=
  ⟨rfl, rfl, by simp [hcall], rfl, fun _ => rfl, fun _ => rfl, fun _ => rfl⟩

lemma link {f : Memory.Link → Memory.Link}
    (hf : ∀ l,
      f l = { l with statements := (f l).statements, nextStatement := (f l).nextStatement })
    (s : World) : Works number [] s ((Memory.link number).modify f s) := by
  have hsame : ∀ {α : Type} (o : Memory.Link → α), (∀ l, o (f l) = o l) → ∀ m,
      o ((Memory.link m).get ((Memory.link number).modify f s)) = o ((Memory.link m).get s) := by
    intro α o ho m
    rw [Memory.link_get_modify]
    split
    · exact ho _
    · rfl
  refine ⟨rfl, (List.append_nil _).symm, by simp, rfl, hsame Memory.Link.signal fun l => ?_,
    hsame Memory.Link.alive fun l => ?_, hsame Memory.Link.hasPermit fun l => ?_⟩ <;> rw [hf l]

lemma aspect (h : Works number calls s s') (base lease : Nat) (guard : Job) :
    (Memory.pool.lease base lease).aspect guard s' = (Memory.pool.lease base lease).aspect
      guard s := by
  have hsame := h.same
  have hended : (Memory.connection base).watch.ending? s'
      = (Memory.connection base).watch.ending? s :=
    Memory.ending_of_same (congrArg Signal.status (h.signal base)) (h.alive base)
  unfold Lease.aspect
  rw [show (Memory.pool.lease base lease).base.watch.ending? s' = _ from hended, hsame]
  rfl

end Works

end World

namespace Memory

variable {number : Nat} {s : World} {D : Discipline World φ} {gone : φ → (World → World) → Prop}
  {p : φ}

/-! ## Calls -/

/-- What becomes of a call that does nothing but fail if it is told to. -/
def plainAnswer (number : Nat) (pick : Failures → Option String) (s : World) : Except Fault Unit :=
  if ((link number).get s).signal.status.isTerminal then .error (hasEnded number)
  else
    match pick s.backend.failures with
    | some message => .error (.connection message)
    | none => .ok ()

lemma plainCall_obeys {call : Call} {pick : Failures → Option String}
    {ends : Except Fault Unit → φ → Prop}
    (h : ∀ s, D.knows p s →
      ∃ q, D.may p s q (note call s) ∧ ends (plainAnswer number pick s) q) :
    (plainCall number call pick).run.Obeys D gone ends p := by
  intro s hs
  have hstep : (if ((link number).get (note call s)).signal.status.isTerminal then
        ((.error (hasEnded number) : Except Fault Unit), note call s)
      else
        match pick (MemoryHost.backend.get (note call s)).failures with
        | some message => (.error (.connection message), note call s)
        | none => (.ok (), note call s)) = (plainAnswer number pick s, note call s) := by
    have hlink : (link number).get (note call s) = (link number).get s := rfl
    have hpick : pick (MemoryHost.backend.get (note call s)).failures = pick s.backend.failures :=
      rfl
    rw [plainAnswer, hlink, hpick]
    split
    · rfl
    · split <;> rfl
  obtain ⟨q, hmay, hends⟩ := h s hs
  refine ⟨q, ?_, ?_⟩
  · exact (congrArg (fun r => D.may p s q r.2) hstep).mpr hmay
  · exact (congrArg (fun r => ends r.1 q) hstep).mpr hends

lemma answering_obeys {call : Call} (hcall : call.number = number)
    {answer : World → Except Fault α × World} {ends : Except Fault α → φ → Prop}
    (hanswer : ∀ s, World.Works number [] s (answer s).2)
    (h : ∀ s s', D.knows p s → World.Works number [call] s s' →
      ∀ outcome, (outcome = .error (hasEnded number) ∨ outcome = (answer (note call s)).1) →
        ∃ q, D.may p s q s' ∧ ends outcome q) :
    (answering number call answer).run.Obeys D gone ends p := by
  intro s hs
  by_cases hended : ((link number).get (note call s)).signal.status.isTerminal = true
  · obtain ⟨q, hmay, hends⟩ := h s _ hs (.note hcall s) _ (.inl rfl)
    refine ⟨q, ?_, ?_⟩
    · simpa [hended] using hmay
    · simpa [hended, Task.Obeys] using hends
  · obtain ⟨q, hmay, hends⟩ := h s _ hs ((World.Works.note hcall s).trans (hanswer _)) _ (.inr rfl)
    refine ⟨q, ?_, ?_⟩
    · simpa [hended] using hmay
    · simpa [hended, Task.Obeys] using hends

lemma prepare_obeys {sql : String} {kind : StatementKind}
    {ends : Except Fault StatementHandle → φ → Prop}
    (h : ∀ s s', D.knows p s → World.Works number [.prepare number sql] s s' →
      ∀ outcome : Except Fault StatementHandle,
        (∀ handle, outcome = .ok handle → handle.sql = sql) →
        ∃ q, D.may p s q s' ∧ ends outcome q) :
    (prepare number sql kind).run.Obeys D gone ends p := by
  have hnumber : (Call.prepare number sql).number = number := rfl
  refine answering_obeys hnumber (fun s => ?_) ?_
  · dsimp only
    refine .link (fun l => ?_) s
    rfl
  intro s s' hs hworks outcome houtcome
  refine h s s' hs hworks outcome fun handle hok => ?_
  rcases houtcome with rfl | rfl
  · simp at hok
  · exact congrArg StatementHandle.sql (Except.ok.inj hok).symm

lemma answer_backend (sql : String) (kind : StatementKind) (backend : Backend) :
    ∃ id, (backend.answer sql kind).2 = { backend with lastInsertId := id } := by
  unfold Backend.answer
  split
  · exact ⟨_, rfl⟩
  · exact ⟨_, rfl⟩
  · cases kind <;> exact ⟨_, rfl⟩

lemma answer_works (sql : String) (kind : StatementKind) (s : World) :
    World.Works number [] s
      (MemoryHost.backend.set ((MemoryHost.backend.get s).answer sql kind).2 s) := by
  obtain ⟨id, h⟩ := answer_backend sql kind s.backend
  rw [show ((MemoryHost.backend.get s).answer sql kind).2 = _ from h]
  exact ⟨rfl, (List.append_nil _).symm, by simp, rfl, fun _ => rfl, fun _ => rfl, fun _ => rfl⟩

lemma execute_obeys {handle : StatementHandle} {bindings : List Scalar}
    {ends : Except Fault Outcome → φ → Prop}
    (h : ∀ s s', D.knows p s → World.Works number [.execute number handle.sql bindings] s s' →
      ∀ outcome, ∃ q, D.may p s q s' ∧ ends outcome q) :
    (execute number handle bindings).run.Obeys D gone ends p := by
  have hnumber : (Call.execute number handle.sql bindings).number = number := rfl
  refine answering_obeys hnumber (fun s => ?_)
    fun s s' hs hworks outcome _ => h s s' hs hworks outcome
  split
  · exact answer_works _ _ s
  · exact .refl s

lemma destroy_works (number : Nat) (handle : StatementHandle) (s : World) :
    World.Works number [] s (destroy number handle s)
      ∨ World.Works number [.destroy number handle.sql] s (destroy number handle s) := by
  unfold destroy
  split
  · have hnumber : (Call.destroy number handle.sql).number = number := rfl
    have hlink : World.Works number [] s ((link number).modify
        (fun l => { l with statements := l.statements.filter (· != handle.id) }) s) := by
      refine .link (fun l => ?_) s
      rfl
    exact .inr (hlink.trans (.note hnumber _))
  · exact .inl (.refl s)

/-! ## Letting go -/

/-- What the backend knows of a connection that nobody holds any longer. -/
def Link.forsaken (l : Link) : Link :=
  { l with alive := false, hasPermit := false }

/-- **Letting go of a connection**: beyond its own entry only permits and turns change. -/
lemma still_drop (halive : ((link number).get s).alive = true) :
    Host.Still permits ((link number).modify Link.forsaken s) (drop number s) := by
  simp only [drop, halive, if_true]
  split
  · exact (Host.Still.wakeAll _ _).trans (Semaphore.Usable.still_updating _ _)
  · exact .wakeAll _ _

lemma drop_of_gone (hgone : ((link number).get s).alive = false) : drop number s = s := by
  simp [drop, hgone]

/-- What letting go of a connection leaves alone, beside turns and permits. -/
lemma drop_same {β : Type} (o : World → β) (number : Nat) (s : World)
    (hbackend : ∀ b s, o { s with backend := b } = o s)
    (haccounts : ∀ a s, o { s with accounts := a } = o s)
    (hschedule : ∀ c s, c.starts = (Host.schedule.get s).starts → o (Host.schedule.set c s) = o s)
    (htraces : ∀ t s, o (Host.traces.set t s) = o s) : o (drop number s) = o s := by
  cases halive : ((link number).get s).alive with
  | false => rw [drop_of_gone halive]
  | true =>
    rw [(still_drop halive).same o (fun _ _ => haccounts _ _) hschedule htraces]
    exact hbackend _ _

lemma drop_backend (halive : ((link number).get s).alive = true) :
    (drop number s).backend = ((link number).modify Link.forsaken s).backend :=
  (still_drop halive).same World.backend (fun _ _ => rfl) (fun _ _ _ => rfl) fun _ _ => rfl

/-! ## Leases of the pool -/

lemma apart (base lease : Nat) : (pool.lease base lease : Lease World).Apart where
  schedule _ _ := rfl
  traces _ _ := rfl
  schedule_cell _ _ := rfl
  schedule_traces _ _ := rfl
  ended_cell _ _ := rfl
  ended_schedule _ _ := rfl
  ended_traces _ _ := rfl

variable {base lease : Nat} {guard : Job} {s' : World}

lemma aspect_of_still (h : Host.Still permits s s') :
    (pool.lease base lease).aspect guard s' = (pool.lease base lease).aspect guard s := by
  refine h.same _ (fun _ _ => rfl) (fun c s hc => ?_) (fun _ _ => rfl)
  have hdue : ∀ job n, Company.Due n job (Host.schedule.set c s) ↔ Company.Due n job s := by
    intro job n
    rw [Company.due_iff, Company.due_iff, Host.schedule.get_set, hc]
  simp only [Lease.aspect, hdue]
  rfl

/-- A connection that has ended has ended in the same way when nobody holds it any longer. -/
lemma ending_forsaken (base number : Nat) (s : World) {status : Status}
    (h : (connection base).watch.ending? s = some status) :
    (connection base).watch.ending? ((link number).modify Link.forsaken s) = some status := by
  have hget := link_get_modify Link.forsaken number base s
  by_cases hbase : base = number
  · rw [if_pos hbase] at hget
    have hending : ∀ s : World, (connection base).watch.ending? s
        = if ((link base).get s).signal.status.isTerminal then some
          ((link base).get s).signal.status
          else if !((link base).get s).alive then some .failed else none := fun _ => rfl
    rw [hending] at h ⊢
    rw [hget]
    split at h
    next hterminal =>
      exact (if_pos hterminal).trans h
    next hopen =>
      obtain ⟨-, rfl⟩ : _ ∧ Status.failed = status := by simpa using h
      exact if_neg hopen
  · rw [if_neg hbase] at hget
    have hsame : (connection base).watch.ending? ((link number).modify Link.forsaken s)
        = (connection base).watch.ending? s := ending_of_same (by rw [hget]) (by rw [hget])
    rwa [hsame]

/-- When nobody holds a connection any longer, it has ended for the lease on it. -/
lemma grows_forsaken (number : Nat) (s : World) :
    ((pool.lease base lease).aspect guard s).Grows
      ((pool.lease base lease).aspect guard ((link number).modify Link.forsaken s)) := by
  refine ⟨rfl, fun hended => ?_, id, id⟩
  obtain ⟨status, hstatus⟩ := Option.isSome_iff_exists.mp hended
  exact Option.isSome_iff_exists.mpr ⟨status, ending_forsaken base number s hstatus⟩

lemma grows_drop (guard : Job) (base lease number : Nat) (s : World) :
    ((pool.lease base lease).aspect guard s).Grows
      ((pool.lease base lease).aspect guard (drop number s)) := by
  cases halive : ((link number).get s).alive with
  | false =>
    rw [drop_of_gone halive]
    exact .refl _
  | true =>
    rw [aspect_of_still (still_drop halive)]
    exact grows_forsaken number s

def returned (s : World) : List Unit :=
  List.replicate s.accounts.released ()

lemma elsewhere_of_works {ρ : Type} {heard : World → List ρ}
    (hheard : ∀ b s, heard { s with backend := b } = heard s) {calls : List Call}
    (h : World.Works number calls s s') : pool.Elsewhere base lease heard s s' := by
  refine ⟨?_, ?_⟩
  · rw [h.aspect]
    exact .refl _
  · rw [h.same, hheard]

lemma ending_join (base number : Nat) (self : TaskId) (s : World) :
    (connection base).watch.ending? ((signal number).modify (Signal.join self) s)
      = (connection base).watch.ending? s := by
  have hget := link_get_signal (((signal number).get s).join self) number base s
  rw [Cell.modify]
  by_cases h : base = number
  · rw [if_pos h] at hget
    refine ending_of_same ?_ (by rw [hget])
    rw [hget, Signal.status_join, h]
    rfl
  · rw [if_neg h] at hget
    exact ending_of_same (by rw [hget]) (by rw [hget])

lemma aspect_join (number : Nat) (self : TaskId) (s : World) :
    (pool.lease base lease).aspect guard ((signal number).modify (Signal.join self) s)
      = (pool.lease base lease).aspect guard s := by
  unfold Lease.aspect
  rw [show (pool.lease base lease).base.watch.ending? _ = _ from ending_join base number self s]
  rfl

lemma destroyAll_works (base lease : Nat) (handles : List StatementHandle) (s : World) :
    ∃ calls, (∀ call ∈ calls, ∃ handle ∈ handles, call = Call.destroy base handle.sql)
      ∧ World.Works base calls s ((pool.lease base lease).destroyAll handles s) := by
  induction handles generalizing s with
  | nil => exact ⟨[], by simp, .refl s⟩
  | cons handle rest ih =>
    obtain ⟨calls, hcalls, hworks⟩ := ih (destroy base handle s)
    rcases destroy_works base handle s with h | h
    · refine ⟨calls, fun call hcall => ?_, h.trans hworks⟩
      obtain ⟨other, hother, heq⟩ := hcalls call hcall
      exact ⟨other, List.mem_cons_of_mem _ hother, heq⟩
    · refine ⟨_, fun call hcall => ?_, h.trans hworks⟩
      rcases List.mem_cons.mp hcall with rfl | hcall
      · exact ⟨handle, List.mem_cons_self, rfl⟩
      · obtain ⟨other, hother, heq⟩ := hcalls call hcall
        exact ⟨other, List.mem_cons_of_mem _ hother, heq⟩

/-- **The connection beneath knows nothing of the lease on it.** -/
theorem beneath_elsewhere {ρ : Type} {heard : World → List ρ}
    (hheard : ∀ b s, heard { s with backend := b } = heard s) (base lease : Nat) :
    (pool.connection base).Respects (fun _ => True) (pool.Elsewhere base lease heard) where
  connect := plainCall_obeys fun s _ => ⟨(), elsewhere_of_works hheard (.note rfl s), trivial⟩
  begin := plainCall_obeys fun s _ => ⟨(), elsewhere_of_works hheard (.note rfl s), trivial⟩
  commit := plainCall_obeys fun s _ => ⟨(), elsewhere_of_works hheard (.note rfl s), trivial⟩
  rollback := plainCall_obeys fun s _ => ⟨(), elsewhere_of_works hheard (.note rfl s), trivial⟩
  prepare _ _ := prepare_obeys fun _ _ _ h _ _ => ⟨(), elsewhere_of_works hheard h, trivial⟩
  execute _ _ := execute_obeys fun _ _ _ h _ => ⟨(), elsewhere_of_works hheard h, trivial⟩
  destroy handle s _ :=
    (destroy_works base handle s).elim (elsewhere_of_works hheard) (elsewhere_of_works hheard)
  register self s _ := ⟨by
    rw [show (pool.connection base).watch.register self s = _ from rfl]
    exact (aspect_join base self s) ▸ .refl _, hheard _ s⟩

lemma grows_giveBack (base lease : Nat) (s : World) :
    ((pool.lease base lease).aspect (.watch base lease) s).Grows
      ((pool.lease base lease).aspect (.watch base lease)
        (pool.giveBack (pool.connection base) s)) :=
  grows_drop (.watch base lease) base lease base
    (MemoryHost.accounts.modify (fun a => { a with released := a.released + 1 }) s)

lemma returned_drop (number : Nat) (s : World) : returned (drop number s) = returned s := by
  cases halive : ((link number).get s).alive with
  | false => rw [drop_of_gone halive]
  | true =>
    rw [(still_drop halive).same returned (fun _ _ => rfl) (fun _ _ _ => rfl) (fun _ _ => rfl)]
    rfl

/-- **A lease of the pool is a part of the world of its own**, and the pool counts what comes back.
-/
theorem pool_hears (base lease : Nat) : pool.Hears base lease returned fun _ => () where
  apart := apart base lease
  count _ _ := rfl
  heard_cell _ _ := rfl
  heard_schedule _ _ := rfl
  heard_traces _ _ := rfl
  beneath := beneath_elsewhere (fun _ _ => rfl) base lease
  giveBack := grows_giveBack base lease
  told s := by
    show returned (drop base _) = _
    rw [returned_drop]
    exact List.replicate_succ'

end Memory

end Transactional
