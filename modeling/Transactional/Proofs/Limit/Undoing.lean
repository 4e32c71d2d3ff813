import Transactional.Proofs.Limit.Lodging
import Transactional.Proofs.Limit.Budget
import Transactional.Proofs.Run.Milestones

/-!
# Undoing what has been begun

A run that has been cut off rolls back, closes its lease and gives the connection back.  It may take
more than one turn to do so, if nothing is left of the first one, and those who look after the lease
act in between; it makes no difference to what the connection sees.

* `InHand` — somebody has a lease in hand, and its connection has been given back so often;
  `InHand.play` says that it stays so, whatever happens.
* `undoing_obeys` — undoing a transaction keeps the books of the lease, to their end.
* **`CutOff`**, **`cutOff_of_undone`** — what the connection has seen when a transaction has been
  undone.
* **`Run.undone_promptly`** — it does not take longer than a turn of which enough is left.
-/

namespace Transactional

/-! ## Moves and steps -/

namespace Company

variable [Host σ] {allowed : Job → Task σ Unit → Prop} {jobs : Job → Task σ Unit} {α : Type}

/-- A turn of somebody beside the task in front, while that gives way, is a sequence of steps. -/
lemma steps_turn (self : TaskId) (s : σ) {front : Task σ α} (hrest : front.Rests)
    (before after : List (Strand σ)) (task : Task σ Unit) (optional : Bool) :
    Relation.ReflTransGen (Step allowed) ⟨s, front, before ++ ⟨task, optional⟩ :: after⟩
      ⟨(task.poll self s).2, front, before ++ ⟨(task.poll self s).1, optional⟩ :: after⟩ := by
  induction task generalizing s with
  | done a => exact .refl
  | act update next ih => exact .head (.beside hrest (.act update next s)) (ih s (update s))
  | wait on next ih =>
    rw [Task.poll]
    split
    next hready => exact .head (.beside hrest (.pass on next s hready)) (ih s)
    next => exact .single (.beside hrest (.register on next self s))

lemma steps_beside {c : Company σ α} (hrest : c.front.Rests) (place : Nat) (self : TaskId) :
    Relation.ReflTransGen (Step allowed) c (c.take jobs (.beside place self)) := by
  obtain ⟨s, front, beside⟩ := c
  simp only [take]
  cases hplace : beside[place]? with
  | none => exact .refl
  | some strand =>
    obtain ⟨before, after, rfl, hset⟩ := Run.split_at hplace
    dsimp only
    rw [hset]
    exact steps_turn self s hrest before after strand.task strand.optional

lemma steps_start {c : Company σ α} (hrest : c.front.Rests) {number : TaskId} {job : Job}
    (hjob : allowed job (jobs job)) :
    Relation.ReflTransGen (Step allowed) c (c.take jobs (.start number job)) := by
  simp only [take]
  split
  next hdue => exact .single (.start hrest hdue hjob)
  next => exact .refl

end Company

/-! ## A lease in somebody's hands -/

/-- **Somebody has a lease in hand**, and its connection has been given back so often. -/
def InHand (permit : Bool) (base number given : Nat) (ends : α → LeaseState × Possession → Prop)
    (c : Company World α) : Prop :=
  ∃ (y : LeaseState × Possession) (staged : List (Strand World × Station)),
    c.front.Obeys (lending permit base number) (fun _ _ => True) ends y
    ∧ c.beside = staged.map Prod.fst
    ∧ (∀ x ∈ staged, Company.Keeps (stations permit base number) (Station.Past base) x.1 x.2)
    ∧ FairOf permit base number given (.user y) (staged.map Prod.snd) c.state y

/-- How often a company gives a connection back in a move; what happens around it is not counted. -/
def Company.handed (jobs : Job → Task World Unit) (c : Company World α) : Company.Move World → Nat
  | .around _ => 0
  | move => (c.take jobs move).state.accounts.released - c.state.accounts.released

/-- **How often a company gives a connection back.** -/
def Company.returns (jobs : Job → Task World Unit) :
    Company World α → List (Company.Move World) → Nat
  | _, [] => 0
  | c, move :: rest => c.handed jobs move + returns jobs (c.take jobs move) rest

lemma Company.returns_map {jobs : Job → Task World Unit} (g : α → β) (c : Company World α)
    (moves : List (Company.Move World)) :
    (c.led (c.front.bind fun a => .done (g a))).returns jobs moves = c.returns jobs moves := by
  induction moves generalizing c with
  | nil => rfl
  | cons move rest ih =>
    have htake : (c.led (c.front.bind fun a => .done (g a))).take jobs move
        = (c.take jobs move).led ((c.take jobs move).front.bind fun a => .done (g a)) :=
          play_map jobs g c [move]
    have hhanded : (c.led (c.front.bind fun a => .done (g a))).handed jobs move
      = c.handed jobs move := by
      cases move with
      | around change => rfl
      | _ =>
        simp only [handed, htake]
        rfl
    rw [returns, htake, ih, hhanded, returns]

variable {permit : Bool} {base number given : Nat} {m : Mirror} {s s' : World} {α : Type}
  {ends : α → LeaseState × Possession → Prop}

lemma lending_released {x y : LeaseState × Possession}
    (h : (lending permit base number).may x s y s') :
    s.accounts.released ≤ s'.accounts.released := by
  rcases h.2.2.2.2 with ⟨-, hsame, -⟩ | ⟨-, hmore, -⟩
  · exact Nat.le_of_eq hsame.symm
  · exact hmore ▸ Nat.le_succ _

lemma Station.May.released_le {p q : Station} (h : Station.May permit base number p s q s') :
    s.accounts.released ≤ s'.accounts.released := by
  cases h with
  | use h | close h => exact lending_released h
  | part | notice => exact Nat.le_refl _
  | glance _ _ hsame => exact Nat.le_of_eq hsame.symm

lemma Fair.rises {β : Type} {ends : β → Station → Prop} (s s' : World) :
    Company.Upheld (stations permit base number) ends (Station.Past base)
      (Memory.pool.Jobs base number)
      (Fair permit base number given) (fun _ _ _ => s.accounts.released ≤ s'.accounts.released)
        s s' where
  knows := fun ⟨_, hf⟩ => hf.knows_front
  knows_beside := fun ⟨_, hf⟩ hq => hf.knows_job hq
  front _ hmay := Station.May.released_le hmay
  beside _ _ hmay := Station.May.released_le hmay
  gone _ h := h
  start := by
    rintro p ps n job task ⟨x, hf⟩ hdue hjob rfl
    obtain ⟨q, hkeeps, -⟩ := hf.start hdue hjob
    exact ⟨q, hkeeps, Nat.le_refl _⟩

/-- **In every step what is true of a lease stays true**, and what is given back is added up. -/
lemma Fair.steps {β : Type} {ends : β → Station → Prop} {c c' : Company World β}
    (h : c.Kept (stations permit base number) ends (Station.Past base)
      (Fair permit base number given))
    (hsteps : Relation.ReflTransGen (Company.Step (Memory.pool.Jobs base number)) c c') :
    c.state.accounts.released ≤ c'.state.accounts.released
      ∧ c'.Kept (stations permit base number) ends (Station.Past base)
        (Fair permit base number
          (given + (c'.state.accounts.released - c.state.accounts.released))) := by
  induction hsteps with
  | refl => exact ⟨Nat.le_refl _, by rwa [Nat.sub_self]⟩
  | @tail d e _ hstep ih =>
    obtain ⟨hle, hkept⟩ := ih
    obtain ⟨_, _, _, _, _, hrises⟩ := hkept.step hstep (Fair.rises d.state e.state)
    have hnext := hkept.step hstep (Fair.upheld d.state e.state)
    have hcount : given + (d.state.accounts.released - c.state.accounts.released)
        + (e.state.accounts.released - d.state.accounts.released)
          = given + (e.state.accounts.released - c.state.accounts.released) := by omega
    rw [hcount] at hnext
    exact ⟨Nat.le_trans hle hrises, hnext⟩

/-- **Whoever has a lease in hand takes a turn**: each change upholds what is true, and what is
given back is added up. -/
lemma FairOf.turn {ps : List Station} {y : LeaseState × Possession} (self : TaskId)
    {task : Task World α}
    (hf : FairOf permit base number given (.user y) ps s y)
    (htask : task.Obeys (lending permit base number) (fun _ _ => True) ends y) :
    ∃ z, (task.poll self s).1.Obeys (lending permit base number) (fun _ _ => True) ends z
      ∧ FairOf permit base number
        (given + ((task.poll self s).2.accounts.released - s.accounts.released)) (.user z)
        ps (task.poll self s).2 z
      ∧ s.accounts.released ≤ (task.poll self s).2.accounts.released := by
  have hmove : ∀ {given : Nat} {y z : LeaseState × Possession} {s s' : World},
      FairOf permit base number given (.user y) ps s y → (lending permit base number).may y s z s' →
      FairOf permit base number (given + (s'.accounts.released - s.accounts.released)) (.user z) ps
        s' z := by
    intro given y z s s' hf hmay
    obtain ⟨-, hnone, hps⟩ := hf.hands.of_user
    exact hf.move hmay (hnone ▸ .user hps) hf.jobs id
  induction task generalizing given y s with
  | done a =>
    refine ⟨y, htask, ?_, Nat.le_refl _⟩
    rw [Task.poll, Nat.sub_self]
    exact hf
  | act update next ih =>
    obtain ⟨y', hmay, hnext⟩ := htask s hf.knows
    obtain ⟨z, hz, hfair, hle⟩ := ih s (hmove hf hmay) hnext
    have hfirst := lending_released hmay
    have hcount : given + ((update s).accounts.released - s.accounts.released)
        + ((Task.poll self (next s) (update s)).2.accounts.released - (update s).accounts.released)
          = given + ((Task.poll self (next s) (update s)).2.accounts.released -
            s.accounts.released) := by omega
    rw [hcount] at hfair
    exact ⟨z, hz, hfair, Nat.le_trans hfirst hle⟩
  | wait on next ih =>
    rw [Task.poll]
    split
    next hready =>
      obtain ⟨y', hmay, hnext⟩ := htask.2.2.2 s hf.knows hready
      have hfair := hmove hf hmay
      rw [Nat.sub_self] at hfair
      exact ih hfair hnext
    next =>
      have hmay := htask.2.2.1 self s hf.knows
      exact ⟨y, htask, hmove hf hmay, lending_released hmay⟩

namespace InHand

variable {c : Company World α}

/-- Whoever has used a lease has it in hand, with those who look after it beside him. -/
lemma begin {front : Task World α} {beside : List (Strand World)} {x : Lodging}
    (hs : Lodges permit base number x s) (hx : x.2 = m.stage)
    (hbeside : ∀ strand ∈ beside, strand = ⟨(Memory.pool.lease base number).watch false, false⟩)
    (hfront : front.Obeys (lending permit base number) (fun _ _ => True) ends m.stage) :
    InHand permit base number 0 ends ⟨s, front, beside⟩ := by
  let keeping : Strand World → Strand World × Station := fun strand => (strand, .keeper)
  have hstaged : ∀ z ∈ beside.map keeping, z.1 ∈ beside ∧ z.2 = .keeper := by
    intro z hz
    obtain ⟨strand, hstrand, rfl⟩ := List.mem_map.mp hz
    exact ⟨hstrand, rfl⟩
  have hkeeper : ∀ q ∈ (beside.map keeping).map Prod.snd, q = .keeper := by
    intro q hq
    obtain ⟨z, hz, rfl⟩ := List.mem_map.mp hq
    exact (hstaged z hz).2
  refine ⟨m.stage, beside.map keeping, hfront, ?_, ?_, ?_⟩
  · rw [List.map_map]
    exact (List.map_id _).symm
  · rintro ⟨strand, q⟩ hz
    obtain ⟨hstrand, rfl⟩ := hstaged _ hz
    rw [hbeside strand hstrand]
    exact keeper_keeps false
  · refine ⟨?_, fun q hq => hkeeper q hq ▸ trivial, hx ▸ hs.lent, rfl, nofun,
      fun hlate => nomatch hkeeper _ hlate⟩
    rw [hs.unclosed]
    refine .user (List.filterMap_eq_nil_iff.mpr fun q hq => ?_)
    rw [hkeeper q hq]
    rfl

/-- **He takes a turn.** -/
lemma turn (self : TaskId) {front : Task World α} {beside : List (Strand World)}
    (h : InHand permit base number given ends ⟨s, front, beside⟩) :
    InHand permit base number
      (given + ((front.poll self s).2.accounts.released - s.accounts.released)) ends
      ⟨(front.poll self s).2, (front.poll self s).1, beside⟩ := by
  obtain ⟨y, staged, hfront, hbeside, hkeeps, hf⟩ := h
  obtain ⟨z, hz, hfair, -⟩ := hf.turn self hfront
  exact ⟨z, staged, hz, hbeside, hkeeps, hfair⟩

/-- **Somebody else does.**  For all that concerns the others, whoever has the lease in hand might
have come to his end. -/
lemma aside (h : InHand permit base number given ends c) {move : Company.Move World}
    (hmove : move ≠ .front)
    (hsteps : ∀ y : LeaseState × Possession,
      Relation.ReflTransGen (Company.Step (Memory.pool.Jobs base number))
      (c.led (Task.done y)) ((c.led (Task.done y)).take Memory.pool.perform move)) :
    InHand permit base number
      (given + ((c.take Memory.pool.perform move).state.accounts.released -
        c.state.accounts.released)) ends
      (c.take Memory.pool.perform move) := by
  obtain ⟨y, staged, hfront, hbeside, hkeeps, hf⟩ := h
  have hkept : (c.led (Task.done y)).Kept (stations permit base number) (fun y p => p = .user y)
      (Station.Past base) (Fair permit base number given) :=
        ⟨_, staged, rfl, hbeside, hkeeps, y, hf⟩
  obtain ⟨-, p, staged', hp, hbeside', hkeeps', x, hf'⟩ := Fair.steps hkept (hsteps y)
  rw [Company.take_led _ c _ hmove] at hp hbeside' hf'
  obtain rfl : p = .user y := hp
  obtain ⟨rfl, -⟩ := hf'.hands.of_user
  exact ⟨x, staged', (Company.front_take _ c hmove).symm ▸ hfront, hbeside', hkeeps', hf'⟩

/-- **Something happens around them.** -/
lemma around (h : InHand permit base number given ends c)
    (hout : World.Undisturbed base number c.state s') :
    InHand permit base number given ends { c with state := s' } := by
  obtain ⟨y, staged, hfront, hbeside, hkeeps, hf⟩ := h
  obtain ⟨-, hnone, -⟩ := hf.hands.of_user
  exact ⟨y, staged, hfront, hbeside, hkeeps, hf.around (hout.around hnone)⟩

/-- **Whatever happens, he has it in hand**, and it is known how often the connection has been given
back. -/
lemma take (h : InHand permit base number given ends c) {move : Company.Move World}
    (hmove : Run.Peaceful base number c.state move) :
    InHand permit base number (given + c.handed Memory.pool.perform move) ends
      (c.take Memory.pool.perform move) := by
  cases move with
  | around change => exact h.around hmove
  | front => exact h.turn Company.frontTask
  | beside place self =>
    exact h.aside nofun fun y => Company.steps_beside
      (show (c.led (Task.done y)).front.Rests from trivial) place self
  | start n job =>
    refine h.aside nofun fun y => Company.steps_start
      (show (c.led (Task.done y)).front.Rests from trivial) ?_
    rcases hmove with rfl | rfl
    · exact .inr ⟨rfl, false, rfl⟩
    · exact .inl ⟨rfl, rfl⟩

theorem play (h : InHand permit base number given ends c) {moves : List (Company.Move World)}
    (hmoves : Company.Heeds Memory.pool.perform (Run.Peaceful base number) c moves) :
    InHand permit base number (given + c.returns Memory.pool.perform moves) ends
      (c.play Memory.pool.perform moves) := by
  induction moves generalizing c given with
  | nil => exact h
  | cons move rest ih =>
    have hplay := ih (h.take hmoves.1) hmoves.2
    rw [Nat.add_assoc] at hplay
    exact hplay

end InHand

/-! ## Undoing a transaction -/

variable {conn : Connection World} {x : Lodging} {beside : List (Strand World)}

/-- **Undoing a transaction** keeps the books of the lease, to their end. -/
theorem undoing_obeys (L : Lodger permit base number conn) (cause : Fault) (path : List Milestone)
    (m : Mirror) :
    (Task.holding conn.drop (Run.undoing conn cause path)).Obeys (lending permit base number)
      (fun _ _ => True)
      (fun told y => ∃ rolled, told = (.error cause, path ++ [.rolledBack rolled, .closed])
        ∧ y = (m.after base ⟨.rollback, rolled⟩).final base) m.stage := by
  let undone (told : Except Fault Value × List Milestone) (y : LeaseState × Possession) : Prop :=
    ∃ rolled, told = (.error cause, path ++ [.rolledBack rolled, .closed])
      ∧ y = (m.after base ⟨.rollback, rolled⟩).final base
  have hclose : ∀ rolled, (conn.close.bind fun _ => Task.done
      ((.error cause, path ++ [.rolledBack rolled, .closed]) : Except Fault Value
        × List Milestone)).Obeys
        (lending permit base number) (fun _ _ => True) undone
          (m.after base ⟨.rollback, rolled⟩).stage := by
    intro rolled
    rw [L.close]
    refine (close_obeys fun _ => trivial).bind ?_
    rintro _ _ rfl
    exact ⟨rolled, rfl, rfl⟩
  refine Task.Obeys.holding (?_ : Task.Obeys _ _ undone _ _) ?_
  · unfold Run.undoing
    refine (L.rollback m).bind ?_
    rintro (fault | _) _ rfl
    · exact fun s hs => ⟨_, lending_stay hs rfl, hclose (.error fault)⟩
    · exact hclose (.ok ())
  · rintro told _ s ⟨rolled, rfl, rfl⟩ hs
    have hclosed : ((LeaseHost.leases number).get s).closed = true :=
      congrArg LeaseState.closed hs.1
    have hdrop : conn.drop s = s := by
      rw [L.drop]
      exact if_pos hclosed
    exact ⟨_, hdrop.symm ▸ lending_stay hs rfl, rolled, rfl, rfl⟩

/-- **What the connection has seen when a transaction has been undone**: a rollback, once more when
the lease is closed if it has failed, and the end of each statement that was prepared, in order;
after it there is nothing left on the connection, nobody holds it any longer, and the lease is
closed. -/
structure CutOff (base number : Nat) (rolled : Except Fault Unit) (s s' : World) : Prop where
  calls : s'.callsOn base = s.callsOn base ++ [.rollback base]
    ++ (if rolled.toBool then [] else [.rollback base])
    ++ (StatementHandle.firsts [] ((LeaseHost.leases number).get s).statements).map fun handle =>
      .destroy base handle.sql
  prepared : ((Memory.link base).get s).statements
    = ((LeaseHost.leases number).get s).statements.map (·.id)
  /-- Unless there have been more statements than numbers, each of them had its own. -/
  each : ((Memory.link base).get s).statements.Nodup →
    StatementHandle.firsts [] ((LeaseHost.leases number).get s).statements
      = ((LeaseHost.leases number).get s).statements
  statements : ((Memory.link base).get s').statements = []
  alive : ((Memory.link base).get s').alive = false
  status : ((LeaseHost.leases number).get s').signal.status = .closed

lemma CutOff.of_spend {rolled : Except Fault Unit} {cut : World}
    (h : CutOff base number rolled (Task.spend cut) s') : CutOff base number rolled cut s' :=
  ⟨h.calls, h.prepared, h.each, h.statements, h.alive, h.status⟩

/-- What the connection has seen does not depend on when one began to look, while the books have
been the same. -/
lemma CutOff.since {rolled : Except Fault Unit} {cut : World} {y : LeaseState × Possession}
    {permit : Bool}
    (h : CutOff base number rolled cut s') (hcut : (lending permit base number).knows y cut)
    (hs : (lending permit base number).knows y s) : CutOff base number rolled s s' := by
  have hcalls : cut.callsOn base = s.callsOn base := hcut.2.calls.trans hs.2.calls.symm
  have hlink : ((Memory.link base).get cut).statements = ((Memory.link base).get s).statements :=
    (congrArg Memory.Link.statements (hcut.2.link.trans hs.2.link.symm) :)
  have hlease : ((LeaseHost.leases number).get cut).statements
    = ((LeaseHost.leases number).get s).statements :=
    (congrArg LeaseState.statements (hcut.1.trans hs.1.symm) :)
  exact ⟨hcalls ▸ hlease ▸ h.calls, hlink ▸ hlease ▸ h.prepared, hlink ▸ hlease ▸ h.each,
    h.statements, h.alive,
    h.status⟩

/-- **What has become of a transaction that has been undone**, whatever happened meanwhile: it is
known what the connection has seen, and it has been given back once. -/
theorem cutOff_of_undone (L : Lodger permit base number conn) {cause : Fault}
    {path : List Milestone}
    (hs : Lodges permit base number x s) (hx : x.2 = m.stage) (hopen : m.Open)
    (hbeside : ∀ strand ∈ beside, strand = ⟨(Memory.pool.lease base number).watch false, false⟩)
    {moves : List (Company.Move World)}
    {told : Except Fault Value × List Milestone} :
    let c : Company World _ := ⟨s, Task.holding conn.drop (Run.undoing conn cause path), beside⟩
    Company.Heeds Memory.pool.perform (Run.Peaceful base number) c moves →
    (c.play Memory.pool.perform moves).front = .done told →
      ∃ rolled, told = (.error cause, path ++ [.rolledBack rolled, .closed])
        ∧ CutOff base number rolled s (c.play Memory.pool.perform moves).state
        ∧ c.returns Memory.pool.perform moves = 1 := by
  intro c hmoves hdone
  have hinhand := (InHand.begin hs hx hbeside (undoing_obeys L cause path m)).play hmoves
  obtain ⟨y, staged, hfront, -, -, hf⟩ := hinhand
  rw [hdone] at hfront
  obtain ⟨rolled, htold, rfl⟩ := hfront
  have hbefore : (lending permit base number).knows m.stage s := hx ▸ hs.lent
  have hlease : ((LeaseHost.leases number).get s).statements = m.handles :=
    congrArg LeaseState.statements hbefore.1
  have hprepared : ((Memory.link base).get s).statements = m.handles.map (·.id) :=
    congrArg Memory.Link.statements hbefore.2.link
  refine ⟨rolled, htold, ⟨?_, ?_, fun hnodup => ?_, congrArg Memory.Link.statements hf.knows.2.link,
    congrArg Memory.Link.alive hf.knows.2.link, congrArg (fun state => state.signal.status)
      hf.knows.1⟩, ?_⟩
  · have hcalls : s.callsOn base = m.calls := hbefore.2.calls
    refine hf.knows.2.calls.trans ?_
    rw [hcalls, hlease]
    show m.calls ++ [.rollback base] ++ (m.after base ⟨.rollback, rolled⟩).farewell base = _
    rw [Mirror.farewell, ← List.append_assoc]
    have hopen : m.transaction = true := hopen
    cases rolled <;> simp [Mirror.undo, Mirror.after, Answered.transaction, Answered.handles, hopen,
      Except.toBool]
  · rw [hprepared, hlease]
  · rw [hprepared] at hnodup
    rw [hlease]
    exact StatementHandle.firsts_of_nodup hnodup (by simp)
  · exact ((Nat.zero_add _).symm.trans hf.given :)

/-! ## How long it takes -/

/-- **A connection of which one use, or its end, takes one part of a turn** at most. -/
structure Connection.Spends (conn : Connection World) : Prop where
  rollback : ∀ n, conn.rollback.run.Spends (n + 1) n
  close : ∀ n, conn.close.Spends (n + 1) n
  drop : ∀ n s, budget.may n s n (conn.drop s)

lemma lease_spends : (Memory.pool.lease base number : Lease World).connection.Spends where
  rollback n := Memory.operate_spends (Memory.plainCall_spends _ _)
  close n := Memory.shutdown_spends .closed
  drop n s := by
    show budget.may n s n ((Memory.pool.lease base number : Lease World).drop s)
    unfold Lease.drop
    split <;> exact ⟨rfl, Nat.le_refl _⟩

lemma Connection.Spends.logged (T : conn.Spends) (log : StatementLog) :
    (conn.logged log.write).Spends where
  rollback n :=
    .act (fun s => .of_schedule (World.SameSilent.same (log.silenced_write _ s) World.schedule
      fun _ => rfl))
      fun _ => T.rollback n
  close := T.close
  drop := T.drop

lemma handedOut_spends {manager : Manager World} (h : manager.Scripted) :
    (manager.handedOut (base, number)).Spends := by
  unfold Manager.handedOut
  rw [h.pool]
  obtain hnone | ⟨log, hsome⟩ := h.wrapping
  · simp only [Manager.wrap, hnone]
    exact lease_spends
  · simp only [Manager.wrap, hsome]
    exact lease_spends.logged log

/-- **Undoing a transaction** takes two parts of a turn: one for the rollback, and one for the end
of the lease. -/
lemma undo_spends (T : conn.Spends) (cause : Fault) :
    (Task.holding conn.drop (Run.undo conn cause)).Spends 2 0 := by
  refine Task.Obeys.holding (?_ : Task.Spends _ 2 0) fun _ k s hk _ => ⟨k, T.drop k s, hk⟩
  unfold Run.undo Run.rollbackQuietly
  rw [Task.bind_assoc]
  refine (T.rollback 1).bind ?_
  rintro (fault | _)
  · exact .act (fun _ => .of_schedule rfl) fun _ => (T.close 0).bind fun _ => rfl
  · exact (T.close 0).bind fun _ => rfl

/-- **As far as a task goes that spends at most so much**, it takes no more of a turn than it may.
-/
lemma Task.SpendsAtMost.reach {task : Task World α} {n : Nat} (h : task.SpendsAtMost n)
    (s : World) :
    ∃ m, (task.reach s).1.SpendsAtMost m ∧ s.schedule.allowance + m
      ≤ (task.reach s).2.schedule.allowance + n := by
  let Spends (n : Nat) (s : World) (m : Nat) (s' : World) : Prop :=
    s.schedule.allowance + m ≤ s'.schedule.allowance + n
  have htrans : ∀ {n s m s' l s''}, Spends n s m s' → Spends m s' l s'' → Spends n s l s'' := by
    intro n s m s' l s'' h h'
    simp only [Spends] at h h' ⊢
    omega
  obtain ⟨m, hm, -, hspent⟩ := Task.Obeys.reach (D := budget) (R := Spends) (s := s)
    (fun _ _ => Nat.le_refl _)
    htrans (fun _ hmay => ⟨trivial, hmay.2⟩) h trivial
  exact ⟨m, hm, hspent⟩

namespace Run

section

variable {rests : Standing → Prop} {c : Company World α} {k : Nat}

/-- **Whoever gives way in between has used up his turn**, and needs that much less afterwards. -/
lemma Attended.spendsAtMost_turn (h : Attended atPause rests base number c)
    (hatMost : c.front.SpendsAtMost k) :
    (∃ a, (c.take Memory.pool.perform .front).front = .done a)
      ∨ ∃ k', k' + c.state.schedule.allowance ≤ k
        ∧ (c.take Memory.pool.perform .front).front.SpendsAtMost k' := by
  obtain ⟨x, -, hs, hobeys⟩ := h.front
  obtain ⟨_, hy, -⟩ := hobeys.reach (R := fun _ _ _ _ => True) (fun _ _ => trivial)
    (fun _ _ => trivial)
    (fun _ hmay => ⟨hmay, trivial⟩) hs
  obtain ⟨k', hk', hspent⟩ := hatMost.reach c.state
  rcases Task.reach_cases c.front c.state with ⟨a, s', hreach⟩ | ⟨on, next, s', hreach, hwaits⟩
  · exact .inl ⟨a, congrArg Prod.fst (Task.poll_of_reach_done Company.frontTask hreach)⟩
  · rw [hreach] at hy hk' hspent
    have hpause : on.ready = (Task.pause : Wait World).ready := hy.1.2
    have hnothing : s'.schedule.allowance = 0 := by
      rw [hpause] at hwaits
      exact Nat.eq_zero_of_not_pos (of_decide_eq_false hwaits)
    have hspent : c.state.schedule.allowance + k' ≤ s'.schedule.allowance + k := hspent
    refine .inr ⟨k', by omega, ?_⟩
    simp only [Company.take, Task.poll_of_reach_wait Company.frontTask hreach]
    exact hk'

/-- **As long as it is not over**, it needs no more than it did. -/
lemma Attended.spendsAtMost_play (hrests : ∀ x, rests x → Settled x)
    (h : Attended atPause rests base number c)
    {moves : List (Company.Move World)}
    (hmoves : Company.Heeds Memory.pool.perform (Considerate base number) c moves)
    (hatMost : c.front.SpendsAtMost k) :
    (∃ a, (c.play Memory.pool.perform moves).front = .done a)
      ∨ ∃ k' ≤ k, (c.play Memory.pool.perform moves).front.SpendsAtMost k' := by
  induction moves generalizing c k with
  | nil => exact .inr ⟨_, Nat.le_refl _, hatMost⟩
  | cons move rest ih =>
    have hnext := h.take (fun _ _ h => h.1) hrests hmoves.1
    by_cases hmove : move = .front
    · subst hmove
      rcases h.spendsAtMost_turn hatMost with ⟨a, hdone⟩ | ⟨k', hk', hatMost'⟩
      · exact .inl ⟨a, Company.front_play_of_done _ hdone rest⟩
      · exact (ih hnext hmoves.2 hatMost').imp_right fun ⟨k'', hle, h⟩ => ⟨k'', by omega, h⟩
    · exact ih hnext hmoves.2 ((Company.front_take _ c hmove).symm ▸ hatMost)

end

lemma undo_gives (conn : Connection World) (cause : Fault) :
    (Task.holding conn.drop (undo conn cause)).Gives (· = .error cause) :=
  Task.Gives.holding (Task.Gives.after fun _ => Task.Gives.after fun _ => rfl)

/-- **Undoing a transaction does not take longer than a turn in which enough is left**, whatever
happens before it. -/
theorem undone_promptly (C : Calm base number conn) (T : conn.Spends) (cause : Fault)
    (hs : Stood base number .calm s) (hbeside : ∀ strand ∈ beside, Attends base number strand.task)
    {early late : List (Company.Move World)} :
    let c : Company World _ := ⟨s, Task.holding conn.drop (undo conn cause), beside⟩
    Company.Heeds Memory.pool.perform (Considerate base number) c early →
    2 < (c.play Memory.pool.perform early).state.schedule.allowance →
      (c.play Memory.pool.perform (early ++ .front :: late)).front = .done (.error cause) := by
  intro c hheeds hturn
  have hstart : Attended atPause (· = .returned) base number c := by
    refine ⟨⟨.calm, .inl rfl, hs, Task.Obeys.holding (C.undo cause) ?_⟩, hbeside⟩
    rintro _ _ s rfl hs
    exact ⟨.returned, by rw [C.drop s hs]; exact hs, rfl⟩
  have hatMost : c.front.SpendsAtMost 2 := (undo_spends T cause).imp fun _ _ _ => trivial
  have hover : ∃ a, (c.play Memory.pool.perform (early ++ .front :: late)).front = .done a := by
    rw [Company.play_append]
    rcases hstart.spendsAtMost_play settled_of_returned hheeds hatMost with ⟨a, hdone⟩
      | ⟨k, hk, hatMost⟩
    · exact ⟨a, Company.front_play_of_done _ hdone _⟩
    · have hattended := hstart.play (fun _ _ h => h.1) settled_of_returned hheeds
      rcases hattended.spendsAtMost_turn hatMost with ⟨a, hdone⟩ | ⟨k', hk', -⟩
      · exact ⟨a, Company.front_play_of_done _ hdone late⟩
      · omega
  obtain ⟨a, hdone⟩ := hover
  have hresult : (c.play Memory.pool.perform (early ++ .front :: late)).front.Gives
    (· = .error cause) :=
    Company.gives_play (undo_gives conn cause) _
  rw [hdone] at hresult
  rw [hdone, show a = .error cause from hresult]

end Run

end Transactional
