import Transactional.Proofs.Isolation.RunState

/-!
# The calls of a run on its connection

Whatever a run asks of its connection, it knows the answer, and what it has on the connection
afterwards; and it knows what is left when the connection has been given back.

* `plainCall_informed`, `prepare_informed`, `execute_informed`, `destroy_informed` — the calls.
* `release_informed` — destroying what is left, and giving the connection back.
-/

namespace Transactional

variable {ψ ρ : Type} {S : Terms ρ ψ} {b n : Nat} {s s' : World} {runState runState' : RunState ρ}
  {e : ψ} {α : Type}

/-- The discipline for a run's connection while its lease stays as it is. -/
abbrev beneath (S : Terms ρ ψ) (base number : Nat) : Discipline World (Knowledge ρ ψ) :=
  (Memory.pool.lease base number).besides (knowledge S base number)

lemma Memory.Link.eq_of_plain {l x : Memory.Link} (h : l.plain = x) :
    l = { x with signal := { x.signal with waiting := l.signal.waiting } } := by
  rw [← h]
  rfl

lemma beneath_stay {k : Knowledge ρ ψ} (hs : k.Knows S b s) :
    (beneath S b n).may k s k s :=
  ⟨rfl, .refl s, .inr ⟨hs, rfl, [], (List.append_nil _).symm, (List.append_nil _).symm⟩, .inl⟩

/-- **What a change of one's own connection comes to.** -/
lemma informed_may {l : Memory.Link} {calls : List Memory.Call}
    (hs : (Knowledge.informed runState e).Knows S b s)
    (houtlook : s'.outlook S.futures = { s.outlook S.futures with
      links := Function.update (s.outlook S.futures).links b l
      calls := Function.update (s.outlook S.futures).calls b calls })
    (hid : s'.backend.lastInsertId = s.backend.lastInsertId)
    (hshut : s'.accounts.permits.shut = s.accounts.permits.shut) (hheard : S.heard s' = S.heard s)
    (htold : runState'.told = runState.told)
      (hcalls : calls = runState'.calls.map (Memory.Call.onto b))
    (hlink : l.plain = runState'.link) :
    (beneath S b n).may (.informed runState e) s (.informed runState' e) s' := by
  have hquiet : World.Quiet S.futures n s s' := by
    refine ⟨?_, ?_, fun _ _ => ?_, ?_⟩ <;> rw [houtlook]
  have hknown : runState'.Known S b e s' := by
    obtain ⟨hresponses, hfailures, hunclosed, hrelied⟩ := hs.1.steady
    refine ⟨?_, hshut.trans hs.1.unshut, ?_⟩ <;> rw [houtlook]
    · exact ⟨hresponses, hfailures, hunclosed, hrelied⟩
    · exact (Function.update_self ..).trans hcalls
  refine ⟨?_, hquiet, .inr ⟨⟨hknown, ?_⟩, hid, [], ?_, ?_⟩, nofun⟩
  · exact congrArg (fun o : Outlook ψ => (o.leases n).plain) houtlook
  · rw [houtlook]
    exact (congrArg Memory.Link.plain (Function.update_self ..)).trans hlink
  · rw [hheard, List.append_nil]
  · exact htold.trans (List.append_nil _).symm

lemma calls_append {call : Memory.Call} (hcall : call.number = b)
    (hs : runState.Known S b e s) :
    (s.outlook S.futures).calls b ++ [call] = (runState.call call).calls.map
      (Memory.Call.onto b) := by
  subst hcall
  rw [hs.calls, runState.calls_call]

/-- **The connection has not ended.** -/
lemma status_of_informed (hs : (Knowledge.informed runState e).Knows S b s) :
    ((Memory.link b).get s).signal.status = .open :=
  congrArg (fun l : Memory.Link => l.signal.status) hs.2

lemma statements_of_informed (hs : (Knowledge.informed runState e).Knows S b s) :
    ((Memory.link b).get s).statements = runState.statements :=
  congrArg Memory.Link.statements hs.2

section

variable (hS : S.futures.Discreet S.heard)

include hS

lemma outlook_call {call : Memory.Call} (hcall : call.number = b) (l : Memory.Link → Memory.Link)
    (s : World) :
    ((Memory.link b).modify l (Memory.note call s)).outlook S.futures = { s.outlook S.futures with
      links := Function.update (s.outlook S.futures).links b (l ((s.outlook S.futures).links b))
      calls := Function.update (s.outlook S.futures).calls b
        ((s.outlook S.futures).calls b ++ [call]) } := by
  rw [World.outlook_link hS.toPrivate, World.outlook_note hS.toPrivate hcall]

lemma note_informed {call : Memory.Call} (hcall : call.number = b)
    (hs : (Knowledge.informed runState e).Knows S b s) :
    (beneath S b n).may (.informed runState e) s (.informed (runState.call call) e)
      (Memory.note call s) := by
  refine informed_may hs ?_ rfl rfl (hS.unheard.backend _ s) rfl (calls_append hcall hs.1) hs.2
  rw [World.outlook_note hS.toPrivate hcall, Function.update_eq_self]

lemma modify_informed {call : Memory.Call} (hcall : call.number = b) {f : Memory.Link → Memory.Link}
    (hcalls : runState'.calls = (runState.call call).calls) (htold : runState'.told = runState.told)
    (hf : ∀ l, l.plain = runState.link → (f l).plain = runState'.link)
    (hs : (Knowledge.informed runState e).Knows S b s) :
    (beneath S b n).may (.informed runState e) s (.informed runState' e)
      ((Memory.link b).modify f (Memory.note call s)) := by
  have hheard : S.heard ((Memory.link b).modify f (Memory.note call s)) = S.heard s :=
    (hS.unheard.backend _ _).trans (hS.unheard.backend _ s)
  refine informed_may hs (outlook_call hS hcall f s) rfl rfl hheard htold ?_ (hf _ hs.2)
  rw [hcalls]
  exact calls_append hcall hs.1

omit hS in
/-- **A call is answered**, since the connection has not ended. -/
lemma answering_informed {call : Memory.Call} {answer : World → Except Fault α × World}
    {ends : Except Fault α → Knowledge ρ ψ → Prop}
    (h : ∀ s, (Knowledge.informed runState e).Knows S b s →
      ∃ k, (beneath S b n).may (.informed runState e) s k
          (answer (Memory.note call s)).2
        ∧ ends (answer (Memory.note call s)).1 k) :
    (Memory.answering b call answer).run.Obeys (beneath S b n)
      (fun _ _ => False) ends (.informed runState e) := by
  intro s hs
  have hopen : ((Memory.link b).get (Memory.note call s)).signal.status.isTerminal = false :=
    congrArg Status.isTerminal (status_of_informed hs)
  obtain ⟨k, hmay, hends⟩ := h s hs
  refine ⟨k, ?_, ?_⟩
  · simpa [hopen] using hmay
  · simpa [hopen, Task.Obeys] using hends

omit hS in
lemma plainAnswer_of_informed (pick : Memory.Failures → Option String)
    (hs : (Knowledge.informed runState e).Knows S b s) :
    Memory.plainAnswer b pick s = Memory.verdict (pick S.failures) := by
  have hfailures : s.backend.failures = S.failures := hs.1.steady.failures
  rw [Memory.plainAnswer, status_of_informed hs, hfailures]
  cases pick S.failures <;> rfl

/-- **A call that does nothing but fail if it is told to.** -/
lemma plainCall_informed {call : Memory.Call} (hcall : call.number = b)
    (pick : Memory.Failures → Option String) :
    (Memory.plainCall b call pick : Attempt World Unit).run.Obeys (beneath S b n) (fun _ _ => False)
      (fun r k => r = Memory.verdict (pick S.failures) ∧ k = .informed (runState.call call) e)
      (.informed runState e) :=
  Memory.plainCall_obeys fun _ hs =>
    ⟨_, note_informed hS hcall hs, plainAnswer_of_informed pick hs, rfl⟩

/-- **Preparing a statement.** -/
lemma prepare_informed (sql : String) (kind : StatementKind) :
    (Memory.prepare b sql kind : Attempt World StatementHandle).run.Obeys
      (beneath S b n) (fun _ _ => False)
      (fun r k => r = .ok ⟨runState.next, sql, kind⟩ ∧ k = .informed (runState.prepared sql) e)
      (.informed runState e) := by
  refine answering_informed fun s hs => ⟨.informed (runState.prepared sql) e, ?_, ?_, rfl⟩
  all_goals
    have hnext : ((Memory.link b).get (Memory.note (.prepare b sql) s)).nextStatement
      = runState.next :=
      congrArg Memory.Link.nextStatement hs.2
    rw [hnext]
  have hcall : (Memory.Call.prepare b sql).number = b := rfl
  refine modify_informed hS hcall rfl rfl (fun l hl => ?_) hs
  rw [Memory.Link.eq_of_plain hl]
  rfl

lemma draw_unsure (hdraws : S.draws = true) {call : Memory.Call} (hcall : call.number = b)
    (s : World) :
    (beneath S b n).may (.informed runState e) s .unsure
      (MemoryHost.backend.set { (Memory.note call s).backend with
        lastInsertId := (Memory.note call s).backend.lastInsertId + 1 } (Memory.note call s)) := by
  have houtlook := World.outlook_lastInsertId hS.toPrivate
    ((Memory.note call s).backend.lastInsertId + 1) (Memory.note call s)
  rw [World.outlook_note hS.toPrivate hcall] at houtlook
  refine ⟨rfl, ⟨?_, ?_, fun _ _ => ?_, ?_⟩, .inl ⟨hdraws, rfl, fun h => ?_⟩, nofun⟩
  · rw [houtlook]
  · rw [houtlook]
  · rw [houtlook]
  · rw [houtlook]
  · have hsame : s.backend.lastInsertId + 1 = s.backend.lastInsertId := h
    simp at hsame

/-- **Executing a statement** that takes no id from the counter. -/
lemma execute_informed {handle : StatementHandle} (bindings : List Scalar)
    {reply : Reply (Except Fault Outcome)}
    (hreply : runState.reply? S.responses handle = some reply) :
    (Memory.execute b handle bindings : Attempt World Outcome).run.Obeys (beneath S b n)
      (fun _ _ => False)
      (fun r k => r = reply.on b ∧ k = .informed (runState.call (.execute 0 handle.sql bindings)) e)
      (.informed runState e) := by
  have hcall : (Memory.Call.execute b handle.sql bindings).number = b := rfl
  refine answering_informed fun s hs => ?_
  let noted : World := Memory.note (.execute b handle.sql bindings) s
  have hstatements : ((Memory.link b).get noted).statements = runState.statements :=
    congrArg Memory.Link.statements hs.2
  have hresponses : noted.backend.responses = S.responses := hs.1.steady.responses
  have hnote : (beneath S b n).may (.informed runState e) s
      (.informed (runState.call (.execute 0 handle.sql bindings)) e) noted :=
        note_informed hS hcall hs
  rw [RunState.reply?] at hreply
  rw [hstatements]
  cases hprepared : runState.statements.contains handle.id with
  | false =>
    rw [hprepared] at hreply
    obtain rfl := Option.some.inj hreply
    exact ⟨_, hnote, rfl, rfl⟩
  | true =>
    rw [hprepared] at hreply
    obtain ⟨outcome, hscript, rfl⟩ := Option.map_eq_some_iff.mp hreply
    have hanswer : (MemoryHost.backend.get noted).answer handle.sql handle.kind
      = (outcome, noted.backend) :=
      Memory.answer_of_scripted (hresponses ▸ hscript)
    rw [hanswer]
    exact ⟨_, hnote, rfl, rfl⟩

/-- **Executing a statement** that takes an id from the counter. -/
lemma execute_unsure (hdraws : S.draws = true) {handle : StatementHandle} (bindings : List Scalar)
    (hreply : runState.reply? S.responses handle = none) :
    (Memory.execute b handle bindings : Attempt World Outcome).run.Obeys (beneath S b n)
      (fun _ _ => False) (fun _ k => k = .unsure) (.informed runState e) := by
  have hcall : (Memory.Call.execute b handle.sql bindings).number = b := rfl
  refine answering_informed fun s hs => ?_
  let noted : World := Memory.note (.execute b handle.sql bindings) s
  have hstatements : ((Memory.link b).get noted).statements = runState.statements :=
    congrArg Memory.Link.statements hs.2
  have hresponses : noted.backend.responses = S.responses := hs.1.steady.responses
  rw [RunState.reply?] at hreply
  rw [hstatements]
  cases hprepared : runState.statements.contains handle.id with
  | false =>
    rw [hprepared] at hreply
    cases hreply
  | true =>
    rw [hprepared] at hreply
    have hscript : Memory.scripted? S.responses handle.sql handle.kind = none :=
      Option.map_eq_none_iff.mp hreply
    have hunscripted : Memory.scripted? noted.backend.responses handle.sql handle.kind = none :=
      hresponses ▸ hscript
    refine ⟨.unsure, ?_, rfl⟩
    have hdraw : (beneath S b n).may (.informed runState e) s .unsure _ :=
      draw_unsure hS hdraws hcall s
    rw [← Memory.answer_of_unscripted hunscripted] at hdraw
    exact hdraw

/-- **Destroying a statement**, if it is alive. -/
lemma destroy_informed (handle : StatementHandle)
    (hs : (Knowledge.informed runState e).Knows S b s) :
    (beneath S b n).may (.informed runState e) s
      (.informed (runState.destroyed handle) e) (Memory.destroy b handle s) := by
  unfold Memory.destroy RunState.destroyed
  rw [statements_of_informed hs]
  cases runState.statements.contains handle.id with
  | false => exact beneath_stay hs
  | true =>
    have hcall : (Memory.Call.destroy b handle.sql).number = b := rfl
    let left : RunState ρ := { runState.call (.destroy 0 handle.sql) with
      statements := runState.statements.filter (· != handle.id) }
    let f : Memory.Link → Memory.Link := fun l =>
      { l with statements := l.statements.filter (· != handle.id) }
    have hf : ∀ l, l.plain = runState.link → (f l).plain = left.link := by
      intro l hl
      rw [Memory.Link.eq_of_plain hl]
      rfl
    exact modify_informed (f := f) hS hcall rfl rfl hf hs

/-! ## Giving the connection back -/

omit hS in
lemma beneath_trans {k k' : Knowledge ρ ψ} {s'' : World}
    (h : (beneath S b n).may k s (.informed runState e) s')
    (h' : (beneath S b n).may (.informed runState e) s' k' s'') : (beneath S b n).may k s k' s'' :=
  ⟨h'.1.trans h.1, knowledge_trans h.2 h'.2⟩

lemma count_informed {f : Memory.Accounts → Memory.Accounts} (hf : ∀ a, (f a).permits = a.permits)
    (hs : (Knowledge.informed runState e).Knows S b s) :
    (beneath S b n).may (.informed runState e) s (.informed runState e)
      (MemoryHost.accounts.modify f s) := by
  refine informed_may hs ?_ rfl (congrArg Semaphore.shut (hf s.accounts))
    (hS.unheard.accounts _ s) rfl
    hs.1.calls hs.2
  rw [Function.update_eq_self, Function.update_eq_self]
  exact World.outlook_accounts hS.toPrivate _ s

/-- **Letting go of the connection.** -/
lemma drop_informed (hs : (Knowledge.informed runState e).Knows S b s) :
    (∀ n, World.Quiet S.futures n s (Memory.drop b s))
      ∧ (Knowledge.informed runState e).Knowing S b s (.left runState e) (Memory.drop b s) := by
  have halive : ((Memory.link b).get s).alive = true := congrArg Memory.Link.alive hs.2
  have hstill := Memory.still_drop halive
  have htouches : World.Touches S.futures (some b) none s (Memory.drop b s) :=
    .drop hS.toPrivate b s
  obtain ⟨l, houtlook⟩ := World.outlook_drop hS.toPrivate b s
  have hknown : runState.Known S b e (Memory.drop b s) := by
    obtain ⟨hresponses, hfailures, hunclosed, hrelied⟩ := hs.1.steady
    refine ⟨?_, htouches.shut.trans hs.1.unshut, ?_⟩ <;> rw [houtlook]
    · exact ⟨hresponses, hfailures, hunclosed, hrelied⟩
    · exact hs.1.calls
  refine ⟨fun n => ⟨?_, ?_, fun _ _ => ?_, ?_⟩, .inr ⟨hknown, ?_, [], ?_, (List.append_nil _).symm⟩⟩
  · rw [houtlook]
  · rw [houtlook]
  · rw [houtlook]
  · rw [houtlook]
  · exact hstill.same (fun s => s.backend.lastInsertId) (fun _ _ => rfl) (fun _ _ _ => rfl)
      fun _ _ => rfl
  · rw [List.append_nil]
    refine (hstill.same S.heard (fun v s => ?_) (fun c s _ => ?_) hS.unheard.traces).trans ?_
    · exact hS.unheard.accounts _ s
    · exact hS.unheard.schedule c s
    · exact hS.unheard.backend _ s

lemma giveBack_informed (hclosed : ((LeaseHost.leases n).get s).closed = true)
    (hs : (Knowledge.informed runState e).Knows S b s) :
    (beneath S b n).may (.informed runState e) s (.left runState e)
      (Memory.giveBack (Memory.connection b) s) := by
  have hcounts : ∀ a : Memory.Accounts, { a with released := a.released + 1 }.permits = a.permits :=
    fun _ => rfl
  have hcounted := count_informed (n := n) hS hcounts hs
  obtain ⟨hquiet, hknowing⟩ := drop_informed hS (knows_of_may hcounted.2)
  obtain ⟨l, houtlook⟩ := World.outlook_drop hS.toPrivate b
    (MemoryHost.accounts.modify (fun a => { a with released := a.released + 1 }) s)
  have hlease := congrArg (fun o : Outlook ψ => o.leases n) houtlook
  refine beneath_trans hcounted ⟨congrArg LeaseState.plain hlease, hquiet n, hknowing, fun _ => ?_⟩
  exact .inr ((congrArg LeaseState.closed hlease).trans hclosed)

lemma destroyAll_informed (handles : List StatementHandle)
    (hs : (Knowledge.informed runState e).Knows S b s) :
    (beneath S b n).may (.informed runState e) s (.informed (runState.cleared handles) e)
      ((Memory.pool.lease b n).destroyAll handles s) := by
  induction handles generalizing runState s with
  | nil => exact beneath_stay hs
  | cons handle rest ih =>
    have hfirst := destroy_informed (n := n) hS handle hs
    exact beneath_trans hfirst (ih (knows_of_may hfirst.2))

/-- **Destroying what is left, and giving the connection back.** -/
lemma release_informed (handles : List StatementHandle)
    (hs : ((Memory.pool.lease b n).alone (knowledge S b n)).knows
      (.emptied false true, .informed runState e) s) :
    ((Memory.pool.lease b n).alone (knowledge S b n)).may
      (.emptied false true, .informed runState e) s
        (.emptied false false, .left (runState.cleared handles) e)
      ((Memory.pool.lease b n).release ((Memory.pool.lease b n).destroyAll handles s)) := by
  let lease : Lease World := Memory.pool.lease b n
  have hcleared := destroyAll_informed (n := n) hS handles hs.2
  let cleared : World := lease.destroyAll handles s
  have hknows : (Knowledge.informed (runState.cleared handles) e).Knows S b cleared :=
    knows_of_may hcleared.2
  have hlease : (lease.cell.get cleared).plain = .emptied false true := hcleared.1.trans hs.1
  have hlistening : (lease.cell.get cleared).listening = true :=
    congrArg LeaseState.listening hlease
  let deaf : World := lease.cell.modify (fun state => { state with listening := false }) cleared
  have hstill : Host.Still lease.cell cleared deaf := .modify _ cleared
  have hdeaf : (lease.cell.get deaf).plain = .emptied false false := by
    rw [lease.cell.get_modify, LeaseState.eq_of_plain hlease]
    rfl
  have hback := giveBack_informed hS (congrArg LeaseState.closed hdeaf)
    (hknows.still hS.toPrivate hstill)
  have hrelease : lease.release cleared = Memory.giveBack (Memory.connection b) deaf :=
    if_pos hlistening
  refine ⟨?_, fun _ => rfl, knowledge_trans hcleared.2 ?_⟩
  · show (lease.cell.get (lease.release cleared)).plain = _
    rw [hrelease]
    exact hback.1.trans hdeaf
  · show (knowledge S b n).may _ cleared _ (lease.release cleared)
    rw [hrelease]
    exact (knowledge_tolerates hS).before hknows hstill hback.2

end

end Transactional
