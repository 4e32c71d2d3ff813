import Transactional.Proofs.Run.Closing
import Transactional.Proofs.Run.Staying

/-!
# The body of a run

The body leaves nothing in the journal but what its program asks for, and it leaves the transaction
as it was.  Those are bounds that each operation through the lease stays inside of, and so does the
body, also when it is cut off.

* `Run.InBody`, `Run.Bodily` — being in the body, and staying there.
* `Run.Serves` — a connection that is as good as the lease for a run.
* `Run.Serves.bodyAccount_obeys` — the body stays in the body, also if it is cut off.
-/

namespace Transactional

/-- The stage of a run that has its lease, and that is going to close it. -/
def Stage.running (sight : Sight) : Stage :=
  { errand := .pledged, sight := sight, prompt := true }

namespace Run

variable {ρ : Type} {asked : Memory.Call → Prop} {base number : Nat} {heard : World → List ρ}
  {s s' : World} {b : Book ρ} {x y : Stage × Part ρ}

/-! ## Being in the body -/

/-- **Being in the body of a run**, since the books were `b`: nobody has begun to close the lease
for the run, the transaction is as it was, and all entries are for what the program asks. -/
def InBody (asked : Memory.Call → Prop) (b : Book ρ) (x : Stage × Part ρ) : Prop :=
  ∃ sight entries, sight ≠ Sight.open ∧ (∀ entry ∈ entries, asked entry.1)
    ∧ x = (.running sight, .runner { b with calls := b.calls ++ entries })

/-- Giving up while waiting, and staying in the body. -/
abbrev Cut (asked : Memory.Call → Prop) (base number : Nat) (heard : World → List ρ) (b : Book ρ) :
    Stage × Part ρ → (World → World) → Prop :=
  Company.Leaves (leaseDiscipline asked base number heard) (InBody asked b)

/-- **Staying in the body**, with a result of which `Q` is true. -/
abbrev Bodily (asked : Memory.Call → Prop) (base number : Nat) (heard : World → List ρ) (b : Book ρ)
    (Q : α → Prop) (task : Task World α) : Prop :=
  task.Stays (leaseDiscipline asked base number heard) (InBody asked b) Q

/-- **A future that leaves the run alone** stays in the body. -/
lemma bodily_of_respects {task : Task World α}
    (h : task.Respects (World.Has base number) (World.Outside base number heard)) :
    Bodily asked base number heard b (fun _ => True) task := by
  refine Task.Stays.of_respects h (fun x s _ hs => (holds_of_knows hs).has)
    (fun x s s' _ hs hout => may_outside hs hout) ?_
  rintro x ready ⟨sight, entries, hsight, hentries, rfl⟩ -
  exact ⟨hsight, .inr trivial⟩

lemma timeless (hheard : World.Unheard heard) :
    (leaseDiscipline asked base number heard).Timeless where
  stay hs := may_outside hs (.refl _)
  after hf hmay := may_then_outside hmay (World.outside_schedule hheard hf _)
  either _ h := ⟨h.1, .inr trivial⟩

/-! ## Operations in the body -/

lemma cut_away (sight : Sight) {entries : List (Memory.Call × Bool)}
    (hentries : ∀ entry ∈ entries, asked entry.1) :
    Cut asked base number heard b
      ({ Stage.running sight with sight := .unsure },
        .runner { b with calls := b.calls ++ entries }) id :=
  fun s hs => ⟨_, may_outside hs (.refl s), .unsure, entries, by simp, hentries, rfl⟩

lemma cut_line (hheard : World.Unheard heard) (sight : Sight)
    {entries : List (Memory.Call × Bool)} (hentries : ∀ entry ∈ entries, asked entry.1) (t : Nat) :
    Cut asked base number heard b
      ({ Stage.running sight with place := .inLine t, sight := .unsure },
        .runner { b with calls := b.calls ++ entries })
      (Semaphore.updating (Memory.pool.lease base number : Lease World).lock
        (Semaphore.withdraw t)) := by
  intro s hs
  have hignores : (Memory.pool.lease base number).Ignores (ledger asked base number heard).blind
      (.runner { b with calls := b.calls ++ entries }) := ignores hheard _
  have U := Lease.usable (.watch base number) (Memory.apart base number) hignores
    (.running .unsure) (by simp [Stage.running])
  exact ⟨_, U.withdraw hs, .unsure, entries, by simp, hentries, rfl⟩

/-- **An operation through the lease stays in the body**, if it enters what the program asks for. -/
lemma bodily_of_comes (hheard : World.Unheard heard) {task : Task World (Except Fault α)}
    {Q : Except Fault α → Prop} (added : List (Memory.Call × Bool))
    (hadded : ∀ entry ∈ added, asked entry.1) (hrefused : Q (.error .closedConnection))
    (h : ∀ (p : Stage) (b' : Book ρ), p.place = .away →
      Cut asked base number heard b ({ p with sight := .unsure }, .runner b') id →
      (∀ t, Cut asked base number heard b
        ({ p with place := .inLine t, sight := .unsure }, .runner b')
        (Semaphore.updating (Memory.pool.lease base number : Lease World).lock
          (Semaphore.withdraw t))) →
      task.Obeys (leaseDiscipline asked base number heard) (Cut asked base number heard b)
        (Comes p false false b' fun r b'' => b'' = { b' with calls := b'.calls ++ added } ∧ Q r)
        (p, .runner b')) :
    Bodily asked base number heard b Q task := by
  rintro x ⟨sight, entries, hsight, hentries, rfl⟩
  refine (h _ _ rfl (cut_away sight hentries) (cut_line hheard sight hentries)).imp ?_
  rintro r y (⟨rfl, rfl⟩ | ⟨-, b'', rfl, rfl, hQ⟩)
  · exact ⟨⟨.closed, entries, by simp, hentries, rfl⟩, hrefused⟩
  · refine ⟨⟨.unsure, entries ++ added, by simp, fun entry hentry => ?_, ?_⟩, hQ⟩
    · exact (List.mem_append.mp hentry).elim (hentries entry) (hadded entry)
    · rw [ite_self, ← List.append_assoc]
      rfl

/-- **A connection that is as good as the lease** for a run. -/
structure Serves (asked : Memory.Call → Prop) (base number : Nat) (heard : World → List ρ)
    (conn : Connection World) : Prop where
  begin : ∀ {p : Stage} {b : Book ρ}, p.place = .away → p.prompt = true →
    conn.begin.run.Obeys (leaseDiscipline asked base number heard) (fun _ _ => True)
      (Comes p true false b fun r b' => b' = b.after (.begin base) true r) (p, .runner b)
  commit : ∀ {p : Stage} {b : Book ρ}, p.place = .away → p.prompt = true →
    conn.commit.run.Obeys (leaseDiscipline asked base number heard) (fun _ _ => True)
      (Comes p true true b fun r b' => b' = b.after (.commit base) false r) (p, .runner b)
  rollback : ∀ {p : Stage} {b : Book ρ}, p.place = .away → p.prompt = true →
    conn.rollback.run.Obeys (leaseDiscipline asked base number heard) (fun _ _ => True)
      (Comes p true true b fun r b' => b' = b.after (.rollback base) false r) (p, .runner b)
  prepare : ∀ {b : Book ρ} (sql : String) (kind : StatementKind),
    asked (.prepare base sql) → asked (.destroy base sql) →
    Bodily asked base number heard b (fun r => ∀ handle, r = .ok handle → handle.sql = sql)
      (conn.prepare sql kind).run
  execute : ∀ {b : Book ρ} (handle : StatementHandle) (bindings : List Scalar),
    asked (.execute base handle.sql bindings) →
    Bodily asked base number heard b (fun _ => True) (conn.execute handle bindings).run
  destroy : ∀ {b : Book ρ} (handle : StatementHandle), asked (.destroy base handle.sql) →
    Bodily asked base number heard b (fun _ => True) (Task.change (conn.destroy handle))
  close : ∀ {p : Stage} {b : Book ρ}, p.place = .away → p.errand = .pledged →
    conn.close.Obeys (leaseDiscipline asked base number heard) (fun _ _ => True)
      (fun _ => Closes asked base p b) (p, .runner b)
  drop : ∀ s, ((LeaseHost.leases number).get s).closed = true → conn.drop s = s

lemma lease_serves (hheard : World.Unheard heard) :
    Serves asked base number heard (Memory.pool.lease base number : Lease World).connection where
  begin hplace hprompt :=
    plain_obeys hheard (fun _ => hprompt) (by simp) hplace trivial (fun _ => trivial) rfl
      (fun s => (Memory.plainCall_succeeds base (.begin base) Memory.Failures.begin s).symm)
      fun _ => rfl
  commit hplace hprompt :=
    plain_obeys hheard (fun _ => hprompt) id hplace trivial (fun _ => trivial) rfl
      (fun s => (Memory.plainCall_succeeds base (.commit base) Memory.Failures.commit s).symm)
      fun _ => rfl
  rollback hplace hprompt :=
    plain_obeys hheard (fun _ => hprompt) id hplace trivial (fun _ => trivial) rfl
      (fun s => (Memory.plainCall_succeeds base (.rollback base) Memory.Failures.rollback s).symm)
      fun _ => rfl
  prepare sql kind hprepare hdestroy := by
    refine bodily_of_comes hheard [(.prepare base sql, true)] (by simpa using hprepare) (by simp)
      fun p b' hplace haway hline => ?_
    exact prepare_obeys hheard (by simp) id hplace haway hline kind hdestroy
  execute handle bindings hexecute := by
    refine bodily_of_comes hheard [(.execute base handle.sql bindings, true)]
      (by simpa using hexecute) trivial fun p b' hplace haway hline => ?_
    have hfirm : false = true → p.prompt = true := by simp
    refine (execute_obeys hheard hfirm id hplace haway hline handle bindings).imp ?_
    rintro r y (hrefused | ⟨hsight, b'', rfl, rfl⟩)
    · exact .inl hrefused
    · exact .inr ⟨hsight, _, rfl, rfl, trivial⟩
  destroy handle hdestroy := by
    rintro x ⟨sight, entries, hsight, hentries, rfl⟩ s hs
    obtain ⟨calls, hcalls, hmay⟩ := destroy_may hheard handle hs
    refine ⟨_, hmay, ⟨sight, entries ++ calls.map fun call => (call, true), hsight, ?_, ?_⟩,
      trivial⟩
    · intro entry hentry
      rcases List.mem_append.mp hentry with hentry | hentry
      · exact hentries entry hentry
      · obtain ⟨call, hcall, rfl⟩ := List.mem_map.mp hentry
        rw [hcalls call hcall]
        exact hdestroy
    · rw [← List.append_assoc]
  close hplace herrand := close_obeys hheard hplace herrand
  drop s hclosed := if_pos hclosed

lemma Serves.logged {conn : Connection World} (h : Serves asked base number heard conn)
    {write : String → World → World}
    (hwrite : ∀ line s, World.Has base number s →
      World.Outside base number heard s (write line s)) :
    Serves asked base number heard (Connection.logged write conn) where
  begin hplace hprompt s hs :=
    ⟨_, may_outside hs (hwrite _ s (holds_of_knows hs).has), h.begin hplace hprompt⟩
  commit hplace hprompt s hs :=
    ⟨_, may_outside hs (hwrite _ s (holds_of_knows hs).has), h.commit hplace hprompt⟩
  rollback hplace hprompt s hs :=
    ⟨_, may_outside hs (hwrite _ s (holds_of_knows hs).has), h.rollback hplace hprompt⟩
  prepare := h.prepare
  execute handle bindings hexecute :=
    .act (fun _ s _ hs => may_outside hs (hwrite _ s (holds_of_knows hs).has))
      fun _ => h.execute handle bindings hexecute
  destroy := h.destroy
  close := h.close
  drop := h.drop

/-! ## Programs in the body -/

namespace Serves

variable {conn : Connection World} (S : Serves asked base number heard conn)

include S

lemma stays : conn.Stays (leaseDiscipline asked base number heard) (InBody asked b) asked base :=
  ⟨S.prepare, S.execute, S.destroy⟩

/-- **The body of a run stays in the body**, also if it is cut off at its limit. -/
theorem bodyAccount_obeys (hheard : World.Unheard heard) (limit : Option Duration)
    (program : Program World) (hasked : ∀ call, program.Asks base call → asked call)
    (hlifts : program.Lifts fun task =>
      task.Respects (World.Has base number) (World.Outside base number heard))
    (hx : InBody asked b x) :
    (bodyAccount conn limit program).Obeys (leaseDiscipline asked base number heard)
      (fun _ _ => True)
      (fun _ => InBody asked b) x := by
  have hfutures : program.Lifts fun task => Bodily asked base number heard b (fun _ => True) task :=
    hlifts.imp fun task h => bodily_of_respects h
  refine (S.stays.bodyAccount (timeless hheard) limit program hasked hfutures x hx).mono ?_ ?_
  · exact fun _ _ _ => trivial
  · exact fun _ _ h => h.1

end Serves

end Run

end Transactional
