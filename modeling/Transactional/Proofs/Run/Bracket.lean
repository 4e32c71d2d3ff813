import Transactional.Proofs.Run.Upkeep

/-!
# What a run leaves in the journal

Whatever a program does, whichever calls fail, and whenever the connection breaks: on the connection
of a run there is a connect, a begin, then what the program asks for, then one ending, and then
statements that are destroyed.  Only if the connection has broken, and the lease was closed for that
reason, there may be less.

* `Run.Transaction.committed_iff` — whether a commit has succeeded can be seen in the calls.
* **`Run.bracketed`** — the calls of a run that is over.
-/

namespace Transactional

def Memory.Call.isStatement : Memory.Call → Bool
  | .prepare _ _ | .execute _ _ _ | .destroy _ _ => true
  | _ => false

namespace Run

variable {asked : Memory.Call → Prop} {base number : Nat} {calls : List (Memory.Call × Bool)}

lemma not_mem_of_statements {entries : List (Memory.Call × Bool)}
    (h : ∀ entry ∈ entries, entry.1.isStatement = true) : (.commit base, true) ∉ entries := by
  intro hmem
  exact Bool.noConfusion (h _ hmem)

lemma not_mem_of_asked (hasked : ∀ call, asked call → call.isStatement = true)
    {entries : List (Memory.Call × Bool)} (h : ∀ entry ∈ entries, asked entry.1) :
    (.commit base, true) ∉ entries :=
  not_mem_of_statements fun entry hentry => hasked _ (h entry hentry)

lemma Ending.committed_iff {committed : Bool} (h : Ending base committed calls) :
    (.commit base, true) ∈ calls ↔ committed = true := by
  cases h with
  | committed => simp
  | undone h => cases h <;> simp
  | failed h => cases h <;> simp

/-- **Whether a transaction has been committed can be seen in its calls.** -/
lemma Transaction.committed_iff (hasked : ∀ call, asked call → call.isStatement = true)
    {committed : Bool} (h : Transaction asked base committed calls) :
    (.commit base, true) ∈ calls ↔ committed = true := by
  have hdestroys : ∀ {entries}, Destroys asked base entries → (.commit base, true) ∉ entries := by
    intro entries hentries
    refine not_mem_of_statements fun entry hentry => ?_
    obtain ⟨sql, rfl, -⟩ := hentries entry hentry
    rfl
  cases h with
  | unbegun h => simp [hdestroys h]
  | whole hbody hending hdestroyed =>
    simp [not_mem_of_asked hasked hbody, hdestroys hdestroyed, hending.committed_iff]

lemma CutShort.not_committed (hasked : ∀ call, asked call → call.isStatement = true)
    (h : CutShort asked base calls) : (.commit base, true) ∉ calls := by
  cases h with
  | unbegun => simp
  | unended hbody => simp [not_mem_of_asked hasked hbody]
  | uncommitted hbody => simp [not_mem_of_asked hasked hbody]

/-! ## The calls of a run -/

/-- **The calls of a run**: none, or a connect that failed, or a connect and a transaction. -/
inductive Calls (asked : Memory.Call → Prop) (base : Nat) (forsaken : Prop) :
    Bool → List (Memory.Call × Bool) → Prop where
  | none : Calls asked base forsaken false []
  | unconnected : Calls asked base forsaken false [(.connect base, false)]
  | transaction {committed : Bool} {calls : List (Memory.Call × Bool)}
      (h : Transaction asked base committed calls) :
      Calls asked base forsaken committed ((.connect base, true) :: calls)
  /-- The transaction was cut short, since the connection was taken away from the run. -/
  | cutShort {calls : List (Memory.Call × Bool)} (h : CutShort asked base calls)
      (hforsaken : forsaken) : Calls asked base forsaken false ((.connect base, true) :: calls)

lemma Calls.committed_iff (hasked : ∀ call, asked call → call.isStatement = true)
    {forsaken : Prop} {committed : Bool} (h : Calls asked base forsaken committed calls) :
    (.commit base, true) ∈ calls ↔ committed = true := by
  cases h with
  | none | unconnected => simp
  | transaction h => simp [h.committed_iff hasked]
  | cutShort h => simp [h.not_committed hasked]

variable {ρ : Type} {heard : World → List ρ} {mark : Event → List ρ} {before : List ρ}
  {track : Track} {p : Phase ρ} {ps : List (Phase ρ)} {s : World}
  {told : Except Fault Value × List (Deed World)}

/-- **The connection has broken, and the lease was closed** for that reason. -/
def Forsaken (base number : Nat) (s : World) : Prop :=
  s.Broken base ∧ ((LeaseHost.leases number).get s).closed = true

/-- **When a run is over**, the journal has the calls that were seen, and what has been published is
what the run publishes. -/
lemma Fits.concluded (h : Fits asked base number heard before track p ps s)
    (hp : Concluded asked base mark told p) (hown : track.Own base number) :
    s.callsOn base = track.calls.map Prod.fst
      ∧ Calls asked base (Forsaken base number s) told.1.toBool track.calls
      ∧ heard s = before ++ published mark told := by
  have hnothing : told.1.toBool = false → before = before ++ published mark told := by
    intro hfalse
    simp [published, hfalse]
  cases h with
  | seeking h htrack =>
    subst htrack
    refine ⟨h.calls, ?_, h.told.trans (hnothing hp)⟩
    rw [show told.1.toBool = false from hp]
    exact .none
  | opened => exact hp.elim
  | parted h htrack =>
    obtain ⟨hfalse, rfl⟩ := hp
    subst htrack
    refine ⟨h.calls, ?_, h.told.trans (hnothing hfalse)⟩
    rw [hfalse]
    exact .unconnected
  | leased h htrack =>
    obtain ⟨q, b, calls, hx, hsight, hcalls, htold, hend⟩ := hp
    obtain ⟨rfl, hbook⟩ := Prod.mk.inj hx
    obtain rfl := Part.runner.inj hbook
    subst htrack
    refine ⟨h.calls, ?_, ?_⟩
    · rw [hcalls]
      rcases hend with ⟨-, htransaction⟩ | ⟨herrand, hfalse, hcut⟩
      · exact .transaction htransaction
      · have hclosed := (h.sound.knows List.mem_cons_self).seenClosed hsight
        have hbroken := (h.closed hclosed).resolve_right (by simp [herrand, Errand.isEnding])
        rw [hfalse]
        exact .cutShort hcut ⟨hbroken, hclosed⟩
    · rw [h.told, htold]
      rfl
  | stray h => exact absurd hown h

end Run

def World.board : Sink World :=
  ⟨fun event => World.note (.arr [.str event.type, event.payload])⟩

/-- A program that empties a table and announces it. -/
def World.clearing : Program World :=
  .andThen (.perform (.query .delete "DELETE FROM items" [])) fun _ =>
    .perform (.emit ⟨"cleared", .null⟩)

def World.clear : Attempt World Value :=
  runWith (World.manager Memory.pool) World.board none World.clearing

lemma World.clear_done :
    (World.clear.run.poll 0 (World.withMemory 1 {})).1 = .done (.ok .unit) := by
  rw [World.clear, runWith_eq_account]
  cbv

end Transactional
