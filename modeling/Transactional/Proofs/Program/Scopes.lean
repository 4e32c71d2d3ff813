import Transactional.Proofs.Program.Laws

/-!
# Scopes

A skip leaves the innermost scope around it, over whatever is pending inside, and what comes after
the scope goes on with the value that was skipped with.  To say which skip that is, and how often a
continuation is called, the recursive reading of a program is told once more, now with every skip
that is executed and every continuation that is called, each with the number of scopes and of binds
around it.

* `Task.Gives` — what is true of every result that a task can give.
* `Happening`, `Program.chronicle` — the reading, with all that happens inside.
* `Program.chronicle_told` — a program ends with a skip exactly if one was executed outside every
  scope in it, and then with its value.
* `Program.Surrounding`, `Program.Interchangeable` — programs with a hole, and two programs that can
  stand for each other in all of them.
* **`scope_laws`** — a scope goes on exactly if its inside does not fail, once and with the value or
  with that of the first skip outside every inner scope; and what follows from this for programs
  with scopes and skips.
-/

namespace Transactional

/-! ## Every result of a task -/

namespace Task

/-- **What every result of a task is like**, whatever the states that it meets. -/
def Gives (P : α → Prop) : Task σ α → Prop
  | .done a => P a
  | .act _ next => ∀ s, (next s).Gives P
  | .wait _ next => next.Gives P

variable {P Q : α → Prop} {task : Task σ α}

lemma Gives.trivial (task : Task σ α) : task.Gives fun _ => True := by
  induction task with
  | done a => exact True.intro
  | act update next ih => exact fun s => ih s
  | wait on next ih => exact ih

lemma Gives.mono (h : task.Gives P) (hPQ : ∀ a, P a → Q a) : task.Gives Q := by
  induction task with
  | done a => exact hPQ a h
  | act update next ih => exact fun s => ih s (h s)
  | wait on next ih => exact ih h

lemma Gives.bind {R : β → Prop} {F : α → Task σ β} (h : task.Gives P)
    (hF : ∀ a, P a → (F a).Gives R) : (task.bind F).Gives R := by
  induction task with
  | done a => exact hF a h
  | act update next ih => exact fun s => ih s (h s)
  | wait on next ih => exact ih h

/-- **A task comes to a result of that kind**, and what follows it begins at once, in the same
state. -/
theorem Gives.ends (meanwhile : Nat → σ → σ) (h : task.Gives P) :
    ∀ (waits : Nat) (s : σ), ∃ (steps waits' : Nat) (a : α) (s' : σ), P a
      ∧ (onward meanwhile)^[steps] (waits, task, s) = (waits', .done a, s')
      ∧ ∀ {β : Type} (F : α → Task σ β),
          (onward meanwhile)^[steps] (waits, task.bind F, s) = (waits', F a, s') := by
  induction task with
  | done a => exact fun waits s => ⟨0, waits, a, s, h, rfl, fun F => rfl⟩
  | act update next ih =>
    intro waits s
    obtain ⟨steps, waits', a, s', ha, hsteps, hbind⟩ := ih s (h s) waits (update s)
    exact ⟨steps + 1, waits', a, s', ha, hsteps, hbind⟩
  | wait on next ih =>
    intro waits s
    obtain ⟨steps, waits', a, s', ha, hsteps, hbind⟩ := ih h (waits + 1) (meanwhile waits s)
    exact ⟨steps + 1, waits', a, s', ha, hsteps, hbind⟩

end Task

/-! ## All that happens inside a program -/

/-- **One thing that happens inside a program.** -/
inductive Happening (σ : Type) where
  | does (deed : Deed σ)
  | skips (scopes : Nat) (value : Value)
  /-- The continuation of a bind is called, with so many binds around it. -/
  | resumes (binds : Nat) (value : Value)

namespace Happening

def deed? : Happening σ → Option (Deed σ)
  | .does deed => some deed
  | _ => none

/-- The value of a skip with so many scopes around it. -/
def skip? (scopes : Nat) : Happening σ → Option Value
  | .skips n v => if n = scopes then some v else none
  | _ => none

/-- The value with which the continuation of a bind with so many binds around it is called. -/
def call? (binds : Nat) : Happening σ → Option Value
  | .resumes n v => if n = binds then some v else none
  | _ => none

end Happening

def Exit.skips : Exit → List Value
  | .skipped v => [v]
  | _ => []

def Happening.announced (happenings : List (Happening σ)) : List Event :=
  (happenings.filterMap deed?).flatMap Deed.emitted

namespace Program

/-- **The chronicle of a program**: how it exits, and all that happens inside it until then.
`scopes` and `binds` are the numbers of those around it. -/
def chronicle (conn : Connection σ) :
    Program σ → (scopes binds : Nat) → Task σ (Exit × List (Happening σ))
  | .finish v, _, _ => .done (.value v, [])
  | .fail fault, _, _ => .done (.failed fault, [])
  | .skip v, scopes, _ => .done (.skipped v, [.skips scopes v])
  | .perform operation, _, _ =>
      (conn.perform operation).run.bind fun outcome =>
        .done (.ofExcept outcome, [.does (.performed operation outcome)])
  | .await task, _, _ =>
      task.bind fun outcome => .done (.ofExcept outcome, [.does (.awaited task outcome)])
  | .scope inner, scopes, binds =>
      (inner.chronicle conn (scopes + 1) binds).bind fun (exit, happenings) => .done
        (exit.closeScope, happenings)
  | .andThen first next, scopes, binds =>
      (first.chronicle conn scopes (binds + 1)).bind fun (exit, happenings) =>
        match exit with
        | .value v =>
            ((next v).chronicle conn scopes (binds + 1)).bind fun (exit, more) =>
              .done (exit, happenings ++ .resumes binds v :: more)
        | other => .done (other, happenings)

/-- **Without the skips and the calls it is the account.** -/
theorem account_eq_chronicle (conn : Connection σ) (p : Program σ) :
    ∀ scopes binds : Nat, p.account conn =
      (p.chronicle conn scopes binds).bind fun told => .done
        (told.1, told.2.filterMap Happening.deed?) := by
  induction p with
  | finish | fail | skip => intro scopes binds; rfl
  | perform operation => intro scopes binds; simp only [account, chronicle, Task.bind_assoc]; rfl
  | await task => intro scopes binds; simp only [account, chronicle, Task.bind_assoc]; rfl
  | scope inner ih =>
    intro scopes binds
    simp only [account, chronicle, ih (scopes + 1) binds, Task.bind_assoc, Task.done_bind]
  | andThen first next ihf ihn =>
    intro scopes binds
    simp only [account, chronicle, ihf scopes (binds + 1), Task.bind_assoc, Task.done_bind]
    refine congrArg _ (funext fun told => ?_)
    obtain ⟨exit, happenings⟩ := told
    cases exit with
    | value v =>
      simp only [ihn v scopes (binds + 1), Task.bind_assoc, Task.done_bind, List.filterMap_append,
        List.filterMap_cons, Happening.deed?]
    | skipped v => rfl
    | failed fault => rfl

lemma meaning_eq_chronicle (conn : Connection σ) (p : Program σ) (scopes binds : Nat)
    (events : List Event) : p.meaning conn events =
      (p.chronicle conn scopes binds).bind fun told => .done
        (told.1, events ++ Happening.announced told.2) := by
  rw [meaning_eq_account, account_eq_chronicle conn p scopes binds, Task.bind_assoc]
  rfl

/-- **What a chronicle tells of skips and calls.** -/
structure Told (scopes binds : Nat) (told : Exit × List (Happening σ)) : Prop where
  /-- Outside every scope in it, the skip that it ends with is executed and no other. -/
  skips : told.2.filterMap (Happening.skip? scopes) = told.1.skips
  inside : ∀ n < scopes, told.2.filterMap (Happening.skip? n) = []
  calls : ∀ n < binds, told.2.filterMap (Happening.call? n) = []

namespace Told

variable {scopes binds : Nat} {exit : Exit} {happenings : List (Happening σ)}

lemma of_deeds (hskips : exit.skips = [])
    (hhappenings : ∀ happening ∈ happenings, ∃ deed, happening = .does deed) :
    Told scopes binds (exit, happenings) := by
  have hnone (f : Happening σ → Option Value) (hf : ∀ deed, f (.does deed) = none) :
    happenings.filterMap f = [] := by
    refine List.filterMap_eq_nil_iff.mpr fun happening hmem => ?_
    obtain ⟨deed, rfl⟩ := hhappenings happening hmem
    exact hf deed
  exact ⟨(hnone _ fun _ => rfl).trans hskips.symm, fun n _ => hnone _ fun _ => rfl,
    fun n _ => hnone _ fun _ => rfl⟩

lemma closeScope (h : Told (scopes + 1) binds (exit, happenings)) :
    Told scopes binds (exit.closeScope, happenings) where
  skips := by
    rw [h.inside scopes (Nat.lt_succ_self scopes)]
    cases exit <;> rfl
  inside n hn := h.inside n (Nat.lt_succ_of_lt hn)
  calls := h.calls

lemma passing (h : Told scopes (binds + 1) (exit, happenings)) :
    Told scopes binds (exit, happenings) where
  skips := h.skips
  inside := h.inside
  calls n hn := h.calls n (Nat.lt_succ_of_lt hn)

lemma resuming {v : Value} {exit' : Exit} {more : List (Happening σ)}
    (h : Told scopes (binds + 1) (.value v, happenings))
    (h' : Told scopes (binds + 1) (exit', more)) :
    Told scopes binds (exit', happenings ++ .resumes binds v :: more) where
  skips := by
    rw [List.filterMap_append, List.filterMap_cons_none rfl, h.skips, h'.skips]
    rfl
  inside n hn := by
    rw [List.filterMap_append, List.filterMap_cons_none rfl, h.inside n hn, h'.inside n hn]
    rfl
  calls n hn := by
    have hother : Happening.call? n (.resumes binds v : Happening σ) = none :=
      if_neg (Nat.ne_of_gt hn)
    rw [List.filterMap_append, List.filterMap_cons_none hother, h.calls n (Nat.lt_succ_of_lt hn),
      h'.calls n (Nat.lt_succ_of_lt hn)]
    rfl

end Told

/-- **A program ends with a skip exactly if one is executed outside every scope in it**: that is the
first and the last one there, and the value is its value. -/
theorem chronicle_told (conn : Connection σ) (p : Program σ) :
    ∀ scopes binds : Nat, (p.chronicle conn scopes binds).Gives (Told scopes binds) := by
  have honly {deed : Deed σ} : ∀ happening ∈ [Happening.does deed], ∃ deed, happening
    = .does deed :=
    fun happening hmem => ⟨deed, List.mem_singleton.mp hmem⟩
  have hplain (outcome : Except Fault Value) : (Exit.ofExcept outcome).skips = [] := by
    cases outcome <;> rfl
  induction p with
  | finish v => exact fun scopes binds => .of_deeds rfl (by simp)
  | fail fault => exact fun scopes binds => .of_deeds rfl (by simp)
  | skip v =>
    intro scopes binds
    exact ⟨by simp [Happening.skip?, Exit.skips], fun n hn => by
      simp [Happening.skip?, Nat.ne_of_gt hn], fun n hn => rfl⟩
  | perform operation =>
    exact fun scopes binds => (Task.Gives.trivial _).bind fun outcome _ => Told.of_deeds
      (hplain outcome) honly
  | await task =>
    exact fun scopes binds => (Task.Gives.trivial _).bind fun outcome _ => Told.of_deeds
      (hplain outcome) honly
  | scope inner ih =>
    exact fun scopes binds => (ih (scopes + 1) binds).bind fun told h => Told.closeScope h
  | andThen first next ihf ihn =>
    intro scopes binds
    rw [chronicle]
    refine (ihf scopes (binds + 1)).bind fun told h => ?_
    obtain ⟨exit, happenings⟩ := told
    cases exit with
    | value v => exact (ihn v scopes (binds + 1)).bind fun told' h' => Told.resuming h h'
    | skipped v => exact h.passing
    | failed fault => exact h.passing

/-! ## Going on after a scope -/

/-- **After a scope**, its continuation goes on with the value or with what was skipped with; a
failure passes it by. -/
def afterScope (goOn : Value → Task σ β) (fails : Fault → Task σ β) : Exit → Task σ β
  | .value v => goOn v
  | .skipped v => goOn v
  | .failed fault => fails fault

/-- **A scope and its continuation under a stack**: the inside is gone through, and the continuation
goes on under the very same stack. -/
theorem run_scope_andThen (conn : Connection σ) (p : Program σ) (k : Value → Program σ)
    (frames : List (Frame σ)) (events : List Event) :
    Walk.run conn (.andThen (.scope p) k) frames events =
      (p.chronicle conn 1 1).bind fun told =>
        afterScope (fun v => Walk.run conn (k v) frames (events ++ Happening.announced told.2))
          (fun fault => .done (.error fault, events ++ Happening.announced told.2)) told.1 := by
  rw [Walk.run, Walk.run, Walk.run_eq_deliver, meaning_eq_chronicle conn p 1 1, Task.bind_assoc]
  refine congrArg _ (funext fun told => ?_)
  obtain ⟨exit, happenings⟩ := told
  rw [Task.done_bind, Walk.deliver_scopeEnd, Walk.deliver_pending]
  cases exit <;> rfl

/-- The same, in the chronicle. -/
theorem chronicle_scope_andThen (conn : Connection σ) (p : Program σ) (k : Value → Program σ)
    (scopes binds : Nat) :
    (Program.andThen (.scope p) k).chronicle conn scopes binds =
      (p.chronicle conn (scopes + 1) (binds + 1)).bind fun told =>
        afterScope
          (fun v => ((k v).chronicle conn scopes (binds + 1)).bind fun after =>
            .done (after.1, told.2 ++ .resumes binds v :: after.2))
          (fun fault => .done (.failed fault, told.2)) told.1 := by
  rw [chronicle, chronicle, Task.bind_assoc]
  refine congrArg _ (funext fun told => ?_)
  obtain ⟨exit, happenings⟩ := told
  cases exit <;> rfl

/-! ## Surroundings -/

/-- **A program with a hole**, as a function of what stands there.  The hole may be anywhere, also
behind continuations. -/
inductive Surrounding : (Program σ → Program σ) → Prop where
  | hole : Surrounding fun p => p
  | fixed (q : Program σ) : Surrounding fun _ => q
  | scope {C : Program σ → Program σ} (h : Surrounding C) : Surrounding fun p => .scope (C p)
  /-- A bind, with the hole before it, behind it, or on both sides. -/
  | andThen {C : Program σ → Program σ} {D : Value → Program σ → Program σ} (h : Surrounding C)
      (h' : ∀ v, Surrounding (D v)) : Surrounding fun p => .andThen (C p) fun v => D v p

/-- **Two programs that can stand for each other** in every surrounding program. -/
def Interchangeable (p q : Program σ) : Prop :=
  ∀ C : Program σ → Program σ, Surrounding C → Alike (C p) (C q)

variable {p q : Program σ}

theorem Alike.interchangeable (h : Alike p q) : Interchangeable p q := by
  intro C hC
  induction hC with
  | hole => exact h
  | fixed q => exact .refl q
  | scope _ ih => exact ih.scope
  | andThen _ _ ih ih' => exact ih.andThen ih'

namespace Alike

/-- **A scope around a scope** catches nothing more. -/
lemma scope_scope (p : Program σ) : Alike (.scope (.scope p)) (.scope p) := by
  refine of_account fun conn => ?_
  simp only [Program.account, Task.bind_assoc, Task.done_bind]
  refine congrArg _ (funext fun told => ?_)
  obtain ⟨exit, deeds⟩ := told
  cases exit <;> rfl

lemma scope_skip (v : Value) : Alike (.scope (.skip v) : Program σ) (.finish v) :=
  of_account fun _ => rfl

lemma skip_andThen (v : Value) (k : Value → Program σ) : Alike (.andThen (.skip v) k) (.skip v) :=
  of_account fun _ => by simp only [Program.account, Task.done_bind]

lemma fail_andThen (fault : Fault) (k : Value → Program σ) :
    Alike (.andThen (.fail fault) k) (.fail fault) :=
  of_account fun _ => by simp only [Program.account, Task.done_bind]

lemma scope_fail (fault : Fault) : Alike (.scope (.fail fault) : Program σ) (.fail fault) :=
  of_account fun _ => rfl

/-- **Leaving the scope if nothing was read**, and only then. -/
lemma maybeSkip (p : Program σ) :
    Alike p.maybeSkip (.andThen p fun
      | .record none => .skip (.record none)
      | v => .finish v) := by
  refine (refl p).andThen fun v => ?_
  cases v with
  | record found => cases found <;> exact refl _
  | _ => exact refl _

end Alike

end Program

open Program in
/-- **Scopes and skips.**  Take any program `p`, any continuation `k`, anything pending around and
any events announced before, and let the scope of `p` run from any state, whatever others do
meanwhile.  Then `p` comes to its end.  If it does not fail, the walk is then at `k` with all that
is pending outside the scope and with the events of `p` behind those from before: with the value of
`p`, or with the value of the first skip that is executed in `p` outside every inner scope, if there
is one; this is the only call of this `k` there is.  If `p` fails, the walk has ended with that
failure, and `k` is not called.

So, wherever they stand in a program, the following can stand for each other: a scope in a scope and
the scope; the scope of a skip and its value; what comes after a skip and the skip; what comes after
a failure and the failure; the scope of a failure and the failure; `p.maybeSkip`, and `p` followed
by a skip exactly if a read has found nothing. -/
theorem scope_laws (p : Program σ) (k : Value → Program σ) :
    (∀ (conn : Connection σ) (frames : List (Frame σ)) (events : List Event)
        (meanwhile : Nat → σ → σ) (s : σ),
      ∃ (steps waits : Nat) (exit : Exit) (happenings : List (Happening σ)) (s' : σ),
        (Task.onward meanwhile)^[steps] (0, p.chronicle conn 1 1, s)
          = (waits, .done (exit, happenings), s')
        ∧ (happenings.filterMap (Happening.skip? 1) = exit.skips ∧ happenings.filterMap
          (Happening.call? 0) = [])
        ∧ (Task.onward meanwhile)^[steps]
            (0, Walk.run conn (Frame.around frames (.andThen (.scope p) k)) [] events, s)
          =
            (waits, afterScope (fun v => Walk.run conn (k v) frames
              (events ++ Happening.announced happenings))
              (fun fault => .done (.error fault, events ++ Happening.announced happenings)) exit,
                s')
        ∧ (Task.onward meanwhile)^[steps] (0, (Program.andThen (.scope p) k).chronicle conn 0 0, s)
          = (waits, afterScope
              (fun v => ((k v).chronicle conn 0 1).bind fun after =>
                .done (after.1, happenings ++ .resumes 0 v :: after.2))
              (fun fault => .done (.failed fault, happenings)) exit, s')
        ∧ ∀ v, ((k v).chronicle conn 0 1).Gives fun after => after.2.filterMap
          (Happening.call? 0) = [])
    ∧ Interchangeable (.scope (.scope p)) (.scope p)
    ∧ (∀ v, Interchangeable (.scope (.skip v) : Program σ) (.finish v))
    ∧ (∀ v, Interchangeable (.andThen (.skip v) k) (.skip v))
    ∧ (∀ fault, Interchangeable (.andThen (.fail fault) k) (.fail fault))
    ∧ (∀ fault, Interchangeable (.scope (.fail fault) : Program σ) (.fail fault))
    ∧ Interchangeable p.maybeSkip (.andThen p fun
        | .record none => .skip (.record none)
        | v => .finish v) := by
  refine ⟨fun conn frames events meanwhile s => ?_, (Alike.scope_scope p).interchangeable,
    fun v => (Alike.scope_skip v).interchangeable,
      fun v => (Alike.skip_andThen v k).interchangeable,
    fun fault => (Alike.fail_andThen fault k).interchangeable,
    fun fault => (Alike.scope_fail fault).interchangeable, (Alike.maybeSkip p).interchangeable⟩
  obtain ⟨steps, waits, ⟨exit, happenings⟩, s', htold, hsteps, hbind⟩ :=
    (chronicle_told conn p 1 1).ends meanwhile 0 s
  refine ⟨steps, waits, exit, happenings, s', hsteps,
    ⟨htold.skips, htold.calls 0 Nat.zero_lt_one⟩, ?_, ?_,
    fun v => ?_⟩
  · rw [Walk.run_around, run_scope_andThen]
    exact hbind _
  · rw [chronicle_scope_andThen]
    exact hbind _
  · exact (chronicle_told conn (k v) 0 1).mono fun after h => h.calls 0 Nat.zero_lt_one

end Transactional
