import Transactional.Proofs.Engine.Hold
import Transactional.Proofs.Usage.Record

/-!
# Using a connection of the pool through a lease

A lease and the connection beneath keep their books apart: each has a note of whether a transaction
is open, and each knows the statements.  Whoever has the lease to himself finds the two in step
after every use, whatever has gone wrong; so whoever closes it leaves no statement on the
connection, and either no transaction or one that is noted.

* `Usage.Plain` — no statement that is executed begins or ends a transaction.
* `Engine.Page` — what the lease and the connection both know; `Engine.Page.Heeds` — what can be
  heard.
* `Engine.lodging` — the discipline of somebody who has a lease to himself.
* `Engine.use_lodges`, `Engine.usage_lodges` — using the lease.
* `Engine.close_lodges` — closing it.
-/

namespace Transactional

/-! ## Statements that leave transactions alone -/

/-- **A use that leaves transactions to those who begin and end them.** -/
def Use.Plain : Use → Prop
  | .execute handle _ => Engine.Plain handle.sql
  | _ => True

/-- What can be heard of a use: a handle is for the statement that was to be prepared. -/
def Use.Hears : (use : Use) → use.Answer → Prop
  | .prepare sql kind, .ok handle => handle.sql = sql ∧ handle.kind = kind
  | _, _ => True

/-- **A usage none of whose statements begins or ends a transaction.** -/
def Usage.Plain : Usage α → Prop
  | .done _ => True
  | .use first next => first.Plain ∧ ∀ answer, first.Hears answer → (next answer).Plain

namespace Engine

/-! ## Books -/

/-- **What a lease and the connection beneath know** of a usage. -/
structure Page where
  transaction : Bool := false
  handles : List StatementHandle := []
  next : UInt64

namespace Page

def stage (page : Page) : LeaseState × Hold :=
  (.held page.transaction page.handles,
    .kept page.transaction (page.handles.map (·.id)) page.next)

def after (page : Page) (x : Answered) : Page where
  transaction := x.transaction page.transaction
  handles := x.handles page.handles
  next := if x.prepared?.isSome then page.next + 1 else page.next

/-- **What is heard of a use**: a statement that is prepared gets the next number, and one that has
not been prepared is refused. -/
def Heeds (page : Page) : Answered → Prop
  | ⟨.prepare sql kind, .ok handle⟩ => handle = ⟨page.next, sql, kind⟩
  | ⟨.execute handle _, answer⟩ =>
      handle.id ∉ page.handles.map (·.id) → answer = .error handle.unknown
  | _ => True

/-- Everything that has been heard is what can be heard. -/
def HeedsAll (page : Page) : List Answered → Prop
  | [] => True
  | x :: rest => page.Heeds x ∧ (page.after x).HeedsAll rest

/-- **What is not there when it is to be executed** is refused. -/
lemma HeedsAll.refused {page : Page} {before after : List Answered} {handle : StatementHandle}
    {bindings : List Scalar} {answer : Except Fault Outcome}
    (h : page.HeedsAll (before ++ ⟨.execute handle bindings, answer⟩ :: after))
    (hnot : handle.id ∉ (before.foldl (fun l x => x.handles l) page.handles).map (·.id)) :
    answer = .error handle.unknown := by
  induction before generalizing page with
  | nil => exact h.1 hnot
  | cons x rest ih => exact ih h.2 hnot

end Page

/-! ## The discipline -/

/-- **The discipline of somebody who has a lease to himself.** -/
abbrev lodging (trouble : Trouble) (settings : Settings) (base number : Nat) :
    Discipline World (LeaseState × Hold) :=
  ((besetPool trouble settings).lease base number).alone (hold base number)

variable {trouble : Trouble} {settings : Settings} {base number : Nat} {page : Page} {α : Type}
  {gone : LeaseState × Hold → (World → World) → Prop}

lemma call_lodges (opens : trouble.OpensNothing) (call : Memory.Call)
    {f : Link → Except Fault α × Link} (tr : α → Bool → Bool)
    (st : α → List StatementHandle → List StatementHandle) {after : α → LeaseState → LeaseState}
    (hafter : ∀ a, after a = LeaseState.noting (tr a) (st a)) (hgone : gone page.stage id)
    (ends : Except Fault α → Hold → Prop)
    (herror : ∀ fault, ends (.error fault) page.stage.2)
    (hf : ∀ l : Link, l.Kept .lent page.transaction (page.handles.map (·.id)) page.next →
      ∃ noted ids next, (f l).2.Kept .lent noted ids next
        ∧ Onward (page.handles.map (·.id)) page.next ids next ∧ ends (f l).1
          (.kept noted ids next)) :
    (((besetPool trouble settings).lease base number).operate
      (.step fun s => onOpen base (failing (trouble call s) f) s) after).run.Obeys
      (lodging trouble settings base number) gone
      (fun r y => ends r y.2 ∧ y.1 = .heldAfter tr st page.transaction page.handles r)
        page.stage := by
  refine Lease.operate_alone (apart ..) hold_tolerates tr st hafter ?_ hgone
  exact call_holds ends (fun s _ mishap _ h => ⟨opens call s mishap h, herror mishap.fault⟩) hf

/-- **A command.** -/
lemma command_lodges (opens : trouble.OpensNothing) (call : Memory.Call) {statement : Sql}
    (tr : Bool → Bool) (hends : ∀ b, tr b = false → statement = .commit ∨ statement = .rollback)
    (hgone : gone page.stage id) :
    (((besetPool trouble settings).lease base number).operate
      (.step fun s => onOpen base (failing (trouble call s) (command statement tr)) s)
      fun _ => LeaseState.noting tr id).run.Obeys (lodging trouble settings base number) gone
      (fun r y => y = (.held (if r.toBool then tr page.transaction else page.transaction)
        page.handles,
        .kept (if r.toBool then tr page.transaction else page.transaction)
          (page.handles.map (·.id)) page.next)) page.stage := by
  let ends : Except Fault Unit → Hold → Prop := fun r k =>
    k = .kept (if r.toBool then tr page.transaction else page.transaction)
      (page.handles.map (·.id)) page.next
  refine (call_lodges opens call (fun _ => tr) (fun _ => id) (fun _ => rfl) hgone ends
    (fun _ => rfl) fun l hl =>
    ⟨_, _, _, hl.command (hends _), .refl _ _, rfl⟩).imp ?_
  rintro (fault | _) ⟨_, _⟩ ⟨rfl, rfl⟩ <;> rfl

/-- **After a use** the books are in step. -/
theorem use_lodges (opens : trouble.OpensNothing) (use : Use) (hplain : use.Plain)
    (hgone : gone page.stage id) :
    (use.on ((besetPool trouble settings).lease base number).connection).Obeys
      (lodging trouble settings base number) gone
      (fun answer y => page.Heeds ⟨use, answer⟩ ∧ use.Hears answer
        ∧ y = (page.after ⟨use, answer⟩).stage) page.stage := by
  cases use with
  | connect =>
    let ends : Except Fault Unit → Hold → Prop := fun _ k => k = page.stage.2
    refine (call_lodges opens (.connect base) (fun _ => id) (fun _ => id) (fun _ => rfl) hgone ends
      (fun _ => rfl) fun l hl => ⟨_, _, _, hl, .refl _ _, rfl⟩).imp ?_
    rintro (fault | _) ⟨_, _⟩ ⟨rfl, rfl⟩ <;> exact ⟨trivial, trivial, rfl⟩
  | begin =>
    refine (command_lodges opens (.begin base) (fun _ => true) (by simp) hgone).imp ?_
    rintro (fault | _) y rfl <;> exact ⟨trivial, trivial, rfl⟩
  | commit =>
    refine (command_lodges opens (.commit base) (fun _ => false) (by simp) hgone).imp ?_
    rintro (fault | _) y rfl <;> exact ⟨trivial, trivial, rfl⟩
  | rollback =>
    refine (command_lodges opens (.rollback base) (fun _ => false) (by simp) hgone).imp ?_
    rintro (fault | _) y rfl <;> exact ⟨trivial, trivial, rfl⟩
  | prepare sql kind =>
    let ends : Except Fault StatementHandle → Hold → Prop := fun r k =>
      r = .ok ⟨page.next, sql, kind⟩
          ∧ k = .kept page.transaction (page.handles.map (·.id) ++ [page.next]) (page.next + 1)
        ∨ (∃ fault, r = .error fault) ∧ k = page.stage.2
    refine (call_lodges opens (.prepare base sql) (fun _ => id)
      (fun handle handles => handles ++ [handle])
      (fun _ => rfl) hgone ends (fun _ => .inr ⟨⟨_, rfl⟩, rfl⟩) fun l hl => ?_).imp ?_
    · rcases hl.prepareOn sql kind with ⟨hok, hkept⟩ | ⟨⟨fault, herror⟩, hkept⟩
      · exact ⟨_, _, _, hkept, .inr ⟨rfl, rfl⟩, .inl ⟨hok, rfl⟩⟩
      · exact ⟨_, _, _, hkept, .refl _ _, .inr ⟨⟨fault, herror⟩, rfl⟩⟩
    · rintro r ⟨_, _⟩ ⟨⟨rfl, rfl⟩ | ⟨⟨fault, rfl⟩, rfl⟩, rfl⟩
      · refine ⟨rfl, ⟨rfl, rfl⟩, ?_⟩
        simp only [Page.stage, Page.after, Answered.handles, List.map_append, List.map_singleton]
        rfl
      · exact ⟨trivial, trivial, rfl⟩
  | execute handle bindings =>
    let ends : Except Fault Outcome → Hold → Prop := fun r k =>
      (handle.id ∉ page.handles.map (·.id) → r = .error handle.unknown) ∧ k = page.stage.2
    refine (Lease.operate_alone (apart ..) hold_tolerates (fun _ => id) (fun _ => id) (fun _ => rfl)
      (call_holds ends ?_ fun l hl => ?_) hgone).imp ?_
    · intro s l mishap hl hfails
      split at hfails
      next hknown =>
        refine ⟨opens _ s mishap hfails, fun hnot => absurd ?_ hnot, rfl⟩
        rw [hl.statements] at hknown
        simpa using hknown
      next => cases hfails
    · obtain ⟨hkept, hunknown⟩ := hl.executeOn hplain bindings
      exact ⟨_, _, _, hkept, .refl _ _, hunknown, rfl⟩
    · rintro (fault | _) ⟨_, _⟩ ⟨⟨hunknown, rfl⟩, rfl⟩ <;> exact ⟨hunknown, trivial, rfl⟩
  | destroy handle =>
    intro s hs
    obtain ⟨⟨_, _⟩, hmay, rfl, rfl⟩ := Lease.destroy_alone hold_tolerates
      (fun s hs => ⟨_, destroy_holds trouble settings handle hs, rfl⟩) hs
    refine ⟨_, hmay, trivial, trivial, ?_⟩
    simp only [Page.stage, Page.after, Answered.handles, Answered.transaction, List.filter_map]
    rfl

/-- **After a usage** the books are in step, and what has been heard is what can be heard. -/
theorem usage_lodges (opens : trouble.OpensNothing) (usage : Usage α) (hplain : usage.Plain)
    (hgone : ∀ page : Page, gone page.stage id) :
    (usage.on ((besetPool trouble settings).lease base number).connection).Obeys
      (lodging trouble settings base number) gone
      (fun x y => page.HeedsAll x.2 ∧ ∃ page' : Page, y = page'.stage) page.stage := by
  induction usage generalizing page with
  | done a => exact ⟨trivial, page, rfl⟩
  | use first next ih =>
    refine (use_lodges opens first hplain.1 (hgone page)).bind ?_
    rintro answer _ ⟨hheeds, hhears, rfl⟩
    refine (ih answer (hplain.2 answer hhears)).bind ?_
    rintro x _ ⟨hrest, hstage⟩
    exact ⟨⟨hheeds, hrest⟩, hstage⟩

/-! ## Closing the lease -/

/-- **Destroying what is left, and giving the connection back.** -/
lemma release_lodges {noted : Bool} {next : UInt64} (handles : List StatementHandle) {s : World}
    (hs : (lodging trouble settings base number).knows
      (.emptied false true, .kept noted (handles.map (·.id)) next) s) :
    (lodging trouble settings base number).may
      (.emptied false true, .kept noted (handles.map (·.id)) next) s
        (.emptied false false, .returned)
      (((besetPool trouble settings).lease base number).release
        (((besetPool trouble settings).lease base number).destroyAll handles s)) := by
  let lease : Lease World := (besetPool trouble settings).lease base number
  let cleared : World := lease.destroyAll handles s
  obtain ⟨hsame, hdestroyed⟩ := destroyAll_holds trouble settings handles hs.2
  have hempty : ((handles.map (·.id)).filter fun id => !handles.any (·.id == id)) = [] := by
    refine List.filter_eq_nil_iff.mpr fun id hid => ?_
    obtain ⟨handle, hhandle, rfl⟩ := List.mem_map.mp hid
    simpa using ⟨handle, hhandle, rfl⟩
  rw [hempty] at hdestroyed
  have hlease : (lease.cell.get cleared).plain = .emptied false true := hsame.trans hs.1
  let deaf : World := lease.cell.modify (fun state => { state with listening := false }) cleared
  have hstill : Host.Still lease.cell cleared deaf := .modify _ cleared
  have hdeaf : (lease.cell.get deaf).plain = .emptied false false := by
    rw [lease.cell.get_modify, LeaseState.eq_of_plain hlease]
    rfl
  have hlistening : (lease.cell.get cleared).listening = true :=
    congrArg LeaseState.listening hlease
  have hrelease : lease.release cleared = drop base deaf := if_pos hlistening
  rw [show lease.release (lease.destroyAll handles s) = drop base deaf from hrelease]
  cases hdestroyed with
  | use spares idle kept onward =>
    have hknows : (hold base number).knows (.kept noted [] next) deaf :=
      hold_tolerates.keeps kept hstill
    have hclosed : (lease.cell.get deaf).closed = true := congrArg LeaseState.closed hdeaf
    obtain ⟨hkeeps, hback⟩ := drop_holds trouble settings hclosed hknows
    refine ⟨hkeeps.trans hdeaf, fun _ => rfl, ?_⟩
    cases hback with
    | back spares' back closed =>
      have hspares : Spares base number cleared deaf := .of_still hstill
      have hidle : deaf.books.idle = s.books.idle := (hstill.same (fun s => s.books.idle)
        (fun _ _ => rfl) (fun _ _ _ => rfl) fun _ _ => rfl).trans idle
      rw [Back, hidle] at back
      exact .back (spares.trans (hspares.trans spares')) back closed

/-- **Closing a lease.** -/
theorem close_lodges (opens : trouble.OpensNothing) :
    (((besetPool trouble settings).lease base number).shutdown .closed).Obeys
      (lodging trouble settings base number) (fun _ _ => True)
        (fun _ y => y = (.emptied false false, .returned))
      page.stage := by
  let tidied : Hold → Prop := fun k => ∃ noted, k = .kept noted (page.handles.map (·.id)) page.next
  have hrollback : page.transaction = true →
      (beset trouble base).rollback.run.Obeys (handling trouble settings base number)
        (fun _ _ => False)
        (fun _ => tidied) page.stage.2 := fun _ =>
    call_holds _ (fun s _ mishap _ h => ⟨opens _ s mishap h, _, rfl⟩) fun l hl =>
      ⟨_, _, _, hl.command fun _ => .inr rfl, .refl _ _, _, rfl⟩
  have hback : ∀ k s, tidied k → (lodging trouble settings base number).knows
    (.emptied false true, k) s →
      ∃ k', (lodging trouble settings base number).may (.emptied false true, k) s
        (.emptied false false, k')
        (((besetPool trouble settings).lease base number).release
          (((besetPool trouble settings).lease base number).destroyAll page.handles s)) ∧ k'
            = .returned := by
    rintro _ s ⟨noted, rfl⟩ hs
    exact ⟨_, release_lodges page.handles hs, rfl⟩
  refine (Lease.shutdown_alone (apart ..) hold_tolerates tidied (fun _ => trivial) hrollback
    (fun _ => ⟨_, rfl⟩) hback).imp ?_
  rintro _ ⟨_, _⟩ ⟨rfl, rfl⟩
  rfl

end Engine

end Transactional
