import Mathlib.Data.List.Induction
import Mathlib.Tactic.Common
import Transactional.Signal

/-!
# A signal ends once

Whoever asks a signal to end asks for a terminal status, and those who observe it come at any
moment.  The first who asks is obeyed; everybody else comes too late, and everybody reads what the
first one said.

* `Signal.Call`, `Signal.after` — what signals are asked, and what becomes of one that starts open.
* `Signal.firstEnd?` — the status that was asked for first.
* `Signal.after_eq` — that is all there is to know of a signal.
* `Signal.EndsOnce`, **`Signal.endsOnce`** — what finishers are told, and what observers read.
-/

namespace Transactional

/-- **What an observer reads**, and whether something has changed since it came. -/
def Subscription.report (subscription : Subscription) (signal : Signal) : Status × Bool :=
  (signal.status, subscription.hasChanged signal)

namespace Signal

/-- **What a signal is asked.** -/
inductive Call where
  | finish (status : Status)
  | subscribe
deriving DecidableEq

def Call.status? : Call → Option Status
  | .finish status => some status
  | .subscribe => none

/-- What becomes of a signal when it is called. -/
def serve (signal : Signal) : Call → Signal
  | .finish status => (signal.finish status).2
  | .subscribe => signal

/-- **A signal after these calls**; it starts open. -/
def after (calls : List Call) : Signal :=
  calls.foldl serve {}

/-- **The status that was asked for first.** -/
def firstEnd? (calls : List Call) : Option Status :=
  calls.findSome? Call.status?

def Proper (calls : List Call) : Prop :=
  ∀ status, .finish status ∈ calls → status.isTerminal = true

/-- A signal that was asked to end in this way first. -/
def told : Option Status → Signal
  | none => {}
  | some status => { status, version := 1 }

variable {calls earlier rest : List Call} {status : Status}

lemma Proper.left (h : Proper (earlier ++ rest)) : Proper earlier :=
  fun status hmem => h status (List.mem_append_left _ hmem)

lemma firstEnd?_append (earlier rest : List Call) :
    firstEnd? (earlier ++ rest) = (firstEnd? earlier).or (firstEnd? rest) :=
  List.findSome?_append

lemma Proper.terminal (h : Proper calls) (hfirst : firstEnd? calls = some status) :
    status.isTerminal = true := by
  obtain ⟨call, hmem, hcall⟩ := List.exists_of_findSome?_eq_some hfirst
  cases call with
  | finish _ =>
    obtain rfl := Option.some.inj hcall
    exact h _ hmem
  | subscribe => simp [Call.status?] at hcall

/-- **All there is to know of a signal** is which end was asked for first. -/
theorem after_eq (h : Proper calls) : after calls = told (firstEnd? calls) := by
  induction calls using List.reverseRecOn with
  | nil => rfl
  | append_singleton calls call ih =>
    rw [after, List.foldl_append, ← after, ih h.left, firstEnd?_append]
    cases hfirst : firstEnd? calls with
    | none => cases call <;> rfl
    | some status =>
      have hterminal := h.left.terminal hfirst
      cases call with
      | finish _ => simp [serve, finish, told, hterminal]
      | subscribe => rfl

lemma status_after (h : Proper calls) : (after calls).status = (firstEnd? calls).getD .open := by
  rw [after_eq h]
  cases firstEnd? calls <;> rfl

lemma version_after (h : Proper calls) :
    (after calls).version = if (firstEnd? calls).isSome then 1 else 0 := by
  rw [after_eq h]
  cases firstEnd? calls <;> rfl

/-- **What finishers are told and observers read** of a signal that was called like this. -/
structure EndsOnce (calls : List Call) : Prop where
  first : ∀ {earlier status rest}, calls = earlier ++ .finish status :: rest →
    (((after earlier).finish status).1 = true ↔ firstEnd? earlier = none)
  stays : ∀ {earlier rest}, calls = earlier ++ rest → (after earlier).status.isTerminal = true →
    (after calls).status = (after earlier).status
  /-- Every observer, whenever it came, reads what was asked for first; it has seen a change if it
  came before. -/
  reads : ∀ {earlier rest}, calls = earlier ++ .subscribe :: rest →
    (Subscription.of (after earlier)).report (after calls)
      = ((firstEnd? calls).getD .open, (firstEnd? earlier).isNone && (firstEnd? calls).isSome)

/-- **A signal ends once**, whoever calls it in whichever order. -/
theorem endsOnce (h : Proper calls) : EndsOnce calls where
  first {earlier status rest} heq := by
    subst heq
    rw [after_eq h.left]
    cases hfirst : firstEnd? earlier with
    | none => simp [finish, told, Status.isTerminal]
    | some status => simp [finish, told, h.left.terminal hfirst]
  stays {earlier rest} heq hterminal := by
    subst heq
    rw [status_after h.left] at hterminal ⊢
    rw [status_after h, firstEnd?_append]
    cases hfirst : firstEnd? earlier with
    | none => simp [hfirst, Status.isTerminal] at hterminal
    | some status => rfl
  reads {earlier rest} heq := by
    have hlater : firstEnd? calls = (firstEnd? earlier).or (firstEnd? rest) := by
      rw [heq, firstEnd?_append]
      rfl
    have hearlier : Proper earlier := (heq ▸ h : Proper (earlier ++ _)).left
    rw [Subscription.report, Subscription.hasChanged, Subscription.of, status_after h,
      version_after h, version_after hearlier, hlater]
    cases firstEnd? earlier <;> cases firstEnd? rest <;> rfl

/-- Whoever comes between two who end it reads what the first one said, and sees no change. -/
example : (Subscription.of (after [.finish .failed])).report
    (after [.finish .failed, .subscribe, .finish .closed]) = (.failed, false) := rfl

/-! ## Signals of which only the status and the number of changes are known -/

/-- **Two signals that nobody can tell apart** who reads them. -/
def Alike (a b : Signal) : Prop :=
  a.status = b.status ∧ a.version = b.version

/-- A signal that has changed once if it has ended, and never if it has not. -/
def Counted (signal : Signal) : Prop :=
  signal.version = if signal.status.isTerminal then 1 else 0

variable {a b : Signal}

lemma Counted.alike_fresh (ha : a.Counted) (hopen : a.status.isTerminal = false) : a.Alike {} := by
  rw [Counted, hopen] at ha
  cases hstatus : a.status with
  | «open» => exact ⟨hstatus, ha⟩
  | closed | failed => simp [hstatus, Status.isTerminal] at hopen

lemma Counted.alike_told (ha : a.Counted) (hterminal : a.status.isTerminal = true) :
    a.Alike (told (some a.status)) := by
  rw [Counted, hterminal] at ha
  exact ⟨rfl, ha⟩

lemma proper_finish (h : status.isTerminal = true) : Proper [.finish status] := by
  intro other hmem
  obtain rfl := Call.finish.inj (List.mem_singleton.mp hmem)
  exact h

/-- **Two looks at such a signal, of which the later finds an end if the earlier did**, are looks at
one signal that is called again and again. -/
theorem Counted.exists_calls (ha : a.Counted) (hb : b.Counted)
    (h : a.status.isTerminal = true → b.status = a.status) :
    ∃ calls more, Proper (calls ++ more) ∧ a.Alike (after calls) ∧ b.Alike
      (after (calls ++ more)) := by
  cases hterminal : a.status.isTerminal with
  | true =>
    have hstatus := h hterminal
    refine ⟨[.finish a.status], [], proper_finish hterminal, ?_, ?_⟩
    · rw [after_eq (proper_finish hterminal)]
      exact ha.alike_told hterminal
    · rw [← hstatus] at hterminal ⊢
      rw [List.append_nil, after_eq (proper_finish hterminal)]
      exact hb.alike_told hterminal
  | false =>
    cases hterminal' : b.status.isTerminal with
    | true =>
      refine ⟨[], [.finish b.status], proper_finish hterminal', ha.alike_fresh hterminal, ?_⟩
      rw [List.nil_append, after_eq (proper_finish hterminal')]
      exact hb.alike_told hterminal'
    | false =>
      exact ⟨[], [], by simp [Proper], ha.alike_fresh hterminal, hb.alike_fresh hterminal'⟩

/-- Whoever has come at the earlier look reads the later one, and sees a change if there was one. -/
lemma Counted.report (ha : a.Counted) (hb : b.Counted)
    (h : a.status.isTerminal = true → b.status = a.status) :
    (Subscription.of a).report b = (b.status, !a.status.isTerminal && b.status.isTerminal) := by
  rw [Subscription.report, Subscription.hasChanged, Subscription.of, ha, hb]
  cases hterminal : a.status.isTerminal with
  | true => simp [h hterminal, hterminal]
  | false => cases b.status.isTerminal <;> simp

end Signal

end Transactional
