import Transactional.Proofs.Alike.Lease
import Transactional.Proofs.Task.Still

/-!
# Companies that go alike

What happens to a company can be written down as a list of moves: whose turn it is, which job
begins, and what happens around the company.  Two companies of tasks that go alike, to which the
same happens, stay alike.

* `Company.Move`, `Company.play` — moves, and what becomes of a company.
* `Company.Mirrors` — two companies that are alike.
* **`Company.Mirrors.play`** — they stay alike.
-/

namespace Transactional

namespace Company

/-- **What happens next.** -/
inductive Move (σ : Type) where
  | front
  /-- One of those beside it takes a turn, by its place and its number. -/
  | beside (place : Nat) (self : TaskId)
  | start (number : TaskId) (job : Job)
  | around (change : σ → σ)

variable [Host σ] (jobs : Job → Task σ Unit)

def frontTask : TaskId := 0

/-- A task that has taken its first turn, with nobody beside it. -/
def opening (task : Task σ α) (s : σ) : Company σ α :=
  ⟨(task.poll frontTask s).2, (task.poll frontTask s).1, []⟩

/-- **What becomes of a company** in a move. -/
def take (company : Company σ α) : Move σ → Company σ α
  | .front =>
      { company with
        state := (company.front.poll frontTask company.state).2
        front := (company.front.poll frontTask company.state).1 }
  | .beside place self =>
      match company.beside[place]? with
      | some strand =>
          { company with
            state := (strand.task.poll self company.state).2
            beside := company.beside.set place
              { strand with task := (strand.task.poll self company.state).1 } }
      | none => company
  | .start number job =>
      if .start number job ∈ (Host.schedule.get company.state).ready then
        { company with
          state := takeOff (.start number job) company.state
          beside := company.beside ++ [⟨jobs job, false⟩] }
      else company
  | .around change => { company with state := change company.state }

/-- **What becomes of a company** in a sequence of moves. -/
def play (company : Company σ α) (moves : List (Move σ)) : Company σ α :=
  moves.foldl (take jobs) company

omit [Host σ] in
lemma rests_poll (self : TaskId) (task : Task σ α) (s : σ) : (task.poll self s).1.Rests := by
  induction task generalizing s with
  | done a => trivial
  | act update next ih => exact ih s (update s)
  | wait on next ih =>
    rw [Task.poll]
    split
    · exact ih s
    · trivial

lemma rests_play {c : Company σ α} (h : c.front.Rests) (moves : List (Move σ)) :
    (c.play jobs moves).front.Rests := by
  induction moves generalizing c with
  | nil => exact h
  | cons move rest ih =>
    refine ih (c := c.take jobs move) ?_
    cases move with
    | front => exact rests_poll _ _ _
    | beside place self =>
      unfold take
      dsimp only
      split <;> exact h
    | start number job =>
      unfold take
      dsimp only
      split <;> exact h
    | around => exact h

/-- What happens around the company does not depend on what is different. -/
def Move.Blind (R : σ → σ → Prop) : Move σ → Prop
  | .around change => ∀ {s s'}, R s s' → R (change s) (change s')
  | _ => True

/-- **Two tasks beside others that go alike.** -/
def Alongside (R : σ → σ → Prop) (strand strand' : Strand σ) : Prop :=
  strand.task.Mirrors R Eq strand'.task

/-- **Two companies that are alike.** -/
structure Mirrors (R : σ → σ → Prop) (S : α → β → Prop) (c : Company σ α)
    (c' : Company σ β) : Prop where
  state : R c.state c'.state
  front : c.front.Mirrors R S c'.front
  beside : List.Forall₂ (Alongside R) c.beside c'.beside

lemma agree_of_forall₂ {P : α → β → Prop} {l : List α} {l' : List β} (h : List.Forall₂ P l l')
    (place : Nat) : Task.Agree P l[place]? l'[place]? := by
  induction h generalizing place with
  | nil => trivial
  | cons h _ ih =>
    cases place with
    | zero => exact h
    | succ place => exact ih place

lemma forall₂_set {P : α → β → Prop} {l : List α} {l' : List β} (h : List.Forall₂ P l l')
    {a : α} {b : β}
    (hab : P a b) (place : Nat) : List.Forall₂ P (l.set place a) (l'.set place b) := by
  induction h generalizing place with
  | nil => exact .nil
  | cons h htail ih =>
    cases place with
    | zero => exact .cons hab htail
    | succ place => exact .cons h (ih place)

lemma forall₂_concat {P : α → β → Prop} {l : List α} {l' : List β} (h : List.Forall₂ P l l')
    {a : α} {b : β}
    (hab : P a b) : List.Forall₂ P (l ++ [a]) (l' ++ [b]) := by
  induction h with
  | nil => exact .cons hab .nil
  | cons h _ ih => exact .cons h ih

namespace Mirrors

variable {R : σ → σ → Prop} {S : α → β → Prop} {c : Company σ α} {c' : Company σ β} {s s' : σ}
  {jobs : Job → Task σ Unit}

omit [Host σ] in
lemma opening {task : Task σ α} {task' : Task σ β} (h : task.Mirrors R S task') (hs : R s s') :
    (Company.opening task s).Mirrors R S (Company.opening task' s') :=
  ⟨(h.poll _ hs).2, (h.poll _ hs).1, .nil⟩

omit [Host σ] in
lemma outcome (h : c.Mirrors R S c') (hrest : c.front.Rests) :
    Task.Agree S c.front.result? c'.front.result? :=
  h.front.result fun update next heq => by simp [heq, Task.Rests] at hrest

variable (hschedule : Host.schedule.Alike R) (hjobs : ∀ job, (jobs job).Blind R)

include hschedule hjobs

/-- **They stay alike** in a move. -/
lemma take (h : c.Mirrors R S c') {move : Move σ} (hmove : move.Blind R) :
    (c.take jobs move).Mirrors R S (c'.take jobs move) := by
  cases move with
  | front =>
    have hpoll := h.front.poll frontTask h.state
    exact ⟨hpoll.2, hpoll.1, h.beside⟩
  | beside place self =>
    have hfound := agree_of_forall₂ h.beside place
    simp only [Company.take]
    cases hleft : c.beside[place]? <;> cases hright : c'.beside[place]? <;>
      rw [hleft, hright] at hfound
    case none.none => exact h
    case none.some | some.none => exact hfound.elim
    case some.some strand strand' =>
      have hpoll := Task.Mirrors.poll self hfound h.state
      have halike : Alongside R { strand with task := (strand.task.poll self c.state).1 }
          { strand' with task := (strand'.task.poll self c'.state).1 } := hpoll.1
      exact ⟨hpoll.2, h.front, forall₂_set h.beside halike place⟩
  | start number job =>
    simp only [Company.take, hschedule.get h.state]
    split
    · exact ⟨hschedule.modify (fun c => { c with ready := c.ready.erase (.start number job) })
        h.state,
        h.front, forall₂_concat h.beside (hjobs job)⟩
    · exact h
  | around change => exact ⟨hmove h.state, h.front, h.beside⟩

/-- **They stay alike.** -/
theorem play (h : c.Mirrors R S c') {moves : List (Move σ)}
    (hmoves : ∀ move ∈ moves, move.Blind R) :
    (c.play jobs moves).Mirrors R S (c'.play jobs moves) := by
  induction moves generalizing c c' with
  | nil => exact h
  | cons move rest ih =>
    exact ih (h.take hschedule hjobs (hmoves move List.mem_cons_self)) fun m hm =>
      hmoves m (List.mem_cons_of_mem _ hm)

end Mirrors

end Company

end Transactional
