import Mathlib
import Transactional.Memory.Backend
import Transactional.Proofs.Usage.Basic

/-!
# What the record of a usage says

From what has been heard on a connection it can be read off whether a transaction is still open,
which statements are left, and which calls have been made.  A lease keeps these books as it goes;
that the books and the record agree is shown here once for all.

* `Answered.Unfinished`, `Answered.leftOver`, `Answered.made` — what the record says.
* `Mirror`, `Mirror.play` — the books after a usage.
* `Mirror.transaction_play`, `Mirror.handles_play`, `Mirror.calls_play` — the books agree with the
  record.
* `Mirror.nodup_play` — no two statements have the same number, before all numbers have been given
  out.
-/

namespace Transactional

namespace Answered

def prepared? : Answered → Option StatementHandle
  | ⟨.prepare _ _, .ok handle⟩ => some handle
  | _ => none

/-- Whether the statements of a number have been destroyed. -/
def destroys (id : UInt64) : Answered → Bool
  | ⟨.destroy handle, _⟩ => handle.id == id
  | _ => false

def prepares : Answered → Bool
  | ⟨.prepare _ _, _⟩ => true
  | _ => false

def finishes : Answered → Bool
  | ⟨.commit, .ok _⟩ | ⟨.rollback, .ok _⟩ => true
  | _ => false

/-- **A transaction has not been finished**: some begin has succeeded, and no commit or rollback
after it. -/
def Unfinished (taken : List Answered) : Prop :=
  ∃ before after, taken = before ++ ⟨.begin, .ok ()⟩ :: after ∧ ∀ x ∈ after, x.finishes = false

/-- **The statements that are left**: those that have been prepared, oldest first, and of whose
number none has been destroyed since. -/
def leftOver : List Answered → List StatementHandle
  | [] => []
  | x :: rest =>
      (x.prepared?.filter fun handle => !rest.any (·.destroys handle.id)).toList ++ leftOver rest

/-- Whether a transaction is open after a use. -/
def transaction : Answered → Bool → Bool
  | ⟨.begin, .ok _⟩, _ => true
  | ⟨.commit, .ok _⟩, _ | ⟨.rollback, .ok _⟩, _ => false
  | _, before => before

/-- The statements that are there after a use. -/
def handles : Answered → List StatementHandle → List StatementHandle
  | ⟨.prepare _ _, .ok handle⟩, before => before ++ [handle]
  | ⟨.destroy handle, _⟩, before => before.filter (·.id != handle.id)
  | _, before => before

/-- The calls of a use: destroying a statement that is not there is none. -/
def calls (base : Nat) (there : List StatementHandle) : Answered → List Memory.Call
  | ⟨.connect, _⟩ => [.connect base]
  | ⟨.begin, _⟩ => [.begin base]
  | ⟨.commit, _⟩ => [.commit base]
  | ⟨.rollback, _⟩ => [.rollback base]
  | ⟨.prepare sql _, _⟩ => [.prepare base sql]
  | ⟨.execute handle bindings, _⟩ => [.execute base handle.sql bindings]
  | ⟨.destroy handle, _⟩ =>
      if there.any (·.id == handle.id) then [.destroy base handle.sql] else []

/-- **The calls that have been made**, with these statements there before. -/
def made (base : Nat) (there : List StatementHandle) : List Answered → List Memory.Call
  | [] => []
  | x :: rest => x.calls base there ++ made base (x.handles there) rest

variable {x : Answered} {rest taken : List Answered}

lemma unfinished_cons :
    Unfinished (x :: rest)
      ↔ Unfinished rest ∨ x = ⟨.begin, .ok ()⟩ ∧ ∀ y ∈ rest, y.finishes = false := by
  constructor
  · rintro ⟨before, after, heq, hafter⟩
    rcases List.cons_eq_append_iff.mp heq with ⟨-, heq⟩ | ⟨before', -, rfl⟩
    · obtain ⟨rfl, rfl⟩ := List.cons.inj heq
      exact .inr ⟨rfl, hafter⟩
    · exact .inl ⟨before', after, rfl, hafter⟩
  · rintro (⟨before, after, rfl, hafter⟩ | ⟨rfl, hafter⟩)
    · exact ⟨x :: before, after, rfl, hafter⟩
    · exact ⟨[], rest, rfl, hafter⟩

/-- What becomes of a transaction is decided by the last use that concerns it. -/
lemma transaction_foldl (taken : List Answered) (before : Bool) :
    taken.foldl (fun b x => x.transaction b) before = true
      ↔ Unfinished taken ∨ before = true ∧ ∀ x ∈ taken, x.finishes = false := by
  induction taken generalizing before with
  | nil => simp [Unfinished]
  | cons x rest ih =>
    rw [List.foldl_cons, ih, unfinished_cons, List.forall_mem_cons]
    obtain ⟨use, answer⟩ := x
    cases use with
    | begin =>
      cases answer with
      | error fault => simp [transaction, finishes]
      | ok =>
        show _ ∨ true = true ∧ _ ↔ (_ ∨ _ = _ ∧ _) ∨ before = true ∧ false = false ∧ _
        constructor
        · rintro (h | ⟨-, h⟩)
          exacts [.inl (.inl h), .inl (.inr ⟨rfl, h⟩)]
        · rintro ((h | ⟨-, h⟩) | ⟨-, -, h⟩)
          exacts [.inl h, .inr ⟨rfl, h⟩, .inr ⟨rfl, h⟩]
    | commit | rollback => cases answer <;> simp [transaction, finishes]
    | _ => simp [transaction, finishes]

instance (taken : List Answered) : Decidable (Unfinished taken) :=
  decidable_of_iff (taken.foldl (fun b x => x.transaction b) false = true)
    ((transaction_foldl taken false).trans (or_iff_left fun h => Bool.false_ne_true h.1))

/-- Statements that were there before are left unless they have been destroyed. -/
lemma handles_foldl (taken : List Answered) (there : List StatementHandle) :
    taken.foldl (fun l x => x.handles l) there
      = there.filter (fun handle => !taken.any (·.destroys handle.id)) ++ leftOver taken := by
  induction taken generalizing there with
  | nil =>
    simp only [List.foldl_nil, List.any_nil, Bool.not_false, List.filter_true, leftOver,
      List.append_nil]
  | cons x rest ih =>
    rw [List.foldl_cons, ih, leftOver]
    obtain ⟨use, answer⟩ := x
    cases use with
    | prepare sql kind =>
      cases answer with
      | error fault => simp [handles, prepared?, destroys]
      | ok handle =>
        have hfilter : ∀ p : StatementHandle → Bool,
            [handle].filter p = ((some handle).filter p).toList := by
          intro p
          cases hp : p handle <;> simp [hp, Option.filter]
        show (there ++ [handle]).filter _ ++ _ = there.filter _
          ++ (((some handle).filter _).toList ++ _)
        rw [List.filter_append, List.append_assoc, hfilter]
        rfl
    | destroy handle =>
      rw [← List.append_assoc]
      simp only [handles, prepared?, destroys, List.filter_filter, List.any_cons, Option.filter,
        Option.toList, List.append_nil]
      congr 2
      funext other
      rw [Bool.not_or, Bool.and_comm, bne, Bool.beq_comm]
    | _ => simp [handles, prepared?, destroys]

end Answered

/-! ## Books -/

/-- **What a lease and the connection beneath know of a usage.** -/
structure Mirror where
  transaction : Bool := false
  handles : List StatementHandle := []
  next : UInt64
  calls : List Memory.Call

namespace Mirror

variable {base : Nat} {m : Mirror} {x : Answered} {rest taken : List Answered}

def after (base : Nat) (m : Mirror) (x : Answered) : Mirror where
  transaction := x.transaction m.transaction
  handles := x.handles m.handles
  next := if x.prepares then m.next + 1 else m.next
  calls := m.calls ++ x.calls base m.handles

/-- **The books after a usage.** -/
def play (base : Nat) (m : Mirror) (taken : List Answered) : Mirror :=
  taken.foldl (after base) m

@[simp] lemma play_nil : m.play base [] = m := rfl

@[simp] lemma play_cons : m.play base (x :: rest) = (m.after base x).play base rest := rfl

lemma transaction_play :
    (m.play base taken).transaction = taken.foldl (fun b x => x.transaction b) m.transaction := by
  induction taken generalizing m with
  | nil => rfl
  | cons x rest ih => exact ih

lemma handles_play :
    (m.play base taken).handles = taken.foldl (fun l x => x.handles l) m.handles := by
  induction taken generalizing m with
  | nil => rfl
  | cons x rest ih => exact ih

lemma calls_play :
    (m.play base taken).calls = m.calls ++ Answered.made base m.handles taken := by
  induction taken generalizing m with
  | nil => simp [Answered.made]
  | cons x rest ih =>
    rw [play_cons, ih, Answered.made, ← List.append_assoc]
    rfl

/-! ## Numbers of statements -/

/-- **What a connection can answer**: a statement that is prepared gets the next number. -/
def Allows (m : Mirror) : Answered → Prop
  | ⟨.prepare sql kind, answer⟩ => answer = .ok ⟨m.next, sql, kind⟩
  | _ => True

/-- Everything that has been heard is what a connection can answer. -/
def Follows (base : Nat) (m : Mirror) : List Answered → Prop
  | [] => True
  | x :: rest => m.Allows x ∧ (m.after base x).Follows base rest

/-- **The numbers of statements count on** from the first one. -/
def Numbered (first : UInt64) (count : Nat) (m : Mirror) : Prop :=
  m.next = first + .ofNat count
    ∧ (m.handles.map (·.id)).Sublist ((List.range count).map fun i => first + .ofNat i)

lemma Numbered.after {first : UInt64} {count : Nat} (h : m.Numbered first count) (hx : m.Allows x) :
    (m.after base x).Numbered first (count + if x.prepares then 1 else 0) := by
  obtain ⟨hnext, hsublist⟩ := h
  obtain ⟨use, answer⟩ := x
  cases use with
  | prepare sql kind =>
    obtain rfl : answer = _ := hx
    refine ⟨?_, ?_⟩
    · simp only [Mirror.after, Answered.prepares, if_true, hnext]
      rw [UInt64.ofNat_add, UInt64.add_assoc]
      rfl
    · simp only [Mirror.after, Answered.handles, Answered.prepares, if_true, List.map_append,
        List.range_succ, List.map_singleton, hnext]
      exact hsublist.append (.refl _)
  | destroy handle =>
    exact ⟨hnext, ((List.filter_sublist).map _).trans hsublist⟩
  | _ => exact ⟨hnext, hsublist⟩

lemma Numbered.play {first : UInt64} {count : Nat} (h : m.Numbered first count)
    (hfollows : m.Follows base taken) :
    (m.play base taken).Numbered first (count + taken.countP (·.prepares)) := by
  induction taken generalizing m count with
  | nil => exact h
  | cons x rest ih =>
    have hrest := ih (h.after hfollows.1) hfollows.2
    rwa [Nat.add_assoc, Nat.add_comm (ite ..), ← List.countP_cons] at hrest

/-- **No two statements have the same number** before all numbers have been given out. -/
theorem nodup_play {first : UInt64} (hnext : m.next = first) (hhandles : m.handles = [])
    (hfollows : m.Follows base taken) (hcount : taken.countP (·.prepares) ≤ 2 ^ 64) :
    ((m.play base taken).handles.map (·.id)).Nodup := by
  have hfresh : m.Numbered first 0 := by
    refine ⟨by rw [hnext]; simp, ?_⟩
    rw [hhandles]
    exact List.nil_sublist _
  refine ((hfresh.play hfollows).2).nodup (List.Nodup.map_on ?_ List.nodup_range)
  intro i hi j hj heq
  rw [Nat.zero_add, List.mem_range] at hi hj
  have hsame := congrArg UInt64.toNat ((UInt64.add_right_inj first).mp heq)
  rwa [UInt64.toNat_ofNat', UInt64.toNat_ofNat', Nat.mod_eq_of_lt (Nat.lt_of_lt_of_le hi hcount),
    Nat.mod_eq_of_lt (Nat.lt_of_lt_of_le hj hcount)] at hsame

end Mirror

end Transactional
