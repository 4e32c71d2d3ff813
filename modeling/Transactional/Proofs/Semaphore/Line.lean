import Mathlib.Data.List.Nodup
import Mathlib.Data.List.Permutation
import Mathlib.Tactic.Common
import Transactional.Semaphore

/-!
# Who has a permit

The permits of a semaphore are free, or granted to somebody who has not taken a turn since, or in
somebody's hands.  No permit is free while anybody waits, so a permit that comes back is handed on
at once.

* `Place` — where a task stands with respect to a semaphore.
* `Semaphore.Moves` — everything that one task can do with it.
* `Semaphore.Sound` — what is true of a semaphore and of the places of all tasks;
  `Semaphore.Sound.moves` says that it stays true, whoever moves.
* `Semaphore.Sound.nobody_waits` — if nobody has a permit in hand and nobody who waits has been
  called, then nobody waits.
-/

namespace Transactional

/-- **Where a task stands** with respect to a semaphore. -/
inductive Place where
  | away
  | inLine (ticket : Nat)
  | called (ticket : Nat)
  | inside
deriving DecidableEq

def Place.line (places : List Place) : List Nat :=
  places.filterMap fun
    | .inLine ticket | .called ticket => some ticket
    | .away | .inside => none

namespace Place

@[simp] lemma line_away (ps : List Place) : line (.away :: ps) = line ps := rfl

@[simp] lemma line_inLine (t : Nat) (ps : List Place) :
    line (.inLine t :: ps) = t :: line ps := rfl

@[simp] lemma line_called (t : Nat) (ps : List Place) :
    line (.called t :: ps) = t :: line ps := rfl

@[simp] lemma line_inside (ps : List Place) : line (.inside :: ps) = line ps := rfl

lemma mem_line_of_called {t : Nat} {ps : List Place} (h : .called t ∈ ps) : t ∈ line ps :=
  List.mem_filterMap.mpr ⟨_, h, rfl⟩

lemma mem_line {t : Nat} {ps : List Place} (h : t ∈ line ps) :
    .inLine t ∈ ps ∨ .called t ∈ ps := by
  obtain ⟨p, hp, heq⟩ := List.mem_filterMap.mp h
  cases p with
  | inLine u => exact .inl (Option.some.inj heq ▸ hp)
  | called u => exact .inr (Option.some.inj heq ▸ hp)
  | away => simp at heq
  | inside => simp at heq

end Place

namespace Semaphore

def remember (ticket : Nat) (self : TaskId) (sem : Semaphore) : Semaphore :=
  { sem with
    waiting := sem.waiting.map fun e => if e.1 = ticket then (ticket, some self) else e }

/-- **What one task can do** with a semaphore. -/
inductive Moves : Place → Semaphore → Place → Semaphore → Prop where
  | stay (p : Place) (sem : Semaphore) : Moves p sem p sem
  | take (sem : Semaphore) (h : 0 < sem.free) : Moves .away sem .inside sem.take
  | enqueue (sem : Semaphore) (h : sem.free = 0) :
      Moves .away sem (.inLine sem.nextTicket) sem.enqueue
  | remember (t : Nat) (self : TaskId) (sem : Semaphore) :
      Moves (.inLine t) sem (.inLine t) (sem.remember t self)
  | hear (t : Nat) (sem : Semaphore) (h : t ∈ sem.granted) : Moves (.inLine t) sem (.called t) sem
  | collect (t : Nat) (sem : Semaphore) : Moves (.called t) sem .inside (sem.collect t)
  | withdraw (t : Nat) (sem : Semaphore) : Moves (.inLine t) sem .away (sem.withdraw t).2
  | handOver (sem : Semaphore) : Moves .inside sem .away sem.handOver.2

lemma shut_handOver (sem : Semaphore) : sem.handOver.2.shut = sem.shut := by
  unfold handOver
  split <;> rfl

lemma Moves.shut {p q : Place} {sem sem' : Semaphore} (h : Moves p sem q sem') :
    sem'.shut = sem.shut := by
  cases h with
  | withdraw t => rw [Semaphore.withdraw]; split <;> [rw [shut_handOver]; rfl]
  | handOver => exact shut_handOver sem
  | _ => rfl

/-- **Permits, places and tickets agree.** -/
structure Sound (capacity : Nat) (places : List Place) (sem : Semaphore) : Prop where
  permits : sem.free + sem.granted.length + places.count .inside = capacity
  full : sem.waiting ≠ [] → sem.free = 0
  /-- Those in line are those who wait and those who have been granted a permit. -/
  tickets : (Place.line places).Perm (sem.waiting.map (·.1) ++ sem.granted)
  nodup : (Place.line places).Nodup
  fresh : ∀ t ∈ Place.line places, t < sem.nextTicket
  called : ∀ t, .called t ∈ places → t ∈ sem.granted

namespace Sound

variable {capacity t : Nat} {places places' : List Place} {p q : Place} {sem sem' : Semaphore}

lemma fresh_free (capacity : Nat) (h : places.count .inside = 0) (h' : Place.line places = []) :
    Sound capacity places { free := capacity } where
  permits := by simp [h]
  full := by simp
  tickets := by simp [h']
  nodup := by simp [h']
  fresh := by simp [h']
  called t ht := by simpa [h'] using Place.mem_line_of_called ht

lemma perm (hs : Sound capacity places sem) (h : places.Perm places') :
    Sound capacity places' sem := by
  have hline : (Place.line places).Perm (Place.line places') := h.filterMap _
  exact
    { permits := h.count_eq .inside ▸ hs.permits
      full := hs.full
      tickets := hline.symm.trans hs.tickets
      nodup := hline.nodup_iff.mp hs.nodup
      fresh := fun t ht => hs.fresh t (hline.mem_iff.mpr ht)
      called := fun t ht => hs.called t (h.mem_iff.mpr ht) }

lemma cons_away : Sound capacity (.away :: places) sem ↔ Sound capacity places sem := by
  constructor
  · intro hs
    exact ⟨by simpa using hs.permits, hs.full, hs.tickets, hs.nodup, hs.fresh,
      fun t ht => hs.called t (List.mem_cons_of_mem _ ht)⟩
  · intro hs
    exact ⟨by simpa using hs.permits, hs.full, hs.tickets, hs.nodup, hs.fresh,
      fun t ht => hs.called t (by simpa using ht)⟩

lemma mem_waiting_or_granted (hs : Sound capacity places sem) (ht : t ∈ Place.line places) :
    t ∈ sem.waiting.map (·.1) ∨ t ∈ sem.granted :=
  List.mem_append.mp (hs.tickets.mem_iff.mp ht)

lemma nodup_append (hs : Sound capacity places sem) :
    (sem.waiting.map (·.1) ++ sem.granted).Nodup :=
  hs.tickets.nodup_iff.mp hs.nodup

lemma length_filter_granted (hs : Sound capacity places sem) (ht : t ∈ sem.granted) :
    (sem.granted.filter (· != t)).length + 1 = sem.granted.length := by
  have hnodup : sem.granted.Nodup := hs.nodup_append.of_append_right
  have hlength := hnodup.erase_eq_filter t ▸ List.length_erase_of_mem ht
  have hpos := List.length_pos_of_mem ht
  omega

/-- **Handing on a permit**: it goes to somebody who waits, or becomes free. -/
lemma handOver_of (permits : sem.free + sem.granted.length + places.count .inside + 1 = capacity)
    (full : sem.waiting ≠ [] → sem.free = 0)
    (tickets : (Place.line places).Perm (sem.waiting.map (·.1) ++ sem.granted))
    (nodup : (Place.line places).Nodup) (fresh : ∀ t ∈ Place.line places, t < sem.nextTicket)
    (called : ∀ t, .called t ∈ places → t ∈ sem.granted) :
    Sound capacity places sem.handOver.2 := by
  unfold handOver
  split
  next h =>
    rw [h] at tickets
    exact ⟨by simp only; omega, by simp [h], by simpa [h] using tickets, nodup, fresh, called⟩
  next ticket sleeper rest h =>
    rw [h] at tickets
    have hfree : sem.free = 0 := full (by simp [h])
    refine ⟨by simp only [List.length_append, List.length_singleton]; omega, fun _ => hfree, ?_,
      nodup, fresh, fun t ht => List.mem_append_left _ (called t ht)⟩
    -- The ticket moves from the head of those who wait to the end of the granted.
    refine tickets.trans ?_
    simp only [List.map_cons, List.cons_append]
    rw [← List.append_assoc]
    exact (List.perm_append_singleton ticket _).symm

lemma handOver (hs : Sound capacity (.inside :: places) sem) :
    Sound capacity places sem.handOver.2 := by
  refine handOver_of ?_ hs.full hs.tickets hs.nodup hs.fresh fun t ht => hs.called t (by simp [ht])
  have := hs.permits
  rw [List.count_cons_self] at this
  omega

lemma take (hs : Sound capacity places sem) (h : 0 < sem.free) :
    Sound capacity (.inside :: places) sem.take := by
  have hpermits := hs.permits
  refine ⟨?_, fun hw => ?_, hs.tickets, hs.nodup, hs.fresh,
    fun t ht => hs.called t (by simpa using ht)⟩
  · rw [List.count_cons_self]
    simp only [Semaphore.take]
    omega
  · have := hs.full hw
    omega

lemma enqueue (hs : Sound capacity places sem) (h : sem.free = 0) :
    Sound capacity (.inLine sem.nextTicket :: places) sem.enqueue := by
  have hnew : sem.nextTicket ∉ Place.line places := fun hm => by
    have := hs.fresh _ hm
    omega
  refine ⟨by simpa [Semaphore.enqueue] using hs.permits, fun _ => h, ?_, ?_, fun t ht => ?_,
    fun t ht => hs.called t (by simpa using ht)⟩
  · rw [Place.line_inLine]
    refine (hs.tickets.cons sem.nextTicket).trans ?_
    simp only [Semaphore.enqueue, List.map_append, List.map_cons, List.map_nil, List.append_assoc,
      List.singleton_append]
    exact List.perm_middle.symm
  · exact List.nodup_cons.mpr ⟨hnew, hs.nodup⟩
  · simp only [Semaphore.enqueue]
    rcases List.mem_cons.mp ht with rfl | ht
    · omega
    · have := hs.fresh t ht
      omega

lemma remember (hs : Sound capacity places sem) (t : Nat) (self : TaskId) :
    Sound capacity places (sem.remember t self) := by
  have htickets : (sem.remember t self).waiting.map (·.1) = sem.waiting.map (·.1) := by
    simp only [Semaphore.remember, List.map_map]
    refine List.map_congr_left fun e _ => ?_
    by_cases h : e.1 = t <;> simp [h]
  exact
    { permits := hs.permits
      full := fun hw => hs.full (by simpa [Semaphore.remember] using hw)
      tickets := htickets ▸ hs.tickets
      nodup := hs.nodup
      fresh := hs.fresh
      called := hs.called }

lemma hear (hs : Sound capacity (.inLine t :: places) sem) (h : t ∈ sem.granted) :
    Sound capacity (.called t :: places) sem := by
  refine ⟨by simpa using hs.permits, hs.full, hs.tickets, hs.nodup, hs.fresh, fun u hu => ?_⟩
  rcases List.mem_cons.mp hu with heq | hu
  · exact Place.called.inj heq ▸ h
  · exact hs.called u (List.mem_cons_of_mem _ hu)

lemma tickets_filter_granted (hs : Sound capacity (.inLine t :: places) sem)
    (ht : t ∈ sem.granted) :
    (Place.line places).Perm
      (sem.waiting.map (·.1) ++ sem.granted.filter (· != t)) := by
  have hnodup : sem.granted.Nodup := hs.nodup_append.of_append_right
  have hnot : t ∉ sem.waiting.map (·.1) := fun hm =>
    List.disjoint_of_nodup_append hs.nodup_append hm ht
  have := hs.tickets.erase t
  rwa [Place.line_inLine, List.erase_cons_head, List.erase_append_right _ hnot,
    hnodup.erase_eq_filter] at this

lemma tickets_filter_waiting (hs : Sound capacity (.inLine t :: places) sem)
    (ht : t ∉ sem.granted) :
    (Place.line places).Perm
      ((sem.waiting.filter (·.1 != t)).map (·.1) ++ sem.granted) := by
  have hnodup : (sem.waiting.map (·.1)).Nodup := hs.nodup_append.of_append_left
  have hin : t ∈ sem.waiting.map (·.1) :=
    (hs.mem_waiting_or_granted (by simp)).resolve_right ht
  have := hs.tickets.erase t
  rw [Place.line_inLine, List.erase_cons_head, List.erase_append_left _ hin,
    hnodup.erase_eq_filter, List.filter_map] at this
  exact this

lemma not_mem_of_inLine (hs : Sound capacity (.inLine t :: places) sem) :
    t ∉ Place.line places :=
  (List.nodup_cons.mp hs.nodup).1

lemma called_filter (hs : Sound capacity (.inLine t :: places) sem) (u : Nat)
    (hu : .called u ∈ places) : u ∈ sem.granted.filter (· != t) := by
  refine List.mem_filter.mpr ⟨hs.called u (List.mem_cons_of_mem _ hu), ?_⟩
  rw [bne_iff_ne]
  rintro rfl
  exact hs.not_mem_of_inLine (Place.mem_line_of_called hu)

/-- **Leaving the line**: a permit that had been granted goes on to the next. -/
lemma withdraw (hs : Sound capacity (.inLine t :: places) sem) :
    Sound capacity places (sem.withdraw t).2 := by
  have hpermits := hs.permits
  have hnodup := (List.nodup_cons.mp hs.nodup).2
  have hfresh : ∀ u ∈ Place.line places, u < sem.nextTicket :=
    fun u hu => hs.fresh u (List.mem_cons_of_mem _ hu)
  rw [List.count_cons_of_ne (by simp)] at hpermits
  unfold Semaphore.withdraw
  by_cases ht : t ∈ sem.granted
  · have hlength := hs.length_filter_granted ht
    rw [if_pos (by simpa using ht)]
    exact handOver_of (by simp only; omega) hs.full (hs.tickets_filter_granted ht) hnodup hfresh
      hs.called_filter
  · rw [if_neg (by simpa using ht)]
    refine ⟨hpermits, fun hw => hs.full ?_, hs.tickets_filter_waiting ht, hnodup, hfresh,
      fun u hu => hs.called u (List.mem_cons_of_mem _ hu)⟩
    rintro h
    simp [h] at hw

lemma collect (hs : Sound capacity (.called t :: places) sem) :
    Sound capacity (.inside :: places) (sem.collect t) := by
  have ht : t ∈ sem.granted := hs.called t (by simp)
  have hs' : Sound capacity (.inLine t :: places) sem :=
    ⟨by simpa using hs.permits, hs.full, hs.tickets, hs.nodup, hs.fresh,
      fun u hu => hs.called u (by simpa using Or.inr hu)⟩
  have hlength := hs'.length_filter_granted ht
  have hpermits := hs'.permits
  rw [List.count_cons_of_ne (by simp)] at hpermits
  refine ⟨?_, hs.full, hs'.tickets_filter_granted ht, (List.nodup_cons.mp hs.nodup).2,
    fun u hu => hs.fresh u (List.mem_cons_of_mem _ hu),
    fun u hu => hs'.called_filter u (by simpa using hu)⟩
  rw [List.count_cons_self]
  simp only [Semaphore.collect]
  omega

/-- **Whoever moves, permits, places and tickets go on agreeing.** -/
lemma moves (hs : Sound capacity (p :: places) sem) (h : Moves p sem q sem') :
    Sound capacity (q :: places) sem' := by
  cases h with
  | stay => exact hs
  | take _ h => exact (cons_away.mp hs).take h
  | enqueue _ h => exact (cons_away.mp hs).enqueue h
  | remember t self => exact hs.remember t self
  | hear t _ h => exact hs.hear h
  | collect => exact hs.collect
  | withdraw => exact cons_away.mpr hs.withdraw
  | handOver => exact cons_away.mpr hs.handOver

/-- **If nobody has a permit in hand, and nobody who waits has been called, then nobody waits.**
Otherwise a permit would be free while somebody waits. -/
lemma nobody_waits (hs : Sound (capacity + 1) places sem) (hin : .inside ∉ places)
    (hcalled : ∀ t ∈ Place.line places, t ∉ sem.granted) : Place.line places = [] := by
  have hgranted : sem.granted = [] := by
    refine List.eq_nil_iff_forall_not_mem.mpr fun t ht => hcalled t ?_ ht
    exact hs.tickets.mem_iff.mpr (List.mem_append_right _ ht)
  have hpermits := hs.permits
  rw [List.count_eq_zero.mpr hin, hgranted] at hpermits
  have hwaiting : sem.waiting = [] := by
    by_contra hw
    have := hs.full hw
    simp only [List.length_nil] at hpermits
    omega
  have htickets := hs.tickets
  rw [hgranted, hwaiting] at htickets
  exact htickets.eq_nil

end Sound

end Semaphore

end Transactional
