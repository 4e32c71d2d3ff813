import Transactional.Proofs.Semaphore.Line

/-!
# Permits of a semaphore that may be shut

A semaphore that has been shut refuses everybody who waits, also those who had been granted a permit
and have not taken their turn since.  Their permits come back one by one, as they find out.

* `Semaphore.Shifts` — everything that one task can do with a semaphore, also when it is shut.
* `Semaphore.Refusing` — what is true of a semaphore that has been shut.
* `Semaphore.Balanced` — what is true in either case; `Semaphore.Balanced.shifts` says that it stays
  true, whoever moves, and `Semaphore.Balanced.refuseAll` that it survives the shutting.
-/

namespace Transactional.Semaphore

/-- **What one task can do** with a semaphore.  As long as it is not shut these are the moves of
`Semaphore.Moves`; afterwards nobody gets in line or takes a permit any longer. -/
inductive Shifts : Place → Semaphore → Place → Semaphore → Prop where
  | move {p q : Place} {sem sem' : Semaphore} (hshut : sem.shut = false) (h : Moves p sem q sem') :
      Shifts p sem q sem'
  | stay (p : Place) (sem : Semaphore) (hshut : sem.shut = true) : Shifts p sem p sem
  | remember (t : Nat) (self : TaskId) (sem : Semaphore) (hshut : sem.shut = true) :
      Shifts (.inLine t) sem (.inLine t) (sem.remember t self)
  | hear (t : Nat) (sem : Semaphore) (hshut : sem.shut = true) :
      Shifts (.inLine t) sem (.called t) sem
  | refused (t : Nat) (sem : Semaphore) (hshut : sem.shut = true) :
      Shifts (.called t) sem .away (sem.withdraw t).2
  | withdraw (t : Nat) (sem : Semaphore) (hshut : sem.shut = true) :
      Shifts (.inLine t) sem .away (sem.withdraw t).2
  | handOver (sem : Semaphore) (hshut : sem.shut = true) : Shifts .inside sem .away sem.handOver.2

variable {capacity : Nat} {places places' : List Place} {p q : Place} {sem sem' : Semaphore}

lemma shifts_stay (p : Place) (sem : Semaphore) : Shifts p sem p sem := by
  cases hshut : sem.shut with
  | false => exact .move hshut (.stay p sem)
  | true => exact .stay p sem hshut

lemma shifts_remember (t : Nat) (self : TaskId) (sem : Semaphore) :
    Shifts (.inLine t) sem (.inLine t) (sem.remember t self) := by
  cases hshut : sem.shut with
  | false => exact .move hshut (.remember t self sem)
  | true => exact .remember t self sem hshut

lemma shifts_withdraw (t : Nat) (sem : Semaphore) :
    Shifts (.inLine t) sem .away (sem.withdraw t).2 := by
  cases hshut : sem.shut with
  | false => exact .move hshut (.withdraw t sem)
  | true => exact .withdraw t sem hshut

lemma shifts_handOver (sem : Semaphore) : Shifts .inside sem .away sem.handOver.2 := by
  cases hshut : sem.shut with
  | false => exact .move hshut (.handOver sem)
  | true => exact .handOver sem hshut

lemma Shifts.moves (h : Shifts p sem q sem') (hshut : sem.shut = false) : Moves p sem q sem' := by
  cases h with
  | move _ h => exact h
  | _ => simp_all

lemma shut_withdraw (t : Nat) (sem : Semaphore) : (sem.withdraw t).2.shut = sem.shut := by
  unfold withdraw
  split
  · exact shut_handOver _
  · rfl

lemma Shifts.shut (h : Shifts p sem q sem') : sem'.shut = sem.shut := by
  cases h with
  | move _ h => exact h.shut
  | refused t | withdraw t => exact shut_withdraw t sem
  | handOver => exact shut_handOver sem
  | _ => rfl

lemma handOver_of_nobody (h : sem.waiting = []) :
    sem.handOver.2 = { sem with free := sem.free + 1 } := by
  unfold handOver
  split
  · rfl
  · simp_all

/-- **A semaphore that has been shut.** -/
structure Refusing (capacity : Nat) (places : List Place) (sem : Semaphore) : Prop where
  permits : sem.free + sem.granted.length + places.count .inside = capacity
  nobody : sem.waiting = []
  once : sem.granted.Nodup
  granted : ∀ t ∈ sem.granted, t ∈ Place.line places
  nodup : (Place.line places).Nodup

namespace Refusing

lemma perm (hs : Refusing capacity places sem) (h : places.Perm places') :
    Refusing capacity places' sem := by
  have hline : (Place.line places).Perm (Place.line places') := h.filterMap _
  exact
    { permits := h.count_eq .inside ▸ hs.permits
      nobody := hs.nobody
      once := hs.once
      granted := fun t ht => hline.mem_iff.mp (hs.granted t ht)
      nodup := hline.nodup_iff.mp hs.nodup }

lemma cons_away : Refusing capacity (.away :: places) sem ↔ Refusing capacity places sem := by
  constructor
  · exact fun hs => ⟨by simpa using hs.permits, hs.nobody, hs.once, hs.granted, hs.nodup⟩
  · exact fun hs => ⟨by simpa using hs.permits, hs.nobody, hs.once, hs.granted, hs.nodup⟩

lemma handOver (hs : Refusing capacity (.inside :: places) sem) :
    Refusing capacity places sem.handOver.2 := by
  have hpermits := hs.permits
  rw [List.count_cons_self] at hpermits
  rw [handOver_of_nobody hs.nobody]
  refine ⟨?_, hs.nobody, hs.once, hs.granted, hs.nodup⟩
  simp only
  omega

/-- **Leaving the line**: a permit that had been granted becomes free. -/
lemma withdraw {t : Nat} (hs : Refusing capacity (p :: places) sem)
    (hp : p = .inLine t ∨ p = .called t) : Refusing capacity places (sem.withdraw t).2 := by
  obtain ⟨hpermits, hnobody, honce, hgranted, hnodup⟩ := hs
  have hline : Place.line (p :: places) = t :: Place.line places := by
    rcases hp with rfl | rfl <;> rfl
  have hcount : (p :: places).count .inside = places.count .inside := by
    rcases hp with rfl | rfl <;> simp
  rw [hline] at hgranted hnodup
  rw [hcount] at hpermits
  have hothers : ∀ u ∈ sem.granted, u ≠ t → u ∈ Place.line places := fun u hu hne =>
    (List.mem_cons.mp (hgranted u hu)).resolve_left hne
  unfold Semaphore.withdraw
  by_cases ht : t ∈ sem.granted
  · have hlength := honce.erase_eq_filter t ▸ List.length_erase_of_mem ht
    have hpos := List.length_pos_of_mem ht
    rw [if_pos (by simpa using ht), handOver_of_nobody (by exact hnobody)]
    refine ⟨by simp only; omega, hnobody, honce.filter _, fun u hu => ?_,
      (List.nodup_cons.mp hnodup).2⟩
    obtain ⟨hu, hne⟩ := List.mem_filter.mp hu
    exact hothers u hu (by simpa using hne)
  · rw [if_neg (by simpa using ht)]
    refine ⟨hpermits, by simp [hnobody], honce, fun u hu => hothers u hu ?_,
      (List.nodup_cons.mp hnodup).2⟩
    rintro rfl
    exact ht hu

lemma shifts (hs : Refusing capacity (p :: places) sem) (hshut : sem.shut = true)
    (h : Shifts p sem q sem') : Refusing capacity (q :: places) sem' := by
  cases h with
  | move hopen => simp [hopen] at hshut
  | stay => exact hs
  | remember t self =>
    exact ⟨hs.permits, by simp [remember, hs.nobody], hs.once, hs.granted, hs.nodup⟩
  | hear t => exact ⟨by simpa using hs.permits, hs.nobody, hs.once, hs.granted, hs.nodup⟩
  | refused t => exact cons_away.mpr (hs.withdraw (.inr rfl))
  | withdraw t => exact cons_away.mpr (hs.withdraw (.inl rfl))
  | handOver => exact cons_away.mpr hs.handOver

end Refusing

/-- **Permits, places and tickets agree**, whether the semaphore is shut or not. -/
structure Balanced (capacity : Nat) (places : List Place) (sem : Semaphore) : Prop where
  sound : sem.shut = false → Sound capacity places sem
  refusing : sem.shut = true → Refusing capacity places sem

namespace Balanced

/-- **Every permit is free, or granted, or in somebody's hands.** -/
lemma permits (hs : Balanced capacity places sem) :
    sem.free + sem.granted.length + places.count .inside = capacity := by
  cases hshut : sem.shut with
  | false => exact (hs.sound hshut).permits
  | true => exact (hs.refusing hshut).permits

lemma granted (hs : Balanced capacity places sem) {t : Nat} (ht : t ∈ sem.granted) :
    t ∈ Place.line places := by
  cases hshut : sem.shut with
  | false => exact (hs.sound hshut).tickets.mem_iff.mpr (List.mem_append_right _ ht)
  | true => exact (hs.refusing hshut).granted t ht

lemma perm (hs : Balanced capacity places sem) (h : places.Perm places') :
    Balanced capacity places' sem :=
  ⟨fun hshut => (hs.sound hshut).perm h, fun hshut => (hs.refusing hshut).perm h⟩

lemma cons_away : Balanced capacity (.away :: places) sem ↔ Balanced capacity places sem := by
  constructor
  · exact fun hs => ⟨fun h => Sound.cons_away.mp (hs.sound h),
      fun h => Refusing.cons_away.mp (hs.refusing h)⟩
  · exact fun hs => ⟨fun h => Sound.cons_away.mpr (hs.sound h),
      fun h => Refusing.cons_away.mpr (hs.refusing h)⟩

/-- **Whoever moves, permits, places and tickets go on agreeing.** -/
lemma shifts (hs : Balanced capacity (p :: places) sem) (h : Shifts p sem q sem') :
    Balanced capacity (q :: places) sem' := by
  refine ⟨fun hshut => ?_, fun hshut => ?_⟩ <;> rw [h.shut] at hshut
  · exact (hs.sound hshut).moves (h.moves hshut)
  · exact (hs.refusing hshut).shifts hshut h

/-- **Refusing everybody** takes no permit from anybody. -/
lemma refuseAll (hs : Balanced capacity places sem) :
    Balanced capacity places sem.refuseAll.2 := by
  refine ⟨fun h => by simp [Semaphore.refuseAll] at h, fun _ => ?_⟩
  cases hshut : sem.shut with
  | false =>
    have hsound := hs.sound hshut
    exact ⟨hsound.permits, rfl, hsound.nodup_append.of_append_right, fun _ ht => hs.granted ht,
      hsound.nodup⟩
  | true =>
    have hrefusing := hs.refusing hshut
    exact ⟨hrefusing.permits, rfl, hrefusing.once, hrefusing.granted, hrefusing.nodup⟩

end Balanced

end Transactional.Semaphore
