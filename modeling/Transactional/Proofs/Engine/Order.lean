import Mathlib.Data.List.Forall2
import Transactional.Proofs.Engine.Stages

/-!
# The tasks that share a pool do not get in each other's way

No two tasks have the same connection or the same lease, and neither does a job that is due have one
that a task has.  So what one of them does leaves the others what they have; and what is at rest has
nothing noted.

* `Engine.Numbered`, `Engine.issues` — which numbers of statements have been given out on a
  connection, and how many more are in a step.
* `Engine.Resting` — what is true of the connections of the pool.
* `Engine.People` — what is true of the tasks, and of the jobs that are due.
* `Engine.Order`, `Engine.Order.upheld` — both at each moment; every change upholds it.
-/

namespace Transactional

namespace Engine

/-! ## Numbers of statements -/

/-- **A connection goes on, and the numbers of statements count on**: as many as `count` have been
given out, and of those only some from the one after `floor` on are prepared. -/
structure Numbered (floor count : Nat) (l : Link) : Prop where
  lives : l.isTerminated = false
  le : floor ≤ count
  next : l.nextStatement = .ofNat (1 + count)
  ids : ∀ id ∈ l.statements, ∃ j, floor ≤ j ∧ j < count ∧ id = .ofNat (1 + j)

/-- **How many numbers a step gives out** on a connection. -/
def issues (s s' : World) (m : Nat) : Nat :=
  if m < s.linkCount ∧ ((link m).get s').nextStatement
    ≠ ((link m).get s).nextStatement then 1 else 0

variable {floor count : Nat} {l l' : Link}

lemma Numbered.alike (h : Numbered floor count l) (hsame : l.Alike l') : Numbered floor count l' :=
  ⟨hsame.lives.trans h.lives, h.le, hsame.next.trans h.next, hsame.statements ▸ h.ids⟩

lemma succ_ne (next : UInt64) : next + 1 ≠ next := by
  intro h
  have hone : next + 1 = next + 0 := h.trans (UInt64.add_zero next).symm
  exact absurd ((UInt64.add_right_inj next).mp hone) (by decide)

/-- **Numbers go on.** -/
lemma Numbered.onward (h : Numbered floor count l) (hlives : l'.isTerminated = false)
    (honward : Onward l.statements l.nextStatement l'.statements l'.nextStatement) :
    Numbered floor (count + if l'.nextStatement ≠ l.nextStatement then 1 else 0) l' := by
  rcases honward with ⟨hids, hnext⟩ | ⟨hids, hnext⟩
  · rw [if_neg (not_not.mpr hnext)]
    exact ⟨hlives, h.le, hnext.trans h.next, fun id hid => h.ids id (hids hid)⟩
  · rw [if_pos (hnext ▸ succ_ne _)]
    refine ⟨hlives, h.le.trans (Nat.le_succ _), ?_, fun id hid => ?_⟩
    · rw [hnext, h.next, ← Nat.add_assoc, UInt64.ofNat_add _ 1]
      rfl
    · rw [hids, List.mem_append, List.mem_singleton] at hid
      rcases hid with hid | rfl
      · obtain ⟨j, hfloor, hj, heq⟩ := h.ids id hid
        exact ⟨j, hfloor, Nat.lt_succ_of_lt hj, heq⟩
      · exact ⟨count, h.le, Nat.lt_succ_self _, h.next⟩

/-! ## Connections -/

def Link.Pooled (l : Link) : Prop :=
  l.place = .lent ∨ l.place = .idle

/-- **What is true of the connections of the pool**: those at rest have nothing noted, and on each
the numbers of statements count on. -/
structure Resting (floor issued : Nat → Nat) (s : World) : Prop where
  rest : ∀ m ∈ s.books.idle, m < s.linkCount ∧ ∃ next, ((link m).get s).Kept .idle false [] next
  nodup : s.books.idle.Nodup
  numbered : ∀ m < s.linkCount, ((link m).get s).Pooled → Numbered (floor m) (issued m)
    ((link m).get s)
  unused : ∀ m, s.linkCount ≤ m → ¬((link m).get s).Pooled ∧ floor m = 0 ∧ issued m = 0

variable {floor issued : Nat → Nat} {s s' : World}

/-- **Whatever happens to connections**: those that stay in the pool go on counting, and new ones
have not begun yet. -/
lemma Resting.step {more : Nat → Nat} (h : Resting floor issued s)
    (hrest : ∀ m ∈ s'.books.idle, m < s'.linkCount ∧ ∃ next, ((link m).get s').Kept .idle
      false [] next)
    (hnodup : s'.books.idle.Nodup) (hcount : s.linkCount ≤ s'.linkCount)
    (hlinks : ∀ m, ((link m).get s').Pooled →
      ((link m).get s).Pooled ∧ (∀ f c, Numbered f c ((link m).get s) →
        Numbered f (c + more m) ((link m).get s'))
      ∨ m = s.linkCount ∧ m < s'.linkCount ∧ ∃ place, (link m).get s' = { place })
    (hmore : ∀ m, s.linkCount ≤ m → more m = 0) :
    Resting floor (fun m => issued m + more m) s' where
  rest := hrest
  nodup := hnodup
  numbered m hm hpool := by
    rcases hlinks m hpool with ⟨hpooled, hnumbered⟩ | ⟨rfl, -, place, hnew⟩
    · have hold : m < s.linkCount := Nat.lt_of_not_le fun hnew => (h.unused m hnew).1 hpooled
      exact hnumbered _ _ (h.numbered m hold hpooled)
    · obtain ⟨-, hfloor, hissued⟩ := h.unused _ (Nat.le_refl _)
      rw [hissued, hfloor, hmore _ (Nat.le_refl _), hnew]
      exact ⟨rfl, Nat.le_refl 0, rfl, nofun⟩
  unused m hm := by
    obtain ⟨hnone, hfloor, hissued⟩ := h.unused m (hcount.trans hm)
    refine ⟨fun hpool => ?_, hfloor, by rw [hissued, hmore m (hcount.trans hm)]⟩
    rcases hlinks m hpool with ⟨hpooled, -⟩ | ⟨-, hlt, -⟩
    · exact hnone hpooled
    · exact absurd hlt (Nat.not_lt.mpr hm)

lemma Link.Pooled.of_alike (hsame : l.Alike l') (h : l'.Pooled) : l.Pooled := by
  rwa [Pooled, hsame.place] at h

lemma issues_of_alike {m : Nat} (h : ((link m).get s).Alike ((link m).get s')) :
    issues s s' m = 0 :=
  if_neg fun hne => hne.2 h.next

lemma issues_unused {m : Nat} (h : s.linkCount ≤ m) : issues s s' m = 0 :=
  if_neg fun hlt => Nat.not_lt.mpr h hlt.1

/-- **What happens elsewhere** gives out no numbers that count. -/
lemma Resting.elsewhere (more : Nat → Nat) (h : Resting floor issued s) (helse : Elsewhere s s')
    (hmore : ∀ m, ((link m).get s).Alike ((link m).get s') ∨ s.linkCount ≤ m → more m = 0) :
    Resting floor (fun m => issued m + more m) s' := by
  refine h.step (fun m hm => ?_) (helse.idle.nodup h.nodup) helse.linkCount (fun m hpool => ?_)
    fun m hm => hmore m (.inr hm)
  · obtain ⟨hlt, next, hkept⟩ := h.rest m (helse.idle.subset hm)
    exact ⟨hlt.trans_le helse.linkCount, next, hkept.alike (helse.rest m hm)⟩
  · rcases helse.others m with hsame | hother
    · refine .inl ⟨.of_alike hsame hpool, fun f c hnumbered => ?_⟩
      rw [hmore m (.inl hsame)]
      exact hnumbered.alike hsame
    · rcases hpool with hpool | hpool <;> rw [hpool] at hother <;> simp at hother

/-- **A step that leaves all connections alone but one.** -/
lemma Resting.others {base : Nat} (h : Resting floor issued s)
    (hothers : ∀ m ≠ base, ((link m).get s).Alike ((link m).get s'))
    (hrest : ∀ m ∈ s'.books.idle, m ∈ s.books.idle ∧ m ≠ base
      ∨ m = base ∧ base < s'.linkCount ∧ ∃ next, ((link base).get s').Kept .idle false [] next)
    (hnodup : s'.books.idle.Nodup) (hcount : s.linkCount ≤ s'.linkCount)
    (hbase : ((link base).get s').Pooled →
      ((link base).get s).Pooled ∧ ((link base).get s').isTerminated = false
        ∧ Onward ((link base).get s).statements ((link base).get s).nextStatement
          ((link base).get s').statements ((link base).get s').nextStatement ∧ base < s.linkCount
      ∨ base = s.linkCount ∧ base < s'.linkCount ∧ ∃ place, (link base).get s' = { place }) :
    Resting floor (fun m => issued m + issues s s' m) s' := by
  refine h.step (fun m hm => ?_) hnodup hcount (fun m hpool => ?_) fun m => issues_unused
  · rcases hrest m hm with ⟨hm, hne⟩ | ⟨rfl, hlt, hkept⟩
    · obtain ⟨hlt, next, hkept⟩ := h.rest m hm
      exact ⟨hlt.trans_le hcount, next, hkept.alike (hothers m hne)⟩
    · exact ⟨hlt, hkept⟩
  · by_cases hm : m = base
    · subst hm
      refine (hbase hpool).imp_left fun ⟨hpooled, hlives, honward, hlt⟩ =>
        ⟨hpooled, fun f c hnumbered => ?_⟩
      have hissues : issues s s' m
          = if ((link m).get s').nextStatement ≠ ((link m).get s).nextStatement then 1 else 0 := by
        simp only [issues, hlt, true_and]
      rw [hissues]
      exact hnumbered.onward hlives honward
    · refine .inl ⟨.of_alike (hothers m hm) hpool, fun f c hnumbered => ?_⟩
      rw [issues_of_alike (hothers m hm)]
      exact hnumbered.alike (hothers m hm)

/-! ## Tasks -/

namespace TaskStage

def base? : TaskStage → Option Nat
  | .opened base | .holder base _ (_, .kept _ _ _) => some base
  | _ => none

def lease? : TaskStage → Option Nat
  | .holder _ number _ => some number
  | _ => none

/-- The connection and the lease that a task has. -/
def tenancy? : TaskStage → Option (Nat × Nat)
  | .holder base number (_, .kept _ _ _) => some (base, number)
  | _ => none

def number? : TaskStage → Option Nat
  | .holder _ number _ | .keeper _ number | .late number => some number
  | _ => none

end TaskStage

/-- **What a job that is due is about.** -/
inductive Job.Is : Job → TaskStage → Prop where
  | watch (base number : Nat) : Is (.watch base number) (.keeper base number)
  | close (base number : Nat) (page : Page) : Is (.close base number)
      (.holder base number page.stage)

/-- **What is true of the tasks and of the jobs that are due**: each has what its stage says, and no
two have the same connection or the same lease; and whoever looks after a lease that is not closed
does so for somebody who has it. -/
structure People (trouble : Trouble) (settings : Settings) (crew : List TaskStage)
    (s : World) : Prop where
  stands : ∀ p ∈ crew, p.Stands trouble settings s
  below : ∀ p ∈ crew, ∀ n ∈ p.number?, n < s.leaseCount
  known : ∀ p ∈ crew, ∀ b ∈ p.base?, b < s.linkCount
  bases : (crew.filterMap TaskStage.base?).Nodup
  leases : (crew.filterMap TaskStage.lease?).Nodup
  kept : ∀ b n, .keeper b n ∈ crew → ((LeaseHost.leases n).get s).closed = true
    ∨ ∃ p ∈ crew, p.tenancy? = some (b, n)

variable {trouble : Trouble} {settings : Settings} {crew crew' rest : List TaskStage}
  {p q r : TaskStage}

lemma TaskStage.Stands.of_same (h : p.Stands trouble settings s)
    (hbase : ∀ b ∈ p.base?, ((link b).get s).Alike ((link b).get s'))
    (hlease : ∀ n ∈ p.lease?,
      ((LeaseHost.leases n).get s').plain = ((LeaseHost.leases n).get s).plain)
    (hlate : ∀ n, p = .late n → ((LeaseHost.leases n).get s').closed = true) :
    p.Stands trouble settings s' := by
  cases p with
  | outside | keeper => trivial
  | opened base =>
    obtain ⟨next, hkept⟩ := h
    exact ⟨next, hkept.alike (hbase base rfl)⟩
  | holder base number x =>
    obtain ⟨state, k⟩ := x
    obtain ⟨hstate, hknows⟩ := h
    refine ⟨(hlease number rfl).trans hstate, ?_⟩
    cases k with
    | kept noted ids next =>
      have hkept : ((link base).get s).Kept .lent noted ids next := hknows
      exact hkept.alike (hbase base rfl)
    | returned => trivial
  | late number => exact hlate number rfl

lemma TaskStage.Stands.lent (h : p.Stands trouble settings s) {b : Nat} (hb : b ∈ p.base?) :
    ((link b).get s).place = .lent := by
  cases p with
  | opened base =>
    obtain rfl := Option.some.inj hb
    obtain ⟨next, hkept⟩ := h
    exact hkept.place
  | holder base number x =>
    obtain ⟨state, _ | _⟩ := x
    · obtain rfl := Option.some.inj hb
      have hkept : ((link base).get s).Kept .lent _ _ _ := h.2
      exact hkept.place
    · cases hb
  | _ => cases hb

namespace People

lemma perm (h : People trouble settings crew s) (hperm : crew.Perm crew') :
    People trouble settings crew' s where
  stands p hp := h.stands p (hperm.mem_iff.mpr hp)
  below p hp := h.below p (hperm.mem_iff.mpr hp)
  known p hp := h.known p (hperm.mem_iff.mpr hp)
  bases := (hperm.filterMap _).nodup_iff.mp h.bases
  leases := (hperm.filterMap _).nodup_iff.mp h.leases
  kept b n hmem := (h.kept b n (hperm.mem_iff.mpr hmem)).imp_right fun ⟨p, hp, heq⟩ =>
    ⟨p, hperm.mem_iff.mp hp, heq⟩

/-- **Nobody moves**, and everybody keeps what he has. -/
lemma same (h : People trouble settings crew s)
    (hlinks : ∀ m, ((link m).get s).place = .lent → ((link m).get s).Alike ((link m).get s'))
    (hleases : ∀ n, ((LeaseHost.leases n).get s').plain = ((LeaseHost.leases n).get s).plain)
    (hleaseCount : s'.leaseCount = s.leaseCount) (hlinkCount : s.linkCount ≤ s'.linkCount) :
    People trouble settings crew s' where
  stands p hp := (h.stands p hp).of_same (fun b hb => hlinks b ((h.stands p hp).lent hb))
    (fun n _ => hleases n) fun n heq => by
      subst heq
      exact (congrArg LeaseState.closed (hleases n)).trans (h.stands _ hp)
  below p hp n hn := hleaseCount.symm ▸ h.below p hp n hn
  known p hp b hb := (h.known p hp b hb).trans_le hlinkCount
  bases := h.bases
  leases := h.leases
  kept b n hmem := (h.kept b n hmem).imp_left (congrArg LeaseState.closed (hleases n)).trans

lemma other_base (h : People trouble settings (p :: rest) s) (hr : r ∈ rest) {b : Nat}
    (hb : p.base? = some b) : r.base? ≠ some b := by
  intro heq
  have hbases := h.bases
  rw [List.filterMap_cons_some hb, List.nodup_cons] at hbases
  exact hbases.1 (List.mem_filterMap.mpr ⟨r, hr, heq⟩)

lemma other_lease (h : People trouble settings (p :: rest) s) (hr : r ∈ rest) {n : Nat}
    (hn : p.lease? = some n) : r.lease? ≠ some n := by
  intro heq
  have hleases := h.leases
  rw [List.filterMap_cons_some hn, List.nodup_cons] at hleases
  exact hleases.1 (List.mem_filterMap.mpr ⟨r, hr, heq⟩)

/-- **Somebody moves**, and leaves the others what they have. -/
lemma step (h : People trouble settings (p :: rest) s) (hq : q.Stands trouble settings s')
    (hnumber : ∀ n ∈ q.number?, n < s'.leaseCount)
    (hbase : ∀ b ∈ q.base?, b < s'.linkCount ∧ ∀ r ∈ rest, r.base? ≠ some b)
    (hlease : ∀ n ∈ q.lease?, ∀ r ∈ rest, r.lease? ≠ some n)
    (hlinks : ∀ r ∈ rest, ∀ b ∈ r.base?, ((link b).get s).Alike ((link b).get s'))
    (hleases : ∀ r ∈ rest, ∀ n ∈ r.lease?,
      ((LeaseHost.leases n).get s').plain = ((LeaseHost.leases n).get s).plain)
    (hclosed : ∀ n < s.leaseCount, ((LeaseHost.leases n).get s).closed = true →
      ((LeaseHost.leases n).get s').closed = true)
    (hleaseCount : s.leaseCount ≤ s'.leaseCount) (hlinkCount : s.linkCount ≤ s'.linkCount)
    (hkept : ∀ t ∈ p.tenancy?, q.tenancy? = some t ∨ ((LeaseHost.leases t.2).get s').closed = true)
    (hkeeper : ∀ b n, q = .keeper b n → p = .keeper b n) :
    People trouble settings (q :: rest) s' := by
  have hrest : ∀ r ∈ rest, r ∈ p :: rest := fun r => List.mem_cons_of_mem p
  refine ⟨?_, ?_, ?_, ?_, ?_, ?_⟩
  · rintro r hr
    rcases List.mem_cons.mp hr with rfl | hr
    · exact hq
    · refine (h.stands r (hrest r hr)).of_same (hlinks r hr) (hleases r hr) ?_
      rintro n rfl
      exact hclosed n (h.below _ (hrest _ hr) n rfl) (h.stands _ (hrest _ hr))
  · rintro r hr n hn
    rcases List.mem_cons.mp hr with rfl | hr
    · exact hnumber n hn
    · exact (h.below r (hrest r hr) n hn).trans_le hleaseCount
  · rintro r hr b hb
    rcases List.mem_cons.mp hr with rfl | hr
    · exact (hbase b hb).1
    · exact (h.known r (hrest r hr) b hb).trans_le hlinkCount
  · have hold := ((List.sublist_cons_self p rest).filterMap TaskStage.base?).nodup h.bases
    cases hb : q.base? with
    | none => rwa [List.filterMap_cons_none hb]
    | some b =>
      rw [List.filterMap_cons_some hb, List.nodup_cons]
      refine ⟨fun hmem => ?_, hold⟩
      obtain ⟨r, hr, heq⟩ := List.mem_filterMap.mp hmem
      exact (hbase b hb).2 r hr heq
  · have hold := ((List.sublist_cons_self p rest).filterMap TaskStage.lease?).nodup h.leases
    cases hn : q.lease? with
    | none => rwa [List.filterMap_cons_none hn]
    | some n =>
      rw [List.filterMap_cons_some hn, List.nodup_cons]
      refine ⟨fun hmem => ?_, hold⟩
      obtain ⟨r, hr, heq⟩ := List.mem_filterMap.mp hmem
      exact hlease n hn r hr heq
  · intro b n hmem
    have hbefore : .keeper b n ∈ p :: rest := by
      rcases List.mem_cons.mp hmem with heq | hmem
      · exact List.mem_cons.mpr (.inl (hkeeper b n heq.symm).symm)
      · exact hrest _ hmem
    rcases h.kept b n hbefore with hdone | ⟨r, hr, heq⟩
    · exact .inl (hclosed n (h.below _ hbefore n rfl) hdone)
    · rcases List.mem_cons.mp hr with rfl | hr
      · exact (hkept _ heq).elim (fun hq => .inr ⟨q, List.mem_cons_self, hq⟩) .inl
      · exact .inr ⟨r, List.mem_cons_of_mem q hr, heq⟩

/-- Somebody comes who has nothing, or looks after a lease that somebody has. -/
lemma cons (h : People trouble settings crew s)
    (hp : p = .outside ∨ ∃ b n, p = .keeper b n ∧ n < s.leaseCount
      ∧ ∃ r ∈ crew, r.tenancy? = some (b, n)) : People trouble settings (p :: crew) s := by
  have hbase : p.base? = none := by rcases hp with rfl | ⟨b, n, rfl, -⟩ <;> rfl
  have hlease : p.lease? = none := by rcases hp with rfl | ⟨b, n, rfl, -⟩ <;> rfl
  refine ⟨?_, ?_, ?_, by rw [List.filterMap_cons_none hbase]; exact h.bases,
    by rw [List.filterMap_cons_none hlease]; exact h.leases, ?_⟩
  · refine List.forall_mem_cons.mpr ⟨?_, h.stands⟩
    rcases hp with rfl | ⟨b, n, rfl, -⟩ <;> trivial
  · refine List.forall_mem_cons.mpr ⟨?_, h.below⟩
    rcases hp with rfl | ⟨b, n, rfl, hn, -⟩
    · nofun
    · rintro _ ⟨⟩
      exact hn
  · refine List.forall_mem_cons.mpr ⟨?_, h.known⟩
    rw [hbase]
    nofun
  · intro b n hmem
    rcases List.mem_cons.mp hmem with heq | hmem
    · rcases hp with rfl | ⟨b', n', rfl, -, r, hr, htenancy⟩
      · cases heq
      · obtain ⟨rfl, rfl⟩ := TaskStage.keeper.inj heq
        exact .inr ⟨r, List.mem_cons_of_mem _ hr, htenancy⟩
    · exact (h.kept b n hmem).imp_right fun ⟨r, hr, htenancy⟩ =>
        ⟨r, List.mem_cons_of_mem _ hr, htenancy⟩

lemma leave (h : People trouble settings (p :: rest) s) (hp : p.Past) :
    People trouble settings rest s := by
  have hrest : ∀ r ∈ rest, r ∈ p :: rest := fun r => List.mem_cons_of_mem p
  refine ⟨fun r hr => h.stands r (hrest r hr), fun r hr => h.below r (hrest r hr),
    fun r hr => h.known r (hrest r hr),
    ((List.sublist_cons_self p rest).filterMap TaskStage.base?).nodup h.bases,
    ((List.sublist_cons_self p rest).filterMap TaskStage.lease?).nodup h.leases, fun b n hmem => ?_⟩
  refine (h.kept b n (hrest _ hmem)).imp_right fun ⟨r, hr, htenancy⟩ => ?_
  rcases List.mem_cons.mp hr with rfl | hr
  · cases r with
    | holder base number x =>
      obtain ⟨state, _ | _⟩ := x
      · cases hp
      · cases htenancy
    | _ => cases htenancy
  · exact ⟨r, hr, htenancy⟩

lemma knows (h : People trouble settings crew s) (hp : p ∈ crew) :
    (stageDiscipline trouble settings).knows p s := by
  have hstands := h.stands p hp
  cases p with
  | keeper b n =>
    refine (h.kept b n hp).symm.imp_left fun ⟨r, hr, htenancy⟩ => ?_
    have hr := h.stands r hr
    cases r with
    | holder base number x =>
      obtain ⟨state, _ | _⟩ := x
      · obtain ⟨rfl, rfl⟩ := Prod.mk.inj (Option.some.inj htenancy)
        obtain ⟨-, hknows⟩ := hr
        have hkept : ((link base).get s).Kept .lent _ _ _ := hknows
        exact ⟨hkept.place, hkept.lives⟩
      · cases htenancy
    | _ => cases htenancy
  | _ => exact hstands

end People

/-! ## Every step -/

lemma TaskStage.number_of_lease {n : Nat} (h : n ∈ p.lease?) : n ∈ p.number? := by
  cases p <;> first | exact h | cases h

lemma Resting.same (h : Resting floor issued s)
    (hlinks : ∀ m, ((link m).get s).Alike ((link m).get s'))
    (hcount : s'.linkCount = s.linkCount) (hidle : s'.books.idle = s.books.idle) :
    Resting floor (fun m => issued m + issues s s' m) s' := by
  refine h.step (fun m hm => ?_) (hidle ▸ h.nodup) hcount.ge (fun m hpool => .inl ?_)
    fun m => issues_unused
  · obtain ⟨hlt, next, hkept⟩ := h.rest m (hidle ▸ hm)
    exact ⟨hcount.symm ▸ hlt, next, hkept.alike (hlinks m)⟩
  · refine ⟨.of_alike (hlinks m) hpool, fun f c hnumbered => ?_⟩
    rw [issues_of_alike (hlinks m)]
    exact hnumbered.alike (hlinks m)

lemma Resting.take {base : Nat} (h : Resting floor issued s) (htaken : Taken base s s') :
    Resting floor (fun m => issued m + issues s s' m) s' := by
  cases htaken with
  | rested others count idle moved =>
    have hnodup := h.nodup
    rw [idle, List.nodup_cons] at hnodup
    obtain ⟨hlt, next, hkept⟩ := h.rest base (idle ▸ List.mem_cons_self)
    refine h.others others.links (fun m hm => .inl ⟨idle ▸ List.mem_cons_of_mem base hm, ?_⟩)
      hnodup.2
      count.ge fun _ => .inl ⟨.inr hkept.place, by rw [moved]; exact hkept.lives, ?_, hlt⟩
    · rintro rfl
      exact hnodup.1 hm
    · rw [moved]
      exact .refl _ _
  | new others count idle new =>
    obtain ⟨rfl, hcount⟩ := count
    have hlt : s.linkCount < s'.linkCount := hcount ▸ Nat.lt_succ_self _
    refine h.others others.links (fun m hm => .inl ?_) (idle ▸ h.nodup) hlt.le
      fun _ => .inr ⟨rfl, hlt, .lent, new⟩
    rw [idle] at hm
    exact ⟨hm, (h.rest m hm).1.ne⟩

lemma Resting.not_lent {base : Nat} {noted : Bool} {ids : List UInt64} {next : UInt64}
    (h : Resting floor issued s) (hkept : ((link base).get s).Kept .lent noted ids next) :
    base ∉ s.books.idle := by
  intro hmem
  obtain ⟨-, _, hrest⟩ := h.rest base hmem
  have hplace := hkept.place
  rw [hrest.place] at hplace
  cases hplace

lemma Resting.replenish (h : Resting floor issued s) (others : Others s.linkCount s s')
    (count : s'.linkCount = s.linkCount + 1) (idle : s'.books.idle = s.books.idle ++ [s.linkCount])
    (new : (link s.linkCount).get s' = { place := .idle }) :
    Resting floor (fun m => issued m + issues s s' m) s' := by
  have hlt : s.linkCount < s'.linkCount := count ▸ Nat.lt_succ_self _
  refine h.others others.links (fun m hm => ?_) ?_ hlt.le fun _ => .inr ⟨rfl, hlt, .idle, new⟩
  · rw [idle, List.mem_append, List.mem_singleton] at hm
    refine hm.imp (fun hm => ⟨hm, (h.rest m hm).1.ne⟩) fun hm => ⟨hm, hlt, 1, ?_⟩
    rw [new]
    exact .new .idle
  · rw [idle]
    refine List.nodup_append.mpr ⟨h.nodup, List.nodup_singleton _, ?_⟩
    rintro m hm _ hmem rfl
    exact (h.rest m hm).1.ne (List.mem_singleton.mp hmem)

/-- **A connection that is used** stays with whoever uses it. -/
lemma Resting.used {base number : Nat} {noted noted' : Bool} {ids ids' : List UInt64}
    {next next' : UInt64} (h : Resting floor issued s) (hlt : base < s.linkCount)
    (hkept : ((link base).get s).Kept .lent noted ids next) (spares : Spares base number s s')
    (idle : s'.books.idle = s.books.idle)
    (hkept' : ((link base).get s').Kept .lent noted' ids' next')
    (onward : Onward ids next ids' next') :
    Resting floor (fun m => issued m + issues s s' m) s' := by
  refine h.others spares.links (fun m hm => .inl ⟨idle ▸ hm, ?_⟩) (idle ▸ h.nodup)
    spares.linkCount.ge fun _ => .inl ⟨.inl hkept.place, hkept'.lives, ?_, hlt⟩
  · rintro rfl
    exact h.not_lent hkept (idle ▸ hm)
  · rw [hkept.statements, hkept.next, hkept'.statements, hkept'.next]
    exact onward

/-- **A connection that goes back** is let go, or is at rest from then on. -/
lemma Resting.back {base number : Nat} {noted : Bool} {ids : List UInt64} {next : UInt64}
    (h : Resting floor issued s) (hlt : base < s.linkCount)
    (hkept : ((link base).get s).Kept .lent noted ids next) (spares : Spares base number s s')
    (back : Back base next s s') : Resting floor (fun m => issued m + issues s s' m) s' := by
  have hlent := h.not_lent hkept
  rcases back with ⟨idle, hgone⟩ | ⟨idle, hrest⟩
  · refine h.others spares.links (fun m hm => .inl ⟨idle ▸ hm, ?_⟩) (idle ▸ h.nodup)
      spares.linkCount.ge fun hpool => ?_
    · rintro rfl
      exact hlent (idle ▸ hm)
    · rcases hpool with hpool | hpool <;> rw [hgone] at hpool <;> cases hpool
  · refine h.others spares.links (fun m hm => ?_) ?_ spares.linkCount.ge
      fun _ => .inl ⟨.inl hkept.place, hrest.lives, ?_, hlt⟩
    · rw [idle, List.mem_append, List.mem_singleton] at hm
      rcases hm with hm | hm
      · refine .inl ⟨hm, ?_⟩
        rintro rfl
        exact hlent hm
      · exact .inr ⟨hm, spares.linkCount.symm ▸ hlt, _, hrest⟩
    · rw [idle]
      refine List.nodup_append.mpr ⟨h.nodup, List.nodup_singleton _, ?_⟩
      rintro m hm _ hmem rfl
      exact hlent (List.mem_singleton.mp hmem ▸ hm)
    · rw [hkept.next, hrest.statements, hrest.next]
      exact .inl ⟨List.nil_subset _, rfl⟩

/-- **What a task does leaves the connections of the pool in order.** -/
lemma Resting.may (h : Resting floor issued s) (hs : p.Stands trouble settings s)
    (hknown : ∀ b ∈ p.base?, b < s.linkCount) (hmay : TaskStage.May trouble settings p s q s') :
    Resting floor (fun m => issued m + issues s s' m) s' := by
  cases hmay with
  | aside helse =>
    exact h.elsewhere _ helse fun m hm => hm.elim issues_of_alike issues_unused
  | take htaken => exact h.take htaken
  | replenish others count idle new => exact h.replenish others count idle new
  | lease | part | notice => exact h.same (fun _ => .refl _) rfl rfl
  | @use base number x y _ _ hmay =>
    obtain ⟨-, -, hhold⟩ := hmay
    obtain ⟨state, k⟩ := x
    obtain ⟨-, hknows⟩ := hs
    revert hhold
    generalize y.2 = k'
    intro hhold
    cases hhold with
    | leave spares idle alike =>
      refine h.same (fun m => ?_) spares.linkCount idle
      by_cases hm : m = base
      · exact hm ▸ alike
      · exact spares.links m hm
    | use spares idle kept onward => exact h.used (hknown base rfl) hknows spares idle kept onward
    | back spares back _ => exact h.back (hknown base rfl) hknows spares back

lemma Taken.others {base : Nat} (h : Taken base s s') : Others base s s' := by
  cases h with
  | rested others | new others => exact others

lemma Taken.linkCount_le {base : Nat} (h : Taken base s s') : s.linkCount ≤ s'.linkCount := by
  cases h with
  | rested _ count => exact count.ge
  | new _ count => exact count.2 ▸ Nat.le_succ _

lemma Taken.kept {base : Nat} (h : Taken base s s') (hresting : Resting floor issued s) :
    base < s'.linkCount ∧ ∃ next, ((link base).get s').Kept .lent false [] next := by
  cases h with
  | rested others count idle moved =>
    obtain ⟨hlt, next, hkept⟩ := hresting.rest base (idle ▸ List.mem_cons_self)
    exact ⟨count.symm ▸ hlt, next, moved ▸ hkept.move .lent⟩
  | new others count idle new =>
    obtain ⟨rfl, hcount⟩ := count
    exact ⟨hcount ▸ Nat.lt_succ_self _, 1, new ▸ .new .lent⟩

lemma Others.closed {base n : Nat} (h : Others base s s')
    (hdone : ((LeaseHost.leases n).get s).closed = true) :
    ((LeaseHost.leases n).get s').closed = true :=
  (congrArg LeaseState.closed (h.leases n) :).trans hdone

namespace People

/-- A connection that is taken is nobody else's. -/
lemma not_taken {base : Nat} (h : People trouble settings crew s)
    (hresting : Resting floor issued s) (htaken : Taken base s s') (hr : r ∈ crew) :
    r.base? ≠ some base := by
  intro hb
  have hplace := (h.stands r hr).lent hb
  have hlt := h.known r hr base hb
  cases htaken with
  | rested others count idle moved =>
    obtain ⟨-, next, hkept⟩ := hresting.rest base (idle ▸ List.mem_cons_self)
    rw [hkept.place] at hplace
    cases hplace
  | new others count idle new => exact absurd count.1 hlt.ne

lemma take {base : Nat} (h : People trouble settings (.outside :: rest) s)
    (hresting : Resting floor issued s) (htaken : Taken base s s') :
    People trouble settings (.opened base :: rest) s' := by
  have hfree : ∀ r ∈ rest, r.base? ≠ some base := fun r hr =>
    h.not_taken hresting htaken (List.mem_cons_of_mem _ hr)
  have others := htaken.others
  obtain ⟨hlt, hkept⟩ := htaken.kept hresting
  refine h.step hkept nofun ?_ nofun (fun r hr b hb => others.links b ?_)
    (fun _ _ n _ => others.leases n) (fun _ _ => others.closed) others.leaseCount.ge
    htaken.linkCount_le nofun nofun
  · rintro _ ⟨⟩
    exact ⟨hlt, hfree⟩
  · rintro rfl
    exact hfree r hr hb

lemma replenish (h : People trouble settings (.outside :: rest) s)
    (others : Others s.linkCount s s') (count : s'.linkCount = s.linkCount + 1) :
    People trouble settings (.outside :: rest) s' := by
  refine h.step trivial nofun nofun nofun (fun r hr b hb => others.links b ?_)
    (fun _ _ n _ => others.leases n) (fun _ _ => others.closed) others.leaseCount.ge
    (count ▸ Nat.le_succ _) nofun nofun
  exact (h.known r (List.mem_cons_of_mem _ hr) b hb).ne

/-- **A lease is new** to everybody else. -/
lemma lease {base : Nat} {next : UInt64} (h : People trouble settings (.opened base :: rest) s)
    (hkept : ((link base).get s).Kept .lent false [] next) :
    People trouble settings (.holder base s.leaseCount (Page.stage { next }) :: rest)
      (Pool.startWatchedLease base s).2 := by
  have hleases : ∀ n < s.leaseCount,
      (LeaseHost.leases n).get (Pool.startWatchedLease base s).2
        = (LeaseHost.leases n).get s := fun n hn =>
    Table.get_put_of_ne hn.ne s.leases _
  have hnew : (LeaseHost.leases s.leaseCount).get (Pool.startWatchedLease base s).2 = {} :=
    Table.get_put s.leases _ _
  have hfresh : ∀ r ∈ rest, ∀ n ∈ r.lease?, n < s.leaseCount := fun r hr n hn =>
    h.below r (List.mem_cons_of_mem _ hr) n (TaskStage.number_of_lease hn)
  refine h.step ⟨congrArg LeaseState.plain hnew, hkept⟩ ?_ ?_ ?_ (fun _ _ _ _ => .refl _)
    (fun r hr n hn => congrArg LeaseState.plain (hleases n (hfresh r hr n hn)))
    (fun n hn hdone => (congrArg LeaseState.closed (hleases n hn)).trans hdone) (Nat.le_succ _)
    (Nat.le_refl _) nofun nofun
  · rintro _ ⟨⟩
    exact Nat.lt_succ_self _
  · rintro _ ⟨⟩
    exact ⟨h.known _ List.mem_cons_self base rfl, fun r hr => h.other_base hr rfl⟩
  · rintro _ ⟨⟩ r hr hn
    exact (hfresh r hr _ hn).ne rfl

/-- **A connection that is used**, or that goes back, is nobody else's. -/
lemma links_of_hold {base number : Nat} {state : LeaseState} {k k' : Hold}
    (h : People trouble settings (.holder base number (state, k) :: rest) s)
    (hhold : Hold.May base number k s k' s') :
    ∀ r ∈ rest, ∀ b ∈ r.base?, ((link b).get s).Alike ((link b).get s') := by
  have hother : (TaskStage.holder base number (state, k)).base? = some base →
      ∀ r ∈ rest, ∀ b ∈ r.base?, b ≠ base := by
    rintro hbase r hr _ hb rfl
    exact h.other_base hr hbase hb
  intro r hr b hb
  cases hhold with
  | use spares _ _ _ => exact spares.links b (hother rfl r hr b hb)
  | back spares _ _ => exact spares.links b (hother rfl r hr b hb)
  | leave spares _ alike =>
    by_cases hbase : b = base
    · exact hbase ▸ alike
    · exact spares.links b hbase

lemma use {base number : Nat} {x y : LeaseState × Hold}
    (h : People trouble settings (.holder base number x :: rest) s)
    (hmay : (lodging trouble settings base number).may x s y s') :
    People trouble settings (.holder base number y :: rest) s' := by
  obtain ⟨hstate, hclosed, hhold⟩ := hmay
  obtain ⟨hbefore, -⟩ := h.stands _ List.mem_cons_self
  obtain ⟨state, k⟩ := x
  obtain ⟨state', k'⟩ := y
  have spares : Spares base number s s' := hhold.spares
  have hleases : ∀ n ≠ number, ((LeaseHost.leases n).get s').plain
    = ((LeaseHost.leases n).get s).plain :=
    spares.leases
  refine h.step ⟨hstate, ?_⟩ ?_ ?_ ?_ (h.links_of_hold hhold) (fun r hr n hn => hleases n ?_)
    (fun n hn hdone => ?_)
    spares.leaseCount.ge spares.linkCount.ge ?_ nofun
  · cases hhold with
    | use spares _ kept _ => exact kept
    | back | leave => trivial
  · exact fun n hn => spares.leaseCount.symm ▸ h.below _ List.mem_cons_self n hn
  · cases hhold with
    | use spares _ kept _ =>
      rintro _ ⟨⟩
      exact ⟨spares.linkCount.symm ▸ h.known _ List.mem_cons_self base rfl,
        fun r hr => h.other_base hr rfl⟩
    | back | leave => nofun
  · exact fun n hn r hr => h.other_lease hr hn
  · rintro rfl
    exact h.other_lease hr rfl hn
  · by_cases hnumber : n = number
    · subst hnumber
      have hdone' : state.closed = true := (congrArg LeaseState.closed hbefore).symm.trans hdone
      exact (congrArg LeaseState.closed hstate :).trans (hclosed hdone')
    · exact (congrArg LeaseState.closed (hleases n hnumber) :).trans hdone
  · cases hhold with
    | use => exact fun t ht => .inl ht
    | back _ _ hdone =>
      rintro _ ⟨⟩
      exact .inr hdone
    | leave => nofun

lemma notice {base number : Nat} (h : People trouble settings (.keeper base number :: rest) s)
    (hdone : ((LeaseHost.leases number).get s).closed = true) :
    People trouble settings (.late number :: rest) s := by
  refine h.step hdone ?_ nofun nofun (fun _ _ _ _ => .refl _) (fun _ _ _ _ => rfl) (fun _ _ => id)
    (Nat.le_refl _) (Nat.le_refl _) nofun nofun
  rintro _ ⟨⟩
  exact h.below _ List.mem_cons_self _ rfl

/-- **What a task does leaves the others what they have**; it may leave a job to be done. -/
lemma may (h : People trouble settings (p :: rest) s) (hresting : Resting floor issued s)
    (hmay : TaskStage.May trouble settings p s q s') :
    ∃ jobs due, s'.leaseJobs = s.leaseJobs ++ jobs ∧ List.Forall₂ Job.Is jobs due
      ∧ People trouble settings (q :: (rest ++ due)) s' := by
  -- Only a new lease and one that is dropped leave a job.
  have hidle : s'.leaseJobs = s.leaseJobs → People trouble settings (q :: rest) s' →
      ∃ jobs due, s'.leaseJobs = s.leaseJobs ++ jobs ∧ List.Forall₂ Job.Is jobs due
        ∧ People trouble settings (q :: (rest ++ due)) s' := fun hjobs hpeople =>
    ⟨[], [], by rw [hjobs, List.append_nil], .nil, by rwa [List.append_nil]⟩
  cases hmay with
  | aside helse =>
    exact hidle helse.jobs (h.same helse.lent helse.leases helse.leaseCount helse.linkCount)
  | take htaken => exact hidle htaken.others.jobs (h.take hresting htaken)
  | replenish others count => exact hidle others.jobs (h.replenish others count)
  | @lease base next _ kept =>
    have hjobs : (Pool.startWatchedLease base s).2.leaseJobs
        = s.leaseJobs ++ [.watch base s.leaseCount] :=
      World.leaseJobs_spawn (.watch base s.leaseCount) nofun _
    refine ⟨_, [.keeper base s.leaseCount], hjobs, .cons (.watch _ _) .nil, ?_⟩
    refine ((h.lease kept).cons (.inr ⟨base, s.leaseCount, rfl, Nat.lt_succ_self _, _,
      List.mem_cons_self, rfl⟩)).perm ?_
    rw [← List.cons_append]
    exact (List.perm_append_singleton _ _).symm
  | use hmay => exact hidle hmay.2.2.spares.jobs (h.use hmay)
  | @part base number page _ =>
    have hjobs := World.leaseJobs_spawn (.close base number) nofun s
    refine ⟨_, [.holder base number page.stage], hjobs, .cons (.close _ _ page) .nil, ?_⟩
    have hclosing : People trouble settings (.holder base number page.stage :: rest)
        (Host.spawn (.close base number) s) :=
      h.same (fun _ _ => .refl _) (fun _ => rfl) rfl (Nat.le_refl _)
    refine (hclosing.cons (.inl rfl)).perm (.cons _ ?_)
    exact (List.perm_append_singleton _ _).symm
  | notice hdone => exact hidle rfl (h.notice hdone)

end People

/-! ## At each moment -/

/-- **What is true at each moment** of the connections, the tasks and the jobs that are due. -/
def Order (trouble : Trouble) (settings : Settings) (floor issued : Nat → Nat) (p : TaskStage)
    (ps : List TaskStage) (s : World) : Prop :=
  Resting floor issued s
    ∧ ∃ due, List.Forall₂ Job.Is s.leaseJobs due ∧ People trouble settings (p :: (ps ++ due)) s

/-- **The jobs of a pool.** -/
def Jobs (trouble : Trouble) (settings : Settings) (job : Job) (task : Task World Unit) : Prop :=
  (∃ base number, (besetPool trouble settings).Jobs base number job task)
    ∨ job = .replenish ∧ task = (besetPool trouble settings).replenish

lemma leaseJobs_takeOff {n : TaskId} {job : Job} (h : Company.Due n job s) :
    s.leaseJobs.Perm ([job].filter (· ≠ .replenish)
      ++ (Company.takeOff (.start n job) s).leaseJobs) := by
  have hready : s.schedule.ready.Perm
      (.start n job :: (Company.takeOff (.start n job) s).schedule.ready) := List.perm_cons_erase h
  have hstarts : s.schedule.starts.Perm
      ((n, job) :: (Company.takeOff (.start n job) s).schedule.starts) := hready.filterMap _
  have hjobs := (hstarts.map Prod.snd).filter (· ≠ Job.replenish)
  rw [List.map_cons, ← List.singleton_append, List.filter_append] at hjobs
  exact hjobs

namespace Order

variable {ps before after : List TaskStage}

lemma perm_beside {due : List TaskStage} :
    (p :: (before ++ r :: after ++ due)).Perm (r :: ((p :: (before ++ after)) ++ due)) := by
  simpa using @List.perm_middle _ r (p :: before) (after ++ due)

/-- **Somebody moves.** -/
lemma move (hresting : Resting floor issued s) {due : List TaskStage}
    (hdue : List.Forall₂ Job.Is s.leaseJobs due)
    (h : People trouble settings (p :: (rest ++ due)) s)
    (hmay : TaskStage.May trouble settings p s q s') :
    Resting floor (fun m => issued m + issues s s' m) s'
      ∧ ∃ due', List.Forall₂ Job.Is s'.leaseJobs due' ∧ People trouble settings
        (q :: (rest ++ due')) s' := by
  obtain ⟨jobs, more, hjobs, hmore, hpeople⟩ := h.may hresting hmay
  refine ⟨hresting.may (h.stands p List.mem_cons_self) (h.known p List.mem_cons_self) hmay,
    due ++ more,
    hjobs ▸ List.rel_append hdue hmore, ?_⟩
  rwa [← List.append_assoc]

/-- **Every change upholds it.** -/
lemma upheld (opens : trouble.OpensNothing) {β : Type} {ends : β → TaskStage → Prop}
    (s s' : World) :
    Company.Upheld (stageDiscipline trouble settings) ends TaskStage.Past (Jobs trouble settings)
      (Order trouble settings floor issued)
      (Order trouble settings floor fun m => issued m + issues s s' m) s s' where
  knows := fun ⟨_, _, _, h⟩ => h.knows List.mem_cons_self
  knows_beside := fun ⟨_, _, _, h⟩ hq => h.knows
    (List.mem_cons_of_mem _ (List.mem_append_left _ hq))
  front := fun ⟨hresting, _, hdue, h⟩ hmay => move hresting hdue h hmay
  beside := by
    rintro p q q' before after - ⟨hresting, due, hdue, h⟩ hmay
    obtain ⟨hresting', due', hdue', hpeople⟩ := move hresting hdue (h.perm perm_beside) hmay
    exact ⟨hresting', due', hdue', hpeople.perm perm_beside.symm⟩
  gone := by
    rintro p q before after hpast ⟨hresting, due, hdue, h⟩
    exact ⟨hresting, due, hdue, (h.perm perm_beside).leave hpast⟩
  start := by
    rintro p ps n job task ⟨hresting, due, hdue, h⟩ hstart hjob rfl
    have hjobs := leaseJobs_takeOff hstart
    have hresting' : Resting floor (fun m => issued m
      + issues s (Company.takeOff (.start n job) s) m)
        (Company.takeOff (.start n job) s) := hresting.same (fun _ => .refl _) rfl rfl
    have hpeople : People trouble settings (p :: (ps ++ due)) (Company.takeOff (.start n job) s) :=
      h.same (fun _ _ => .refl _) (fun _ => rfl) rfl (Nat.le_refl _)
    -- The job that begins is one of those that are due, and so is what it is about.
    obtain ⟨all, hall, hperm⟩ := List.perm_comp_forall₂ hjobs.symm hdue
    rcases hjob with ⟨base, number, hjob⟩ | ⟨rfl, rfl⟩
    · have hlease : job ≠ .replenish := by
        rcases hjob with ⟨rfl, -⟩ | ⟨rfl, -⟩ <;> nofun
      rw [List.filter_cons_of_pos (by simpa using hlease)] at hall
      obtain ⟨q, due', his, hdue', rfl⟩ := List.forall₂_cons_left_iff.mp hall
      refine ⟨q, ?_, hresting', due', hdue', hpeople.perm (.cons _ ?_)⟩
      · rcases hjob with ⟨rfl, rfl⟩ | ⟨rfl, ownFirst, rfl⟩
        · cases his
          exact closer_keeps opens
        · cases his
          exact keeper_keeps ownFirst
      · rw [List.append_assoc]
        exact hperm.symm.append_left ps
    · refine ⟨.outside, replenish_keeps, hresting', all, hall, (hpeople.cons (.inl rfl)).perm ?_⟩
      rw [List.append_assoc]
      exact (@List.perm_middle _ .outside (p :: ps) due).symm.trans
        (.cons p (.append_left ps (.cons _ hperm.symm)))

end Order

end Engine

end Transactional
