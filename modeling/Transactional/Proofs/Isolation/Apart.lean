import Transactional.Proofs.Isolation.Solo

/-!
# A run among others

What the others do leaves the connection and the lease of a run alone.  Only those who look after
that very lease have an eye on it; and they do not close it, since the connection does not end
before the lease has been closed.

* `Phase.Owns`, `Phase.Spares`, `OtherStage.Fits` — which connection and which lease are the run's,
  and how the others keep off them.
* `Apart` — the run and the others are apart.
* `Apart.front`, `Apart.beside`, `Apart.start` — a step of the run, of one of the others, and a job
  that begins, keep them apart.
-/

namespace Transactional

variable {ψ ρ : Type}

namespace Phase

def base? : Phase ρ ψ → Option Nat
  | .seeking _ => none
  | .opened base _ | .leased base _ _ => some base

def number? : Phase ρ ψ → Option Nat
  | .leased _ number _ => some number
  | _ => none

def told : Phase ρ ψ → List ρ
  | .seeking _ => []
  | .opened _ k => k.told
  | .leased _ _ x => x.2.told

/-- A connection and a lease are the run's own. -/
def Owns (base number : Nat) (p : Phase ρ ψ) : Prop :=
  p.base? = some base ∧ p.number? = some number

/-- A connection and a lease are both somebody else's. -/
def Spares (base number : Nat) (p : Phase ρ ψ) : Prop :=
  p.base? ≠ some base ∧ p.number? ≠ some number

end Phase

/-- **One of the others keeps off** the connection and the lease of a run. -/
def OtherStage.Fits (p : Phase ρ ψ) (s : World) : OtherStage → Prop
  | .seeking => True
  | .opened base => base ≤ s.backend.linkCount ∧ p.base? ≠ some base
  | .holding base number =>
      base ≤ s.backend.linkCount ∧ number < s.leaseCount ∧ p.Spares base number
  | .watching base number =>
      base ≤ s.backend.linkCount ∧ number < s.leaseCount
        ∧ (p.Owns base number ∨ p.Spares base number)
  | .late base number =>
      base ≤ s.backend.linkCount ∧ number < s.leaseCount
        ∧ (p.Owns base number ∨ p.Spares base number)
        ∧ ((LeaseHost.leases number).get s).closed = true

def Job.Fits (p : Phase ρ ψ) (s : World) : Job → Prop
  | .watch base number => (OtherStage.watching base number).Fits p s
  | .close base number => (OtherStage.holding base number).Fits p s
  | .replenish => True

/-- **The run and the others are apart.** -/
structure Apart (S : Terms ρ ψ) (p : Phase ρ ψ) (otherStages : List OtherStage)
    (s : World) : Prop where
  knows : (solo S).knows p s
  closed : ∀ {base number x}, p = .leased base number x → x.2.gone = true → x.1.closed = true
  base : ∀ {base}, p.base? = some base → base ≤ s.backend.linkCount
  number : ∀ {number}, p.number? = some number → number < s.leaseCount
  fresh : p.base? = none → ∀ m, s.backend.linkCount < m → s.callsOn m = []
  otherStages : ∀ r ∈ otherStages, r.Fits p s
  due : ∀ entry ∈ s.schedule.starts, entry.2.Fits p s

variable {S : Terms ρ ψ} {p q : Phase ρ ψ} {s s' : World} {r r' : OtherStage} {job : Job}
  {otherStages before after : List OtherStage}

/-! ## Steps of the run -/

/-- **How a step of the run looks to others**: connections and leases only become more, no lease
opens again, and the run takes nobody else's. -/
structure Phase.Onward (p : Phase ρ ψ) (s : World) (q : Phase ρ ψ) (s' : World) : Prop where
  linkCount : s.backend.linkCount ≤ s'.backend.linkCount
  leaseCount : s.leaseCount ≤ s'.leaseCount
  closed : ∀ l < s.leaseCount, ((LeaseHost.leases l).get s).closed = true →
    ((LeaseHost.leases l).get s').closed = true
  base : ∀ b ≤ s.backend.linkCount, (q.base? = some b ↔ p.base? = some b)
  number : ∀ n < s.leaseCount, (q.number? = some n ↔ p.number? = some n)

namespace Phase.Onward

lemma owns (h : p.Onward s q s') {b n : Nat} (hb : b ≤ s.backend.linkCount)
    (hn : n < s.leaseCount) :
    q.Owns b n ↔ p.Owns b n :=
  and_congr (h.base b hb) (h.number n hn)

lemma spares (h : p.Onward s q s') {b n : Nat} (hb : b ≤ s.backend.linkCount)
    (hn : n < s.leaseCount) : q.Spares b n ↔ p.Spares b n :=
  and_congr (not_congr (h.base b hb)) (not_congr (h.number n hn))

lemma otherStage (h : p.Onward s q s') (hr : r.Fits p s) : r.Fits q s' := by
  cases r with
  | seeking => trivial
  | opened b =>
    obtain ⟨hb, hne⟩ := hr
    exact ⟨hb.trans h.linkCount, mt (h.base b hb).mp hne⟩
  | holding b n =>
    obtain ⟨hb, hn, hspares⟩ := hr
    exact ⟨hb.trans h.linkCount, hn.trans_le h.leaseCount, (h.spares hb hn).mpr hspares⟩
  | watching b n =>
    obtain ⟨hb, hn, hwhose⟩ := hr
    exact ⟨hb.trans h.linkCount, hn.trans_le h.leaseCount,
      hwhose.imp (h.owns hb hn).mpr (h.spares hb hn).mpr⟩
  | late b n =>
    obtain ⟨hb, hn, hwhose, hclosed⟩ := hr
    exact ⟨hb.trans h.linkCount, hn.trans_le h.leaseCount,
      hwhose.imp (h.owns hb hn).mpr (h.spares hb hn).mpr, h.closed n hn hclosed⟩

lemma work (h : p.Onward s q s') (hjob : job.Fits p s) : job.Fits q s' := by
  cases job with
  | watch b n => exact h.otherStage (r := .watching b n) hjob
  | close b n => exact h.otherStage (r := .holding b n) hjob
  | replenish => trivial

lemma of_outlook {E : Discipline World ψ} (h : s'.outlook E = s.outlook E) : p.Onward s p s' where
  linkCount := Nat.le_of_eq (congrArg Outlook.linkCount h).symm
  leaseCount := Nat.le_of_eq (congrArg Outlook.leaseCount h).symm
  closed l _ := (congrArg (fun o : Outlook ψ => (o.leases l).closed) h).trans
  base _ _ := Iff.rfl
  number _ _ := Iff.rfl

end Phase.Onward

lemma Advance.undrawn (hdraws : S.draws = false) (h : Advance S p s q s') :
    s'.backend.lastInsertId = s.backend.lastInsertId := by
  cases h with
  | seek _ _ hid => exact hid
  | reach | lease => rfl
  | call _ hknowing => exact (hknowing.resolve_left (by simp [hdraws])).2.1
  | work h => exact (h.2.2.2.1.resolve_left (by simp [hdraws])).2.1

/-- **A step of the run looks like that.** -/
lemma Advance.onward (hS : S.futures.Discreet S.heard) (hs : (solo S).knows p s)
    (h : Advance S p s q s') : p.Onward s q s' := by
  cases h with
  | seek houtlook => exact .of_outlook houtlook
  | reach =>
    have houtlook := World.outlook_newLink hS.toPrivate s
    have hcount : (Memory.newLink true s).2.backend.linkCount = s.backend.linkCount + 1 := rfl
    refine ⟨by omega, ?_, fun l _ => ?_, fun b hb => ?_, fun _ _ => Iff.rfl⟩
    · exact Nat.le_of_eq (congrArg Outlook.leaseCount houtlook).symm
    · exact (congrArg (fun o : Outlook ψ => (o.leases l).closed) houtlook).trans
    · simp only [Phase.base?, Option.some.injEq, reduceCtorEq, iff_false]
      omega
  | call hquiet =>
    refine ⟨Nat.le_of_eq (hquiet 0).linkCount.symm, Nat.le_of_eq (hquiet 0).leaseCount.symm,
      fun l _ => ?_, fun _ _ => Iff.rfl, fun _ _ => Iff.rfl⟩
    exact (congrArg LeaseState.closed ((hquiet (l + 1)).leases l (by omega))).trans
  | @lease b runState e =>
    have houtlook := World.outlook_startWatchedLease hS.toPrivate b s
    have hcount : (Pool.startWatchedLease b s).2.leaseCount = s.leaseCount + 1 := rfl
    refine ⟨Nat.le_refl _, by omega, fun l hl => ?_, fun _ _ => Iff.rfl, fun n hn => ?_⟩
    · refine (congrArg (fun o : Outlook ψ => (o.leases l).closed) houtlook).trans ∘ Eq.trans ?_
      exact congrArg LeaseState.closed (Function.update_of_ne (Nat.ne_of_lt hl) _ _)
    · simp only [Phase.number?, Option.some.injEq, reduceCtorEq, iff_false]
      omega
  | @work b n x y s s' h =>
    obtain ⟨hlease, hclosed, hquiet, -⟩ := h
    refine ⟨Nat.le_of_eq hquiet.linkCount.symm, Nat.le_of_eq hquiet.leaseCount.symm,
      fun l _ hl => ?_, fun _ _ => Iff.rfl, fun _ _ => Iff.rfl⟩
    by_cases heq : l = n
    · subst heq
      have hx : x.1.closed = true := (congrArg LeaseState.closed hs.1).symm.trans hl
      exact (congrArg LeaseState.closed hlease).trans (hclosed hx)
    · exact (congrArg LeaseState.closed (hquiet.leases l heq)).trans hl

/-- **What a step of the run tells about it**: its connection, and what it publishes. -/
structure Phase.Shows (S : Terms ρ ψ) (p : Phase ρ ψ) (s : World) (q : Phase ρ ψ) (s' : World) :
    Prop where
  base : q.base? = p.base?.or
    (if s'.backend.linkCount = s.backend.linkCount then none else some s'.backend.linkCount)
  told : ∃ more, S.heard s' = S.heard s ++ more ∧ q.told = p.told ++ more

/-- **The run knows as much after its step**, unless it has taken an id from the counter. -/
lemma Apart.shows (hS : S.futures.Discreet S.heard) (hs : Apart S p otherStages s)
    (h : Advance S p s q s') (hid : s'.backend.lastInsertId = s.backend.lastInsertId) :
    (solo S).knows q s' ∧ p.Shows S s q s' := by
  have hsame : ∀ {s s' : World} (base? : Option Nat), s'.backend.linkCount = s.backend.linkCount →
      base? = base?.or (if s'.backend.linkCount = s.backend.linkCount then none
        else some s'.backend.linkCount) := by
    intro s s' base? heq
    rw [if_pos heq, Option.or_none]
  cases h with
  | seek houtlook hshut _ hheard =>
    refine ⟨⟨houtlook ▸ hs.knows.1, hshut.trans hs.knows.2⟩, hsame _ ?_, [], ?_, rfl⟩
    · exact congrArg Outlook.linkCount houtlook
    · exact hheard.trans (List.append_nil _).symm
  | @reach e =>
    have houtlook := World.outlook_newLink hS.toPrivate s
    obtain ⟨⟨hresponses, hfailures, hunclosed, hrelied⟩, hshut⟩ := hs.knows
    refine ⟨⟨⟨?_, hshut, ?_⟩, ?_⟩, ?_, [], ?_, rfl⟩
    · rw [houtlook]
      exact ⟨hresponses, hfailures, hunclosed, hrelied⟩
    · rw [houtlook]
      exact hs.fresh rfl _ (Nat.lt_succ_self _)
    · rw [houtlook]
      show (Function.update (s.outlook S.futures).links (s.backend.linkCount + 1)
        { hasPermit := true } (s.backend.linkCount + 1)).plain = _
      rw [Function.update_self]
      rfl
    · have hcount : (Memory.newLink true s).2.backend.linkCount = s.backend.linkCount + 1 := rfl
      rw [hcount, if_neg (by omega)]
      rfl
    · rw [List.append_nil]
      exact (hS.unheard.backend _ _).trans (hS.unheard.backend _ s)
  | call hquiet hknowing =>
    obtain ⟨-, -, hid'⟩ | ⟨hknows, -, htold⟩ := hknowing
    · exact absurd hid hid'
    · exact ⟨hknows, hsame _ (hquiet 0).linkCount, htold⟩
  | @lease b runState e =>
    have houtlook := World.outlook_startWatchedLease hS.toPrivate b s
    obtain ⟨⟨⟨hresponses, hfailures, hunclosed, hrelied⟩, hshut, hcalls⟩, hlink⟩ := hs.knows
    refine ⟨⟨?_, ⟨?_, hshut, ?_⟩, ?_⟩, hsame _ rfl, [], ?_, ?_⟩
    · refine (congrArg (fun o : Outlook ψ => (o.leases s.leaseCount).plain) houtlook).trans ?_
      show (Function.update (s.outlook S.futures).leases s.leaseCount {} s.leaseCount).plain = _
      rw [Function.update_self]
      rfl
    · rw [houtlook]
      exact ⟨hresponses, hfailures, hunclosed, hrelied⟩
    · rw [houtlook]
      exact hcalls
    · rw [houtlook]
      exact hlink
    · rw [List.append_nil]
      refine (hS.unheard.schedule _ _).trans ((hS.unheard.leaseCount _ _).trans ?_)
      exact hS.unheard.leases _ _ s
    · rw [List.append_nil]
      rfl
  | work h =>
    obtain ⟨hlease, -, hquiet, hknowing, -⟩ := h
    obtain ⟨-, -, hid'⟩ | ⟨hknows, -, htold⟩ := hknowing
    · exact absurd hid hid'
    · exact ⟨⟨hlease, hknows⟩, hsame _ hquiet.linkCount, htold⟩

/-- The jobs that are due after a step of the run: the one that looks after its own lease is new. -/
lemma Apart.due_front (hS : S.futures.Discreet S.heard) (hs : Apart S p otherStages s)
    (h : Advance S p s q s') {entry : TaskId × Job} (hentry : entry ∈ s'.schedule.starts) :
    entry ∈ s.schedule.starts ∨ ∃ b n, entry.2 = .watch b n ∧ (OtherStage.watching b n).Fits
      q s' := by
  have hmem : ∀ {due : List (TaskId × Job)}, s'.schedule.starts = due → entry ∈ due :=
    fun heq => heq ▸ hentry
  cases h with
  | seek houtlook => exact .inl (hmem (congrArg Outlook.due houtlook))
  | reach => exact .inl (hmem (congrArg Outlook.due (World.outlook_newLink hS.toPrivate s)))
  | call hquiet => exact .inl (hmem (hquiet 0).due)
  | @lease b runState e =>
    have hdue := hmem (congrArg Outlook.due (World.outlook_startWatchedLease hS.toPrivate b s))
    refine (List.mem_append.mp hdue).imp_right fun hnew => ?_
    have hcount : (Pool.startWatchedLease b s).2.leaseCount = s.leaseCount + 1 := rfl
    refine ⟨b, s.leaseCount, by rw [List.mem_singleton.mp hnew]; rfl, hs.base rfl, by omega, ?_⟩
    exact .inl ⟨rfl, rfl⟩
  | work h => exact .inl (hmem h.2.2.1.due)

/-- **A step of the run keeps it apart from the others.** -/
theorem Apart.front (hS : S.futures.Discreet S.heard) (hs : Apart S p otherStages s)
    (h : Advance S p s q s') (hid : s'.backend.lastInsertId = s.backend.lastInsertId) :
    Apart S q otherStages s' := by
  have honward := h.onward hS hs.knows
  obtain ⟨hknows, hbase, -⟩ := hs.shows hS h hid
  refine ⟨hknows, ?_, fun {b} hb => ?_, ?_, ?_, fun r hr => honward.otherStage
    (hs.otherStages r hr),
    fun entry hentry => ?_⟩
  · rintro b n y rfl hgone
    cases h with
    | lease => cases hgone
    | work h =>
      obtain ⟨hlease, hclosed, -, -, hleft⟩ := h
      rcases hleft hgone with hleft | hleft
      · exact hclosed (hs.closed rfl hleft)
      · exact (congrArg LeaseState.closed hlease).symm.trans hleft
  · rw [hbase] at hb
    cases hp : p.base? with
    | some b' =>
      rw [hp] at hb
      obtain rfl : b' = b := by simpa using hb
      exact (hs.base hp).trans honward.linkCount
    | none =>
      rw [hp, Option.none_or] at hb
      split at hb
      · cases hb
      · exact Nat.le_of_eq (Option.some.inj hb).symm
  · intro n hn
    cases h with
    | lease =>
      obtain rfl := Option.some.inj hn
      exact Nat.lt_succ_self s.leaseCount
    | work h => exact (hs.number hn).trans_le honward.leaseCount
    | _ => cases hn
  · intro hnone
    cases h with
    | seek houtlook =>
      intro m hm
      have hcount := congrArg Outlook.linkCount houtlook
      exact (congrArg (fun o : Outlook ψ => o.calls m) houtlook).trans
        (hs.fresh rfl m (Nat.lt_of_le_of_lt (Nat.le_of_eq hcount.symm) hm))
    | _ => cases hnone
  · rcases hs.due_front hS h hentry with hold | ⟨b, n, hjob, hfits⟩
    · exact honward.work (hs.due entry hold)
    · rw [hjob]
      exact hfits

/-! ## Steps of the others -/

/-- **What one of the others may do**: it leaves the run's connection and lease alone, and what it
comes to be at keeps off them, and so do the jobs that become due. -/
structure Phase.Spared (S : Terms ρ ψ) (p : Phase ρ ψ) (s : World) (r' : OtherStage)
    (s' : World) : Prop
    extends p.Onward s p s' where
  steady : ∀ e, (s.outlook S.futures).Steady S.responses S.failures e →
    (s'.outlook S.futures).Steady S.responses S.failures e
  shut : s'.accounts.permits.shut = s.accounts.permits.shut
  link : ∀ b, p.base? = some b →
    ((s'.outlook S.futures).links b).plain = ((s.outlook S.futures).links b).plain
  calls : ∀ b, p.base? = some b ∨ s'.backend.linkCount < b →
    (s'.outlook S.futures).calls b = (s.outlook S.futures).calls b
  lease : ∀ n, p.number? = some n →
    ((s'.outlook S.futures).leases n).plain = ((s.outlook S.futures).leases n).plain
  otherStage : r'.Fits p s'
  due : ∀ entry ∈ s'.schedule.starts, entry ∈ s.schedule.starts ∨ entry.2.Fits p s'

lemma Phase.Spared.knows (h : p.Spared S s r' s') (hs : (solo S).knows p s) :
    (solo S).knows p s' := by
  have hknows : ∀ {b : Nat} {k : Knowledge ρ ψ}, p.base? = some b → k.Knows S b s →
    k.Knows S b s' := by
    intro b k hb hs
    have hknown : ∀ {runState : RunState ρ} {e : ψ}, runState.Known S b e s →
      runState.Known S b e s' :=
      fun hs => ⟨h.steady _ hs.steady, h.shut.trans hs.unshut, (h.calls b (.inl hb)).trans hs.calls⟩
    cases k with
    | informed runState e => exact ⟨hknown hs.1, (h.link b hb).trans hs.2⟩
    | left runState e => exact hknown hs
    | unsure => exact hs
  cases p with
  | seeking e => exact ⟨h.steady e hs.1, h.shut.trans hs.2⟩
  | opened b k => exact hknows rfl hs
  | leased b n x => exact ⟨(h.lease n rfl).trans hs.1, hknows rfl hs.2⟩

/-- **The connection of a run does not end before its lease has been closed.** -/
lemma Apart.not_owns {b n : Nat} (hs : Apart S p otherStages s) (hend : s.hasEnded b = true)
    (hopen : ((s.outlook S.futures).leases n).closed = false) : ¬p.Owns b n := by
  rintro ⟨hb, hn⟩
  cases p with
  | seeking e => cases hb
  | opened b k => cases hn
  | leased b' n' x =>
    obtain rfl := Option.some.inj hb
    obtain rfl := Option.some.inj hn
    obtain ⟨state, k⟩ := x
    obtain ⟨hlease, hknows⟩ := hs.knows
    cases k with
    | informed runState e =>
      have halive : ((Memory.link b').get s).alive = true := congrArg Memory.Link.alive hknows.2
      have hnot : s.hasEnded b' = false := by
        simp [World.hasEnded, Watch.ending?, Memory.connection, status_of_informed hknows, halive,
          Status.isTerminal]
      rw [hnot] at hend
      cases hend
    | left runState e =>
      have hclosed : state.closed = true := hs.closed rfl rfl
      have hplain : ((LeaseHost.leases n').get s).plain.closed = state.closed :=
        congrArg LeaseState.closed hlease
      have hnot : state.closed = false := hplain.symm.trans hopen
      rw [hclosed] at hnot
      cases hnot
    | unsure => exact hknows.elim

/-- **A change of one connection and one lease** that the run does not mind. -/
lemma spared_of_touches {base number : Option Nat} (h : World.Touches S.futures base number s s')
    (hlink : ∀ b, base = some b → p.base? = some b →
      ((s'.outlook S.futures).links b).plain = ((s.outlook S.futures).links b).plain)
    (hcalls : ∀ b, base = some b → p.base? = some b ∨ s.backend.linkCount < b →
      (s'.outlook S.futures).calls b = (s.outlook S.futures).calls b)
    (hlease : ∀ n, number = some n → p.number? = some n →
      ((s'.outlook S.futures).leases n).plain = ((s.outlook S.futures).leases n).plain)
    (hdue : ∀ entry ∈ s'.schedule.starts, entry ∈ s.schedule.starts ∨ entry.2.Fits p s)
    (hr : r.Fits p s) : p.Spared S s r s' := by
  have hlinkCount : s'.backend.linkCount = s.backend.linkCount := h.seen.linkCount
  have honward : p.Onward s p s' := by
    refine ⟨Nat.le_of_eq hlinkCount.symm, Nat.le_of_eq h.seen.leaseCount.symm,
      fun l _ hl => h.seen.closed l hl, fun _ _ => Iff.rfl, fun _ _ => Iff.rfl⟩
  refine ⟨honward, fun e => h.seen.steady, h.shut, fun b hb => ?_, fun b hb => ?_, fun n hn => ?_,
    honward.otherStage hr, fun entry hentry => (hdue entry hentry).imp_right honward.work⟩
  · by_cases hbase : base = some b
    · exact hlink b hbase hb
    · rw [h.seen.links b hbase]
  · by_cases hbase : base = some b
    · exact hcalls b hbase (hlinkCount ▸ hb)
    · exact h.seen.calls b hbase
  · by_cases hnumber : number = some n
    · exact hlease n hnumber hn
    · rw [h.seen.leases n hnumber]

lemma OtherStage.Fits.base {b : Nat} (hr : r.Fits p s) (hb : r.base? = some b) :
    b ≤ s.backend.linkCount ∧ p.base? ≠ some b := by
  cases r with
  | opened b' =>
    obtain rfl := Option.some.inj hb
    exact hr
  | holding b' n' =>
    obtain rfl := Option.some.inj hb
    exact ⟨hr.1, hr.2.2.1⟩
  | _ => cases hb

lemma OtherStage.Fits.number {n : Nat} (hr : r.Fits p s) (hn : r.number? = some n) :
    p.number? ≠ some n ∧ ∀ b, r.base? = some b → (OtherStage.holding b n).Fits p s := by
  cases r with
  | holding b' n' =>
    obtain rfl := Option.some.inj hn
    refine ⟨hr.2.2.2, fun b hb => ?_⟩
    obtain rfl := Option.some.inj hb
    exact hr
  | _ => cases hn

lemma spared_of_touch (hr : r.Fits p s) (h : World.Touches S.futures r.base? r.number? s s') :
    p.Spared S s r s' := by
  refine spared_of_touches h (fun b hb hp => absurd hp (hr.base hb).2) (fun b hb hp => ?_)
    (fun n hn hp => absurd hp (hr.number hn).1) (fun entry hentry => ?_) hr
  · obtain ⟨hle, hne⟩ := hr.base hb
    exact hp.elim (fun h => absurd h hne) fun h => absurd hle (Nat.not_le.mpr h)
  · refine (h.seen.due entry hentry).imp_right ?_
    rintro ⟨b, n, hb, hn, hjob⟩
    rw [hjob]
    exact (hr.number hn).2 b hb

lemma spared_of_glance {b n : Nat} (hr : r.Fits p s)
    (h : World.Glances S.futures b n s s') : p.Spared S s r s' := by
  refine spared_of_touches h.touches ?_ ?_ ?_ (fun entry hentry => .inl ?_) hr
  · rintro _ ⟨⟩ -
    exact h.link
  · rintro _ ⟨⟩ -
    exact h.calls
  · rintro _ ⟨⟩ -
    exact h.lease
  · exact (show s'.schedule.starts = s.schedule.starts from h.due) ▸ hentry

lemma spared_of_same (hr : r.Fits p s) : p.Spared S s r s := by
  have hrefl : World.Touches S.futures none none s s := .refl s
  exact spared_of_touches hrefl nofun nofun nofun (fun _ => .inl) hr

lemma Apart.spared_of_reach (hS : S.futures.Discreet S.heard) (hs : Apart S p otherStages s) :
    p.Spared S s (.opened ((s.outlook S.futures).linkCount + 1)) (Memory.newLink true s).2 := by
  have houtlook := World.outlook_newLink hS.toPrivate s
  have hcount : (Memory.newLink true s).2.backend.linkCount = s.backend.linkCount + 1 := rfl
  have honward : p.Onward s p (Memory.newLink true s).2 := by
    refine ⟨by omega, ?_, fun l _ => ?_, fun _ _ => Iff.rfl, fun _ _ => Iff.rfl⟩
    · exact Nat.le_of_eq (congrArg Outlook.leaseCount houtlook).symm
    · exact (congrArg (fun o : Outlook ψ => (o.leases l).closed) houtlook).trans
  refine ⟨honward, fun e hsteady => ?_, rfl, fun b hb => ?_, fun b _ => ?_, fun n _ => ?_,
    ⟨Nat.le_refl _, fun hb => ?_⟩, fun entry hentry => .inl ?_⟩
  · rw [houtlook]
    exact ⟨hsteady.responses, hsteady.failures, hsteady.unclosed, hsteady.relied⟩
  · rw [houtlook]
    have hne : b ≠ s.backend.linkCount + 1 := Nat.ne_of_lt (Nat.lt_succ_of_le (hs.base hb))
    exact congrArg Memory.Link.plain (Function.update_of_ne hne _ _)
  · rw [houtlook]
  · rw [houtlook]
  · exact absurd (hs.base hb) (Nat.not_succ_le_self _)
  · have hdue : (Memory.newLink true s).2.schedule.starts = s.schedule.starts :=
      congrArg Outlook.due houtlook
    exact hdue ▸ hentry

lemma Apart.spared_of_lease {b : Nat} (hS : S.futures.Discreet S.heard)
    (hs : Apart S p otherStages s)
    (hr : (OtherStage.opened b).Fits p s) :
    p.Spared S s (.holding b (s.outlook S.futures).leaseCount) (Pool.startWatchedLease b s).2 := by
  have houtlook := World.outlook_startWatchedLease hS.toPrivate b s
  have hcount : (Pool.startWatchedLease b s).2.leaseCount = s.leaseCount + 1 := rfl
  have hnew : p.number? ≠ some s.leaseCount := fun hn => absurd (hs.number hn) (Nat.lt_irrefl _)
  have hlease : ∀ n < s.leaseCount, ((Pool.startWatchedLease b s).2.outlook S.futures).leases n
      = (s.outlook S.futures).leases n := by
    intro n hn
    rw [houtlook]
    exact Function.update_of_ne (Nat.ne_of_lt hn) _ _
  have honward : p.Onward s p (Pool.startWatchedLease b s).2 :=
    ⟨Nat.le_refl _, by omega, fun l hl => (congrArg LeaseState.closed (hlease l hl)).trans,
      fun _ _ => Iff.rfl, fun _ _ => Iff.rfl⟩
  refine ⟨honward, fun e hsteady => ?_, rfl, fun b _ => ?_, fun b _ => ?_, fun n hn => ?_,
    ⟨hr.1, by rw [hcount]; exact Nat.lt_succ_self _, hr.2, hnew⟩, fun entry hentry => ?_⟩
  · rw [houtlook]
    exact ⟨hsteady.responses, hsteady.failures, hsteady.unclosed, hsteady.relied⟩
  · rw [houtlook]
  · rw [houtlook]
  · rw [hlease n (hs.number hn)]
  · have hdue : (Pool.startWatchedLease b s).2.schedule.starts
        = s.schedule.starts ++ [(s.schedule.nextTask, .watch b s.leaseCount)] :=
      congrArg Outlook.due houtlook
    rw [hdue, List.mem_append, List.mem_singleton] at hentry
    refine hentry.imp_right ?_
    rintro rfl
    exact ⟨hr.1, by omega, .inr ⟨hr.2, hnew⟩⟩

/-- **What one of the others does leaves the run alone.** -/
lemma Stir.spared (hS : S.futures.Discreet S.heard) (hs : Apart S p otherStages s) (hr : r.Fits p s)
    (h : Stir S.futures r s r' s') : p.Spared S s r' s' := by
  cases h with
  | touch h => exact spared_of_touch hr h
  | reach => exact hs.spared_of_reach hS
  | lease => exact hs.spared_of_lease hS hr
  | @glance b n _ _ _ hstage h =>
    obtain rfl | rfl := hstage <;> exact spared_of_glance hr h
  | notice hclosed => exact spared_of_same ⟨hr.1, hr.2.1, hr.2.2, hclosed⟩
  | seize hend hopen =>
    exact spared_of_same ⟨hr.1, hr.2.1, hr.2.2.resolve_left (hs.not_owns hend hopen)⟩

/-- **The run and the others stay apart.** -/
lemma Apart.spare {otherStages' : List OtherStage} (hs : Apart S p otherStages s)
    (h : p.Spared S s r s')
    (hstages : ∀ r' ∈ otherStages', r' ∈ otherStages ∨ r' = r) : Apart S p otherStages' s' where
  knows := h.knows hs.knows
  closed := hs.closed
  base hb := (hs.base hb).trans h.linkCount
  number hn := (hs.number hn).trans_le h.leaseCount
  fresh hnone m hm := (h.calls m (.inr hm)).trans (hs.fresh hnone m (h.linkCount.trans_lt hm))
  otherStages r' hr' := by
    rcases hstages r' hr' with hold | rfl
    · exact h.toOnward.otherStage (hs.otherStages r' hold)
    · exact h.otherStage
  due entry hentry := (h.due entry hentry).elim (fun hold => h.toOnward.work (hs.due entry hold)) id

/-- **A step of one of the others keeps the run apart from them.** -/
theorem Apart.beside (hS : S.futures.Discreet S.heard) (before : List OtherStage)
    (hs : Apart S p (before ++ r :: after) s)
    (h : Stir S.futures r s r' s') : Apart S p (before ++ r' :: after) s' := by
  refine hs.spare (h.spared hS hs (hs.otherStages r (by simp))) fun r₁ hr₁ => ?_
  simp only [List.mem_append, List.mem_cons] at hr₁ ⊢
  tauto

lemma Apart.come (hs : Apart S p otherStages s) : Apart S p (otherStages ++ [.seeking]) s :=
  hs.spare (r := .seeking) (spared_of_same trivial) fun r' hr' => by simpa using hr'

lemma Apart.leave (before : List OtherStage) (hs : Apart S p (before ++ r :: after) s) :
    Apart S p (before ++ after) s := by
  refine hs.spare (r := .seeking) (spared_of_same trivial) fun r₁ hr₁ => ?_
  simp only [List.mem_append, List.mem_cons] at hr₁ ⊢
  tauto

lemma Apart.around (hs : Apart S p otherStages s) (h : World.Harmless S.futures s s') :
    Apart S p otherStages s' := by
  have htouches : World.Touches S.futures none none s s' := h.touches
  have hspared : p.Spared S s .seeking s' := by
    refine spared_of_touches htouches nofun nofun nofun (fun entry hentry => .inl ?_) trivial
    exact h.elsewhere.due ▸ hentry
  exact hs.spare hspared fun _ => .inl

/-- **A job that begins keeps the run apart from the others.** -/
theorem Apart.start (hS : S.futures.Discreet S.heard) (hs : Apart S p otherStages s)
    {number : TaskId}
    (hdue : Company.Due number job s) (hr : job.Fits p s → r.Fits p s) :
    Apart S p (otherStages ++ [r]) (Company.takeOff (.start number job) s) := by
  have houtlook := World.outlook_setSchedule hS.toPrivate
    { s.schedule with ready := s.schedule.ready.erase (.start number job) } s
  have honward : p.Onward s p (Company.takeOff (.start number job) s) :=
    ⟨Nat.le_refl _, Nat.le_refl _, fun _ _ => id, fun _ _ => Iff.rfl, fun _ _ => Iff.rfl⟩
  have hfits : r.Fits p s := hr (hs.due (number, job) (Company.due_iff.mp hdue))
  have hspared : p.Spared S s r (Company.takeOff (.start number job) s) := by
    refine ⟨honward, fun e hsteady => ?_, rfl, fun _ _ => rfl, fun _ _ => rfl, fun _ _ => rfl,
      honward.otherStage hfits, fun entry hentry => .inl ?_⟩
    · rw [show (Company.takeOff (.start number job) s).outlook S.futures = _ from houtlook]
      exact ⟨hsteady.responses, hsteady.failures, hsteady.unclosed, hsteady.relied⟩
    · obtain ⟨turn, hturn, heq⟩ := List.mem_filterMap.mp hentry
      exact List.mem_filterMap.mpr ⟨turn, List.erase_subset hturn, heq⟩
  exact hs.spare hspared fun r' hr' => by simpa using hr'

end Transactional
