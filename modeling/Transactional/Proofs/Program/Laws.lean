import Transactional.Proofs.Run.Account

/-!
# The laws of putting programs together

Two programs are alike if nothing around them can tell them apart: whatever is pending, the walk
goes on with either of them in the same way, the same is done on the way, and a whole run with
either of them inside is the same run.  Since a walk hands the exit of what runs now to what is
pending, it is enough that the accounts of the two programs by themselves are the same, and this is
an equation between tasks.

* `Frame.around` — a stack of what is pending, as the program around its hole.
* `Program.Alike` — two programs that nothing around them can tell apart; it is an equivalence, and
  programs put together from programs that are alike are alike.
* **`composition_laws`** — binds may be regrouped, `finish` is neutral on both sides, and changing a
  value twice is changing it once.
-/

namespace Transactional

/-- **The program around a hole**: what is pending there, the innermost first. -/
def Frame.around : List (Frame σ) → Program σ → Program σ
  | [], p => p
  | .pending k :: rest, p => around rest (.andThen p k)
  | .scopeEnd :: rest, p => around rest (.scope p)

lemma Walk.run_around (conn : Connection σ) (events : List Event) (frames : List (Frame σ)) :
    ∀ p : Program σ, run conn (Frame.around frames p) [] events = run conn p frames events := by
  induction frames with
  | nil => exact fun p => rfl
  | cons frame rest ih =>
    intro p
    cases frame with
    | pending k => rw [Frame.around, ih, run]
    | scopeEnd => rw [Frame.around, ih, run]

namespace Program

/-- **Two programs that nothing around them can tell apart.** -/
structure Alike (p q : Program σ) : Prop where
  /-- Whatever is pending, and whatever was announced before, the walks are the same task: they give
  the same result and the same events from every state, with the same changes and waits. -/
  walk : ∀ (conn : Connection σ) (frames : List (Frame σ)) (events : List Event),
    Walk.run conn p frames events = Walk.run conn q frames events
  /-- The same operations are performed and the same futures are awaited, in the same order and with
  the same outcomes. -/
  account : ∀ (conn : Connection σ) (frames : List (Frame σ)),
    (Frame.around frames p).account conn = (Frame.around frames q).account conn
  runs : ∀ [LeaseHost σ] (manager : Manager σ) (sink : Sink σ) (limit : Option Duration)
    (frames : List (Frame σ)),
    runWith manager sink limit (Frame.around frames p)
      = runWith manager sink limit (Frame.around frames q)

variable {p q r : Program σ} {f g : Value → Program σ}

/-- What is around two programs with the same account makes programs with the same account. -/
lemma account_around {conn : Connection σ} (frames : List (Frame σ)) :
    ∀ {p q : Program σ}, p.account conn = q.account conn →
      (Frame.around frames p).account conn = (Frame.around frames q).account conn := by
  induction frames with
  | nil => exact id
  | cons frame rest ih =>
    intro p q h
    cases frame with
    | pending k => exact ih (by simp only [account, h])
    | scopeEnd => exact ih (by simp only [account, h])

lemma run_eq_of_account {conn : Connection σ} (h : p.account conn = q.account conn)
    (frames : List (Frame σ)) (events : List Event) :
    Walk.run conn p frames events = Walk.run conn q frames events := by
  rw [Walk.run_eq_deliver, Walk.run_eq_deliver, meaning_eq_account, meaning_eq_account, h]

/-- **Programs with the same account are alike.** -/
theorem Alike.of_account (h : ∀ conn : Connection σ, p.account conn = q.account conn) :
    Alike p q where
  walk conn frames events := run_eq_of_account (h conn) frames events
  account conn frames := account_around frames (h conn)
  runs manager sink limit frames := by
    have hwalk : ∀ conn : Connection σ,
        (Frame.around frames p).runOn conn = (Frame.around frames q).runOn conn := by
      intro conn
      rw [runOn, runOn, Walk.run_around, Walk.run_around]
      exact run_eq_of_account (h conn) frames []
    unfold runWith Run.on Run.body
    simp only [hwalk]

namespace Alike

lemma account_eq (h : Alike p q) (conn : Connection σ) : p.account conn = q.account conn :=
  h.account conn []

/-! ## Putting programs together that are alike -/

lemma refl (p : Program σ) : Alike p p := of_account fun _ => rfl

lemma symm (h : Alike p q) : Alike q p := of_account fun conn => (h.account_eq conn).symm

lemma trans (h : Alike p q) (h' : Alike q r) : Alike p r :=
  of_account fun conn => (h.account_eq conn).trans (h'.account_eq conn)

lemma scope (h : Alike p q) : Alike (.scope p) (.scope q) :=
  of_account fun conn => h.account conn [.scopeEnd]

lemma andThen (h : Alike p q) (hnext : ∀ v, Alike (f v) (g v)) :
    Alike (.andThen p f) (.andThen q g) :=
  of_account fun conn => by
    simp only [Program.account, h.account_eq conn, fun v => (hnext v).account_eq conn]

/-! ## The laws -/

/-- **Binds may be regrouped.** A skip or a failure of the first passes both continuations by, one
of the second only the last. -/
lemma assoc (p : Program σ) (f g : Value → Program σ) :
    Alike (.andThen (.andThen p f) g) (.andThen p fun v => .andThen (f v) g) := by
  refine of_account fun conn => ?_
  simp only [Program.account, Task.bind_assoc]
  refine congrArg _ (funext fun told => ?_)
  obtain ⟨exit, deeds⟩ := told
  cases exit with
  | skipped v => rfl
  | failed fault => rfl
  | value v =>
    simp only [Task.bind_assoc, Task.done_bind]
    refine congrArg _ (funext fun told => ?_)
    obtain ⟨exit, more⟩ := told
    cases exit with
    | skipped w => rfl
    | failed fault => rfl
    | value w => simp only [Task.bind_assoc, Task.done_bind, List.append_assoc]

/-- **A value goes on to its continuation.** -/
lemma finish_andThen (v : Value) (f : Value → Program σ) :
    Alike (.andThen (.finish v) f) (f v) := by
  refine of_account fun conn => ?_
  simp only [Program.account, Task.done_bind, List.nil_append]
  exact Task.bind_done _

/-- **Going on with the value alone changes nothing.** -/
lemma andThen_finish (p : Program σ) : Alike (.andThen p .finish) p := by
  refine of_account fun conn => ?_
  simp only [Program.account, Task.done_bind, List.append_nil]
  refine Eq.trans (congrArg _ (funext fun told => ?_)) (Task.bind_done _)
  obtain ⟨exit, deeds⟩ := told
  cases exit <;> rfl

/-- **Changing a value twice is changing it once.** -/
lemma map_map (p : Program σ) (a b : Value → Value) :
    Alike ((p.map a).map b) (p.map (b ∘ a)) :=
  (assoc p _ _).trans ((refl p).andThen fun v => finish_andThen (a v) _)

end Alike

end Program

/-- **The laws of putting programs together.**  For all programs, continuations and values, nothing
around them can tell apart: a bind of a bind and the bind with the second one inside the
continuation; a bind after `finish` and its continuation; a bind with `finish` and its first part;
two changes of a value and their composition. -/
theorem composition_laws (p : Program σ) (f g : Value → Program σ) (v : Value)
    (a b : Value → Value) :
    Program.Alike (.andThen (.andThen p f) g) (.andThen p fun x => .andThen (f x) g)
      ∧ Program.Alike (.andThen (.finish v) f) (f v)
      ∧ Program.Alike (.andThen p .finish) p
      ∧ Program.Alike ((p.map a).map b) (p.map (b ∘ a)) :=
  ⟨.assoc p f g, .finish_andThen v f, .andThen_finish p, .map_map p a b⟩

end Transactional
