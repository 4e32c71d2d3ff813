import Mathlib
import Transactional.Codec
import Transactional.Proofs.Options.Limits
import Transactional.Registry

/-!
# Options that the pool cannot be built with

The pool demands capacity and patience.  Options are looked at before the pool is built, but only
for their capacity: options of which the patience is less than a millisecond are accepted, and the
pool fails.

* `Options.no_patience_iff` — a limit of less than a millisecond is none at all.
* `Engine.demand_of_prepare_iff` — when a demand of the pool is not met.
* **`Engine.demand_of_accepted_iff`** — of options that are accepted, by every way in.
* `Engine.accepted_without_patience` — there are such options, also among those that are read from a
  text.
-/

namespace Transactional

/-! ## Capacity and patience -/

lemma Options.no_patience_iff (options : Options) :
    options.connectionTimeout.toNanos = 0 ↔ options.connectionTimeoutMs = 0 := by
  rw [connectionTimeout, Duration.toNanos_ofMillis, Nat.mul_eq_zero, ← UInt64.toNat_inj]
  simp

lemma Options.validate_eq_ok_iff (options : Options) :
    options.validate = .ok () ↔ options.maxConnections ≠ 0 := by
  unfold validate
  split_ifs with hzero <;> simp [hzero]

namespace Engine

variable {options : Options}

/-! ## Demands of the pool -/

lemma demand_of_settings_iff :
    (∃ message, Settings.ofOptions options = .error (.demand message))
      ↔ options.maxConnections = 0 ∨ options.connectionTimeoutMs = 0 := by
  have hcapacity : options.maxConnections = 0 ↔ ¬ 0 < options.maxConnections.toNat := by
    rw [← UInt32.toNat_inj, Nat.pos_iff_ne_zero, not_not]
    rfl
  have hpatience : options.connectionTimeoutMs = 0 ↔ ¬ 0 < options.connectionTimeoutMs.toNat := by
    rw [← UInt64.toNat_inj, Nat.pos_iff_ne_zero, not_not]
    rfl
  rw [hcapacity, hpatience]
  unfold Settings.ofOptions
  by_cases hm : 0 < options.maxConnections.toNat
  · by_cases hp : 0 < options.connectionTimeoutMs.toNat <;> simp [hm, hp]
  · simp [hm]

/-- **A demand of the pool is not met** if the database can be opened and the options are accepted,
and there is no patience. -/
lemma demand_of_prepare_iff :
    (∃ message, prepare options = .error (.demand message))
      ↔ openable options.target = .ok () ∧ options.validate = .ok
        () ∧ options.connectionTimeoutMs = 0 := by
  unfold prepare
  cases hopen : openable options.target with
  | error fault => simp
  | ok _ =>
    cases hvalid : options.validate with
    | error fault => simp
    | ok _ =>
      have hcapacity := (options.validate_eq_ok_iff).mp hvalid
      have hsettings : (∃ message, Settings.ofOptions options = .error (.demand message))
          ↔ options.maxConnections = 0 ∨ options.connectionTimeoutMs = 0 := demand_of_settings_iff
      simpa [hcapacity] using hsettings

lemma openable_fault {path : String} {fault : Fault} (h : openable path = .error fault) :
    ∃ message, fault = .engine message := by
  unfold openable at h
  dsimp only at h
  split_ifs at h <;> simp at h
  · exact ⟨_, h.symm⟩
  · exact ⟨_, h.symm⟩

lemma fault_ne_other {fault : Fault} (h : prepare options = .error (.fault fault))
    (message : String) :
    fault ≠ .other message := by
  unfold prepare at h
  cases hopen : openable options.target with
  | error found =>
    obtain ⟨text, rfl⟩ := openable_fault hopen
    rw [hopen] at h
    cases h
    simp
  | ok _ =>
    rw [hopen] at h
    unfold Options.validate Settings.ofOptions at h
    split_ifs at h <;> cases h <;> simp

/-! ## Managers of the engine -/

/-- The fault that is raised: a demand that is not met is one that nobody prepared for. -/
def Refusal.raised : Refusal → Fault
  | .fault f => f
  | .demand text => .other text

def answer (options : Options) : Except Fault (Manager World) :=
  match prepare options with
  | .ok settings => .ok { World.manager (pool settings) with timeout := options.transactionTimeout }
  | .error refusal => .error refusal.raised

lemma createManager_answers (hvalid : options.validate = .ok ()) (self : TaskId) (s : World) :
    ((Registry.builtin.createManager BuiltinDriver.engine.name options).run.poll self s).1.result?
      = some (answer options) := by
  have hfind : Registry.builtin.find? BuiltinDriver.engine.name
    = some BuiltinDriver.engine.build := rfl
  unfold Registry.createManager answer
  rw [hvalid, hfind]
  dsimp only
  cases hprepare : prepare options with
  | ok settings =>
    have hbuild : BuiltinDriver.engine.build options = .step fun s =>
      (.ok (pool settings), World.withEngine s) := by
      simp only [BuiltinDriver.build, hprepare]
    rw [hbuild]
    rfl
  | error refusal =>
    have hbuild : BuiltinDriver.engine.build options = .step fun s =>
      (.error refusal.raised, s) := by
      cases refusal <;> simp only [BuiltinDriver.build, hprepare, Refusal.raised]
    rw [hbuild]
    rfl

lemma answer_eq_other_iff :
    (∃ message, answer options = .error (.other message)) ↔ ∃ message, prepare options = .error
      (.demand message) := by
  unfold answer
  cases hprepare : prepare options with
  | ok settings => simp
  | error refusal =>
    cases refusal with
    | fault fault => simpa [Refusal.raised] using fault_ne_other hprepare
    | demand message => simp [Refusal.raised]

/-- **When options that are accepted meet a demand of the pool.**  It is when the pool is handed no
time at all to wait, and the database can be opened; then building the pool fails, and so does
asking for a manager.  Otherwise either gives a result or a fault.  The limit of an option is no
time at all if it is less than a millisecond. -/
theorem demand_of_accepted_iff (options : Options) (accepted : options.validate = .ok ()) :
    ((∃ message, Settings.ofOptions options = .error (.demand message))
      ↔ options.connectionTimeout.toNanos = 0)
      ∧ ((∃ message, prepare options = .error (.demand message))
        ↔ openable options.target = .ok () ∧ options.connectionTimeout.toNanos = 0)
      ∧ (∀ self s, (∃ message,
          ((Registry.builtin.createManager BuiltinDriver.engine.name options).run.poll self
            s).1.result?
            = some (.error (.other message)))
        ↔ openable options.target = .ok () ∧ options.connectionTimeout.toNanos = 0)
      ∧ ∀ (before : Options) (limit : Duration), options = before.withConnectionTimeout limit →
        (options.connectionTimeout.toNanos = 0 ↔ limit.toNanos < 1000000) := by
  have hcapacity : options.maxConnections ≠ 0 := options.validate_eq_ok_iff.mp accepted
  have hpatience := options.no_patience_iff
  have hprepare : (∃ message, prepare options = .error (.demand message))
      ↔ openable options.target = .ok () ∧ options.connectionTimeout.toNanos = 0 := by
    rw [demand_of_prepare_iff, hpatience]
    simp [accepted]
  refine ⟨?_, hprepare, fun self s => ?_, ?_⟩
  · rw [demand_of_settings_iff, hpatience]
    simp [hcapacity]
  · rw [createManager_answers accepted, ← hprepare, ← answer_eq_other_iff]
    simp
  · rintro before limit rfl
    rw [hpatience]
    exact limit.toMillis_eq_zero_iff

/-- A limit of one nanosecond. -/
theorem demand_of_accepted_nanosecond :
    let options := (Options.new ":memory:").withConnectionTimeout ⟨0, 1, by decide⟩
    options.validate = .ok () ∧ ∃ message, prepare options = .error (.demand message) := by
  intro options
  have accepted : options.validate = .ok () := by decide
  obtain ⟨-, hprepare, -, hlimit⟩ := demand_of_accepted_iff options accepted
  have hopen : openable options.target = .ok () := by decide +kernel
  exact ⟨accepted, hprepare.mpr ⟨hopen, (hlimit _ _ rfl).mpr (by decide)⟩⟩

/-- **Options that are read from a text and accepted**, and no pool can be built with them. -/
theorem accepted_without_patience :
    ∃ options, Options.ofText "\x7b\"target\":\":memory:\",\"connection_timeout_ms\":0\x7d"
      = .ok options
      ∧ options.validate = .ok ()
      ∧ prepare options = .error (.demand "connection_timeout must be non-zero") := by
  have hopen : openable ":memory:" = .ok () := by decide +kernel
  refine ⟨⟨":memory:", 10, 0, none⟩, by cbv, by decide, ?_⟩
  unfold prepare
  rw [hopen]
  rfl

end Engine

end Transactional
