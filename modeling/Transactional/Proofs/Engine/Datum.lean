import Mathlib
import Transactional.Engine.Datum
import Transactional.Json.Reader
import Transactional.Proofs.Codec.Shapes
import Transactional.Proofs.Json.Values
import Transactional.Proofs.Timestamp.Stored

/-!
# What comes back of a stored value

The engine stores five classes of values, and scalars of the other kinds are stored as one of
these.  A truth value and the time that a timestamp shows can be had again from what comes back, and
so can structured data that has no floating-point number in it and is not too deep for the reader.

* `Json.ofText_text` — structured data is read back from its text.
* **`Datum.toScalar_toDatum`** — what comes back, for scalars of every kind.
-/

namespace Transactional

/-- **Structured data is read back** from its text, unless it has floating-point numbers or is too
deep. -/
lemma Json.ofText_text {j : Json} (h : j.Exact) (hdepth : j.nesting < 128) :
    ofText j.text = .ok j :=
  Decoder.whole_written (reads_value h (Nat.le_of_lt_succ hdepth))

/-- **A stored value can be had again.**  The text that comes back of a timestamp is used as the
time that it shows, which is the timestamp unless that has a leap second in the middle of a minute,
and a truth value is what the number is used as; structured data comes back as its text, which is
read as what it was if it has no floating-point number and is less than 128 deep; every other scalar
is what it was.  Those timestamps are stored alike that show the same time. -/
theorem Datum.toScalar_toDatum :
    (∀ t : Timestamp, (Scalar.timestamp t).toDatum.toScalar.asTimestamp = some t.settled
        ∧ (t.settled = t ↔ t.IsSettled))
      ∧ (∀ b : Bool, (Scalar.bool b).toDatum.toScalar.asBool = some b)
      ∧ (∀ j : Json, (Scalar.json j).toDatum.toScalar = .text j.text
        ∧ (j.Exact → j.nesting < 128 → Json.ofText j.text = .ok j))
      ∧ (∀ v : Scalar, (∀ t, v ≠ .timestamp t) → (∀ b, v ≠ .bool b) → (∀ j, v ≠ .json j) →
        v.toDatum.toScalar = v)
      ∧ ∀ t u : Timestamp,
        (Scalar.timestamp t).toDatum = (Scalar.timestamp u).toDatum ↔ t.settled = u.settled := by
  refine ⟨fun t => ⟨Timestamp.ofText?_spaced t, Timestamp.settled_eq_iff⟩, ?_,
    fun j => ⟨rfl, Json.ofText_text⟩, ?_, ?_⟩
  · intro b
    cases b <;> rfl
  · intro v htimestamp hbool hjson
    cases v with
    | timestamp t => exact absurd rfl (htimestamp t)
    | bool b => exact absurd rfl (hbool b)
    | json j => exact absurd rfl (hjson j)
    | int | float | text | null | blob => rfl
  · intro t u
    have htexts : (Scalar.timestamp t).toDatum = (Scalar.timestamp u).toDatum
        ↔ t.spaced = u.spaced := ⟨Datum.text.inj, congrArg Datum.text⟩
    exact htexts.trans Timestamp.spaced_eq_iff

/-- A leap second in the first year there is, nested data with the greatest integer, and bytes. -/
theorem Datum.toScalar_toDatum_samples :
    let stamp : Timestamp := ⟨-262143, 12, 31, 23, 59, 59, 1000000001, by decide, by decide⟩
    let data : Json := .obj [("a", .arr [.int (2 ^ 64 - 1), .null]), ("b", .str "\"\u0001é")]
    (Scalar.timestamp stamp).toDatum.toScalar.asTimestamp = some stamp
      ∧ (data.Exact ∧ data.nesting < 128 ∧ Json.ofText data.text = .ok data)
      ∧ (Scalar.blob [0, 255]).toDatum.toScalar = .blob [0, 255] := by
  intro stamp data
  obtain ⟨htimestamp, -, hjson, hother, -⟩ := Datum.toScalar_toDatum
  have hstamp := (htimestamp stamp).1
  have hitems : ∀ item ∈ [Json.int (2 ^ 64 - 1), .null], item.Exact := by
    simpa using And.intro (Json.Exact.int (by decide) (by decide)) Json.Exact.null
  have hdata : data.Exact := by
    refine .obj (by decide) ?_
    simpa using And.intro (Json.Exact.arr hitems) (Json.Exact.str "\"\u0001é")
  have hdepth : data.nesting < 128 := by decide
  exact ⟨hstamp, ⟨hdata, hdepth, (hjson data).2 hdata hdepth⟩,
    hother (.blob [0, 255]) (by simp) (by simp) (by simp)⟩

/-- **What does not come back as what it was**, though it is no NaN: structured data that is a
floating-point number comes back as a text, and a leap second in the middle of a minute as the next
second, whose text it shares. -/
theorem Datum.not_as_stored :
    let v : Scalar := .json (.float ⟨0x3ff8000000000000⟩)
    let stamp : Timestamp := ⟨2015, 6, 30, 23, 56, 4, 1333333333, by decide, by decide⟩
    let next : Timestamp := ⟨2015, 6, 30, 23, 56, 5, 333333333, by decide, by decide⟩
    ((∀ t, v ≠ .timestamp t) ∧ (∀ b, v ≠ .bool b) ∧ (∀ j : Json, v = .json j → ¬ j.Exact)
        ∧ v.toDatum.toScalar = .text "1.5" ∧ v.toDatum.toScalar ≠ v)
      ∧ (Scalar.timestamp stamp).toDatum.toScalar.asTimestamp = some next
      ∧ stamp ≠ next ∧ (Scalar.timestamp stamp).toDatum = (Scalar.timestamp next).toDatum := by
  intro v stamp next
  have htext : v.toDatum.toScalar = .text "1.5" := congrArg Scalar.text (by decide +kernel)
  have hsettled : stamp.settled = next := by
    have hnano : stamp.nanosecond - 1000000000 = 333333333 := by norm_num [stamp]
    rw [Timestamp.settled, dif_neg (by decide)]
    congr
  have hshared : stamp.spaced = next.spaced := by
    rw [← hsettled, Timestamp.spaced_settled]
  have hread : Timestamp.ofText? stamp.spaced = some next :=
    hsettled ▸ Timestamp.ofText?_spaced stamp
  refine ⟨⟨by simp [v], by simp [v], ?_, htext, by simp [v, htext]⟩, hread, by simp [stamp, next],
    congrArg Datum.text hshared⟩
  intro j h hexact
  rw [← Scalar.json.inj h] at hexact
  cases hexact

end Transactional
