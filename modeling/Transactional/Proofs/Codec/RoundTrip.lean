import Transactional.Codec
import Transactional.Proofs.Codec.Shapes
import Transactional.Proofs.Json.Values
import Transactional.Proofs.Timestamp.RoundTrip

/-!
# Serialised data read back

Reading undoes writing: every scalar, record, statement kind and event without floating-point
numbers is read back from its JSON text, if the text is not too deep for a reader, and so are all
options.  Whether options make sense is then all that decides whether they are accepted.  Timestamps
are read back as the times that their texts show, which is what they were unless they have a leap
second in the middle of a minute.

* `Scalar.Exact`, `Record.Exact` — no floating-point number anywhere.
* `Scalar.settled`, `Record.settled` — the times that timestamps show, in their places.
* `Scalar.reads`, `Record.reads`, `StatementKind.reads`, `Event.reads`, `Options.reads` — each
  reader undoes the writer of its type.
* `decode_encoded` — complete texts.
-/

namespace Transactional

open Json Decoder

variable {depth : Nat}

/-! ## Written forms -/

lemma write_tagged (name : String) (content : Json) :
    (Json.obj [(name, content)]).write = writeMembers [(name, content.write)] := by
  rw [write, memberWriters, memberWriters]

lemma nesting_tagged (name : String) (content : Json) :
    (Json.obj [(name, content)]).nesting = content.nesting + 1 := by
  rw [nesting, nestingMembers, nestingMembers, Nat.max_zero]

lemma write_arr (items : List Json) : (Json.arr items).write = writeList (items.map write) := by
  rw [write, writers_eq]

/-! ## Scalars -/

namespace Scalar

/-- **A scalar without floating-point numbers.** -/
def Exact : Scalar → Prop
  | .float _ => False
  | .json j => j.Exact
  | _ => True

/-- A scalar, with the time that it shows if it is a timestamp. -/
def settled : Scalar → Scalar
  | .timestamp t => .timestamp t.settled
  | v => v

lemma settled_eq_iff {v : Scalar} : v.settled = v ↔ ∀ t, v = .timestamp t → t.IsSettled := by
  cases v with
  | timestamp t => simp [settled, Timestamp.settled_eq_iff]
  | int | float | text | bool | null | json | blob => simp [settled]

lemma reads_int (i : Int64) : intDecoder.Reads (writeInt i.toInt) i := by
  have hleast : -Int.pow 2 63 ≤ i.toInt := i.le_toInt
  have hgreatest : i.toInt ≤ Int.pow 2 63 - 1 := Int.le_sub_one_of_lt i.toInt_lt
  have hread := (reads_integer "i64" hleast hgreatest (by decide) (by decide)).map Int64.ofInt
  rwa [Int64.ofInt_toInt] at hread

lemma reads_byte (b : UInt8) : byteDecoder.Reads (writeInt b.toNat) b := by
  have hgreatest : (b.toNat : Int) ≤ 255 := by
    have := b.toNat_lt
    omega
  have hread := (reads_integer "u8" (Int.natCast_nonneg b.toNat) hgreatest (by decide)
    (by decide)).map fun i => UInt8.ofNat i.toNat
  rwa [Int.toNat_natCast, UInt8.ofNat_toNat] at hread

lemma reads_timestamp (t : Timestamp) : timestampDecoder.Reads (writeText t.joined) t.settled := by
  refine reads_atom (.writeText _) (fun _ _ => leaf_writeText t.joined) ?_
  simp only [Timestamp.read_joined]

lemma reads_blob (bytes : List UInt8) :
    (Decoder.list (fun _ => byteDecoder) (depth + 1)).Reads
      (Json.arr (bytes.map fun b => .int b.toNat)).write bytes := by
  rw [write_arr, List.map_map]
  refine reads_list ?_
  rw [List.forall₂_map_left_iff]
  refine List.forall₂_same.mpr fun b _ => ?_
  have hwrite : (write ∘ fun b : UInt8 => Json.int b.toNat) b = writeInt b.toNat := by
    rw [Function.comp, write]
  rw [hwrite]
  exact reads_byte b

lemma reads_argument {name : String} {content : Json} (make : α → Scalar)
    {inner : Nat → Decoder α} {a : α}
    (hfind : findVariant variants name = .ok (.of name make inner))
    (hdepth : (tagged name content).nesting ≤ depth)
    (hcontent : ∀ {depth}, content.nesting ≤ depth → (inner depth).Reads content.write a) :
    (decoder depth).Reads (tagged name content).write (make a) := by
  rw [tagged, nesting_tagged] at hdepth
  obtain ⟨depth, rfl⟩ := Nat.exists_eq_add_one.mpr (Nat.zero_lt_of_lt hdepth)
  rw [tagged, write_tagged]
  exact reads_tagged hfind ((hcontent (Nat.le_of_succ_le_succ hdepth)).map make)

/-- **The reader of scalars undoes the writer of them.** -/
theorem reads {v : Scalar} (h : v.Exact) (hdepth : v.encoded.nesting ≤ depth) :
    (decoder depth).Reads v.encoded.write v.settled := by
  cases v with
  | int i =>
    refine reads_argument .int rfl hdepth fun _ => ?_
    rw [write]
    exact reads_int i
  | float x => exact h.elim
  | text s =>
    refine reads_argument .text rfl hdepth fun _ => ?_
    rw [write]
    exact reads_text s
  | bool b =>
    refine reads_argument .bool rfl hdepth fun _ => ?_
    rw [write]
    exact reads_bool b
  | timestamp t =>
    refine reads_argument .timestamp rfl hdepth fun _ => ?_
    rw [write]
    exact reads_timestamp t
  | null =>
    have hwrite : Scalar.null.encoded.write = writeText "Null" := by
      rw [encoded, write]
    rw [hwrite]
    exact reads_bare rfl rfl
  | json j => exact reads_argument .json rfl hdepth fun hj => reads_value h hj
  | blob bytes =>
    refine reads_argument .blob rfl hdepth fun {depth} hbytes => ?_
    rw [nesting] at hbytes
    obtain ⟨depth, rfl⟩ := Nat.exists_eq_add_one.mpr (Nat.zero_lt_of_lt hbytes)
    exact reads_blob bytes

end Scalar

/-! ## Records -/

namespace Record

/-- **A record without floating-point numbers.** -/
def Exact (record : Record) : Prop :=
  ∀ pair ∈ record.fields, pair.2.Exact

/-- A record, with the times that its timestamps show. -/
def settled (record : Record) : Record :=
  ⟨record.fields.map fun pair => (pair.1, pair.2.settled)⟩

lemma settled_eq_iff {record : Record} :
    record.settled = record ↔ ∀ pair ∈ record.fields, ∀ t, pair.2 = .timestamp t → t.IsSettled := by
  have hfields : record.settled = record
      ↔ record.fields.map (fun pair => (pair.1, pair.2.settled)) = record.fields.map id := by
    rw [List.map_id]
    exact ⟨congrArg fields, fun h => congrArg Record.mk h⟩
  rw [hfields, List.map_inj_left]
  refine forall₂_congr fun pair _ => ?_
  rw [← Scalar.settled_eq_iff, Prod.ext_iff]
  exact and_iff_right rfl

lemma reads_pair {column : String} {v : Scalar} (h : v.Exact)
    (hdepth : (Json.arr [.str column, v.encoded]).nesting ≤ depth) :
    (Decoder.pair (fun _ => Decoder.text) Scalar.decoder depth).Reads
      (Json.arr [.str column, v.encoded]).write (column, v.settled) := by
  rw [nesting, nestingItems, nestingItems, nestingItems] at hdepth
  obtain ⟨depth, rfl⟩ := Nat.exists_eq_add_one.mpr (Nat.zero_lt_of_lt hdepth)
  have hwrite : [Json.str column, v.encoded].map write = [writeText column, v.encoded.write] := by
    rw [List.map_cons, write, List.map_cons, List.map_nil]
  rw [write_arr, hwrite]
  exact Decoder.reads_pair (reads_text column) (v.reads h (by omega))

/-- **The reader of records undoes the writer of them**, also of one with repeated columns. -/
theorem reads {record : Record} (h : record.Exact) (hdepth : record.encoded.nesting ≤ depth) :
    (decoder depth).Reads record.encoded.write record.settled := by
  obtain ⟨fields⟩ := record
  let item (pair : String × Scalar) : Json := .arr [.str pair.1, pair.2.encoded]
  have hencoded : Record.encoded ⟨fields⟩ = .obj [("fields", .arr (fields.map item))] := rfl
  rw [hencoded, nesting_tagged, nesting] at hdepth
  obtain ⟨depth, rfl⟩ : ∃ inner, depth = inner + 2 := ⟨depth - 2, by omega⟩
  have hpairs : List.Forall₂ (Decoder.pair (fun _ => Decoder.text) Scalar.decoder depth).Reads
      ((fields.map item).map write) (fields.map fun pair => (pair.1, pair.2.settled)) := by
    rw [List.map_map, List.forall₂_map_left_iff, List.forall₂_map_right_iff]
    refine List.forall₂_same.mpr fun pair hpair => reads_pair (h pair hpair) ?_
    have hitem : (item pair).nesting ≤ nestingItems (fields.map item) :=
      nesting_item (List.mem_map_of_mem hpair)
    exact hitem.trans (by omega)
  have hfill : Fills fieldDecoders (depth + 1)
    [("fields", writeList ((fields.map item).map write))] none
      (some (fields.map fun pair => (pair.1, pair.2.settled))) :=
    .field rfl rfl ((reads_list hpairs).map some) (.done rfl)
  rw [hencoded, write_tagged, write_arr]
  exact (reads_fields hfill).map fun pairs => (⟨pairs.getD []⟩ : Record)

end Record

/-! ## Statement kinds -/

/-- **The reader of statement kinds undoes the writer of them.** -/
theorem StatementKind.reads (kind : StatementKind) :
    (decoder depth).Reads kind.encoded.write kind := by
  rw [encoded, write]
  cases kind <;> exact reads_bare rfl rfl

/-! ## Events -/

/-- **The reader of events undoes the writer of them.** -/
theorem Event.reads {event : Event} (h : event.payload.Exact)
    (hdepth : event.encoded.nesting ≤ depth) :
    (decoder depth).Reads event.encoded.write event := by
  obtain ⟨type, payload⟩ := event
  simp only [encoded, nesting, nestingMembers] at hdepth
  obtain ⟨depth, rfl⟩ := Nat.exists_eq_add_one.mpr (Nat.zero_lt_of_lt hdepth)
  let typed : Partial := { type := some type }
  have hpayload : (Json.value depth).Reads payload.write payload := reads_value h (by omega)
  have hfill : Fills fieldDecoders depth [("event_type", writeText type),
    ("payload", payload.write)] {}
      { type := some type, payload := some payload } :=
    .field rfl rfl ((reads_text type).map fun s => ({ type := some s } : Partial))
      (.field rfl rfl (hpayload.map fun j => { typed with payload := some j }) (.done rfl))
  have hwrite : (Event.encoded ⟨type, payload⟩).write
      = writeMembers [("event_type", writeText type), ("payload", payload.write)] := by
    rw [encoded, write, memberWriters, memberWriters, memberWriters, write]
  rw [hwrite]
  exact (reads_fields hfill).map fun p => (⟨p.type.getD "", p.payload.getD .null⟩ : Event)

/-! ## Options -/

namespace Options

lemma reads_word (n : UInt64) : wordDecoder.Reads (writeInt n.toNat) n := by
  have hgreatest : (n.toNat : Int) ≤ Int.pow 2 64 - 1 := by
    have hlt := n.toNat_lt
    have hpow : Int.pow 2 64 = 2 ^ 64 := rfl
    omega
  have hread := (reads_integer "u64" (Int.natCast_nonneg n.toNat) hgreatest (by decide)
    (by decide)).map fun i => UInt64.ofNat i.toNat
  rwa [Int.toNat_natCast, UInt64.ofNat_toNat] at hread

lemma reads_count (n : UInt32) :
    (integer "u32" 0 (Int.pow 2 32 - 1)).Reads (writeInt n.toNat) n.toNat := by
  have hgreatest : (n.toNat : Int) ≤ Int.pow 2 32 - 1 := by
    have hlt := n.toNat_lt
    have hpow : Int.pow 2 32 = 2 ^ 32 := rfl
    omega
  exact reads_integer "u32" (Int.natCast_nonneg n.toNat) hgreatest (by decide) (by decide)

/-- How a limit that may be missing is written. -/
def writeLimit : Option UInt64 → Writer
  | some ms => writeInt ms.toNat
  | none => prepend "null"

lemma reads_limit (limit : Option UInt64) :
    (optional wordDecoder).Reads (writeLimit limit) limit := by
  cases limit with
  | none => exact reads_none wordDecoder
  | some ms =>
    refine reads_some (reads_word ms) fun rest => ?_
    obtain ⟨d, more, hd, hdigits⟩ := Text.natural_starts ms.toNat
    have hwrite : writeLimit (some ms) rest = d.digitChar :: (more ++ rest) := by
      rw [writeLimit, writeInt, prepend]
      change (Text.natural ms.toNat).toList ++ rest = _
      rw [Text.toList_natural, hdigits, List.cons_append]
    rw [hwrite, List.head?_cons]
    interval_cases d <;> decide

/-- **The reader of options undoes the writer of them.** -/
theorem reads (options : Options) : (decoder (depth + 1)).Reads options.write options := by
  obtain ⟨target, count, wait, limit⟩ := options
  let first : Partial := { target := some target }
  let second : Partial := { first with maxConnections := some count }
  let third : Partial := { second with connectionTimeoutMs := some wait }
  have hcount : UInt32.ofNat (count.toNat : Int).toNat = count := by
    rw [Int.toNat_natCast, UInt32.ofNat_toNat]
  have hsecond := (reads_count count).map fun i =>
    { first with maxConnections := some (UInt32.ofNat i.toNat) }
  rw [hcount] at hsecond
  have hfill : Fills fieldDecoders depth
      [("target", writeText target), ("max_connections", writeInt count.toNat),
        ("connection_timeout_ms", writeInt wait.toNat),
          ("transaction_timeout_ms", writeLimit limit)]
      {} { third with transactionTimeoutMs := some limit } :=
    .field rfl rfl ((reads_text target).map fun s => ({ target := some s } : Partial))
      (.field rfl rfl hsecond
        (.field rfl rfl ((reads_word wait).map fun ms =>
          { second with connectionTimeoutMs := some ms })
          (.field rfl rfl ((reads_limit limit).map fun ms =>
            { third with transactionTimeoutMs := some ms })
            (.done rfl))))
  have hwrite : Options.write ⟨target, count, wait, limit⟩
      = writeMembers [("target", writeText target), ("max_connections", writeInt count.toNat),
        ("connection_timeout_ms", writeInt wait.toNat),
          ("transaction_timeout_ms", writeLimit limit)] := by
    cases limit <;> rfl
  rw [hwrite]
  exact (reads_fields hfill).map Partial.complete

/-- **Options are accepted** unless they leave the pool without capacity. -/
lemma accepted (options : Options) :
    (match options.validate with
      | .ok () => .ok options
      | .error fault => .error fault : Except Fault Options)
      = if 1 ≤ options.maxConnections then .ok options
        else .error (.configuration "max_connections must be at least 1") := by
  have hpositive : 1 ≤ options.maxConnections ↔ options.maxConnections ≠ 0 := by
    rw [UInt32.le_iff_toNat_le, ne_eq, ← UInt32.toNat_inj]
    exact Nat.one_le_iff_ne_zero
  unfold validate
  by_cases hzero : options.maxConnections = 0
  · rw [if_pos hzero, if_neg fun h => hpositive.mp h hzero]
  · rw [if_neg hzero, if_pos (hpositive.mpr hzero)]

end Options

/-! ## Complete texts -/

lemma decode_written {decoder : Nat → Decoder α} {w : Writer} {a : α}
    (h : (decoder depthLimit).Reads w a) : decode decoder (String.ofList (w [])) = .ok a := by
  rw [decode, whole_written h]

/-- **Reading undoes writing**, for every type of data that is serialised and every value of it
without floating-point numbers whose lists and objects lie less than 128 deep inside each other: a
timestamp is read back as the time that its text shows, and everything else as what it was.  Options
that are read back are accepted unless they leave the pool without capacity. -/
theorem decode_encoded :
    (∀ v : Scalar, v.Exact → v.encoded.nesting < 128 →
        decode Scalar.decoder v.encoded.text = .ok v.settled
          ∧ (v.settled = v ↔ ∀ t, v = .timestamp t → t.IsSettled))
      ∧ (∀ record : Record, record.Exact → record.encoded.nesting < 128 →
        decode Record.decoder record.encoded.text = .ok record.settled
          ∧ (record.settled = record
            ↔ ∀ pair ∈ record.fields, ∀ t, pair.2 = .timestamp t → t.IsSettled))
      ∧ (∀ kind : StatementKind, decode StatementKind.decoder kind.encoded.text = .ok kind)
      ∧ (∀ event : Event, event.payload.Exact → event.encoded.nesting < 128 →
        decode Event.decoder event.encoded.text = .ok event)
      ∧ ∀ options : Options, decode Options.decoder options.text = .ok options
        ∧ Options.ofText options.text = if 1 ≤ options.maxConnections then .ok options
          else .error (.configuration "max_connections must be at least 1") := by
  refine ⟨fun v h hdepth => ⟨decode_written (v.reads h (Nat.le_of_lt_succ hdepth)),
    Scalar.settled_eq_iff⟩,
    fun record h hdepth =>
      ⟨decode_written (record.reads h (Nat.le_of_lt_succ hdepth)), Record.settled_eq_iff⟩,
    fun kind => decode_written kind.reads,
    fun event h hdepth => decode_written (event.reads h (Nat.le_of_lt_succ hdepth)),
    fun options => ?_⟩
  have hreads : (Options.decoder depthLimit).Reads options.write options := options.reads
  refine ⟨decode_written hreads, ?_⟩
  rw [Options.ofText, Options.text, whole_written hreads]
  exact options.accepted

/-- A record with a repeated column, a leap second in a year of six digits and nested data, an event
with the greatest integer, and the options of a pool without capacity. -/
theorem decode_encoded_samples :
    let stamp : Timestamp := ⟨-262143, 12, 31, 23, 59, 59, 1000000001, by decide, by decide⟩
    let payload : Json := .obj [("a", .arr [.int (2 ^ 64 - 1), .null]), ("b", .str "\"\u0001é")]
    let record : Record := ⟨[("at", .timestamp stamp), ("at", .json payload), ("n", .int (-5))]⟩
    let event : Event := ⟨"saved", payload⟩
    (record.Exact ∧ record.encoded.nesting < 128
        ∧ decode Record.decoder record.encoded.text = .ok record)
      ∧ (event.payload.Exact ∧ event.encoded.nesting < 128
        ∧ decode Event.decoder event.encoded.text = .ok event)
      ∧ Options.ofText (Options.text { target := "app.db", maxConnections := 0 })
        = .error (.configuration "max_connections must be at least 1") := by
  intro stamp payload record event
  have hitems : ∀ item ∈ [Json.int (2 ^ 64 - 1), .null], item.Exact :=
    List.forall_mem_cons.mpr
      ⟨.int (by decide) (by decide), List.forall_mem_cons.mpr ⟨.null, List.forall_mem_nil _⟩⟩
  have hpayload : payload.Exact :=
    .obj (by decide) (List.forall_mem_cons.mpr
      ⟨.arr hitems, List.forall_mem_cons.mpr ⟨.str _, List.forall_mem_nil _⟩⟩)
  have hrecord : record.Exact := List.forall_mem_cons.mpr
    ⟨trivial, List.forall_mem_cons.mpr
      ⟨hpayload, List.forall_mem_cons.mpr ⟨trivial, List.forall_mem_nil _⟩⟩⟩
  have hrecordDepth : record.encoded.nesting < 128 := by decide
  have heventDepth : event.encoded.nesting < 128 := by decide
  have hsettled : record.settled = record := by
    rw [Record.settled_eq_iff]
    simp [record, stamp, Timestamp.IsSettled]
  obtain ⟨-, hrecords, -, hevents, hoptions⟩ := decode_encoded
  have hread := (hrecords record hrecord hrecordDepth).1
  rw [hsettled] at hread
  exact ⟨⟨hrecord, hrecordDepth, hread⟩,
    ⟨hpayload, heventDepth, hevents event hpayload heventDepth⟩, (hoptions _).2⟩

/-- **A leap second in the middle of a minute** is not read back: its text shows the next second. -/
theorem decode_leap_second_within_minute :
    let stamp : Timestamp := ⟨2015, 6, 30, 23, 56, 4, 1333333333, by decide, by decide⟩
    let next : Timestamp := ⟨2015, 6, 30, 23, 56, 5, 333333333, by decide, by decide⟩
    (Scalar.timestamp stamp).Exact ∧ (Scalar.timestamp stamp).encoded.nesting < 128
      ∧ decode Scalar.decoder (Scalar.timestamp stamp).encoded.text = .ok (.timestamp next)
      ∧ Scalar.timestamp next ≠ .timestamp stamp := by
  intro stamp next
  have hsettled : (Scalar.timestamp stamp).settled = .timestamp next := by
    refine congrArg Scalar.timestamp ?_
    have hnano : stamp.nanosecond - 1000000000 = 333333333 := by norm_num [stamp]
    rw [Timestamp.settled, dif_neg (by decide)]
    congr
  have hread := decode_written ((Scalar.timestamp stamp).reads trivial (by decide))
  rw [hsettled] at hread
  exact ⟨trivial, by decide, hread, by simp [stamp, next]⟩

end Transactional
