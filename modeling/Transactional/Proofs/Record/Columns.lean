import Mathlib.Data.List.Dedup
import Mathlib.Tactic.Common
import Transactional.Mapping.Statements

/-!
# Records keep their columns apart

A record is built up by setting one column after the other.  A column that it has already keeps its
place and gets another value; any other comes to the end.  So the columns stand in the order in
which they first came, and their values are those that came last.

* `Record.columns_set`, `Record.get?_set` — one column.
* `Record.columns_setAll`, `Record.get?_setAll` — any number of them.
* `insertStatement_sql_congr`, `updateStatement_sql_congr` — the text of a statement depends on the
  columns only.
* **`Record.set_in_order`** — what becomes of the columns and of the values.
-/

namespace Transactional

variable {table column name : String} {value : Scalar} {fields pairs : List (String × Scalar)}
  {record other : Record}

/-! ## Lists without repetitions -/

lemma eraseDups_of_nodup {names : List String} (h : names.Nodup) : names.eraseDups = names := by
  induction names with
  | nil => rfl
  | cons first rest ih =>
    rw [List.nodup_cons] at h
    have hothers : rest.filter (fun name => !name == first) = rest := by
      rw [List.filter_eq_self]
      intro name hmem
      have hne : name ≠ first := fun heq => h.1 (heq ▸ hmem)
      simpa using hne
    rw [List.eraseDups_cons, hothers, ih h.2]

lemma eraseDups_append_cons_of_mem {names rest : List String} (h : name ∈ names) :
    (names ++ name :: rest).eraseDups = (names ++ rest).eraseDups := by
  have hgone : (name :: rest).removeAll names = rest.removeAll names := by
    simp [List.removeAll, h]
  rw [List.eraseDups_append, List.eraseDups_append, hgone]

namespace Record

/-! ## One column -/

lemma lookup_pair (name column : String) (value : Scalar) (fields : List (String × Scalar)) :
    ((column, value) :: fields).lookup name = if name = column then some value else fields.lookup
      name := by
  by_cases h : name = column
  · simp [h]
  · have hne : (name == column) = false := by simpa using h
    simp [h, List.lookup_cons, hne]

lemma get?_eq_lookup (record : Record) (column : String) :
    record.get? column = record.fields.lookup column := by
  obtain ⟨fields⟩ := record
  induction fields with
  | nil => rfl
  | cons pair rest ih =>
    obtain ⟨name, old⟩ := pair
    rw [lookup_pair, ← ih]
    by_cases h : name = column
    · simp [get?, h]
    · simp [get?, h, Ne.symm h]

@[simp] lemma map_fst_setField (column : String) (value : Scalar)
    (fields : List (String × Scalar)) :
    (setField column value fields).map (·.1)
      = if column ∈ fields.map (·.1) then fields.map (·.1) else fields.map (·.1) ++ [column] := by
  induction fields with
  | nil => simp [setField]
  | cons pair rest ih =>
    obtain ⟨name, old⟩ := pair
    by_cases h : name = column
    · simp [setField, h]
    · have hne : ¬ column = name := Ne.symm h
      simp only [setField, h, if_false, List.map_cons, ih, List.mem_cons, hne, false_or]
      split_ifs <;> simp

lemma columns_set (record : Record) (column : String) (value : Scalar) :
    (record.set column value).columns
      = if column ∈ record.columns then record.columns else record.columns ++ [column] :=
  map_fst_setField column value record.fields

lemma lookup_setField (column name : String) (value : Scalar) (fields : List (String × Scalar)) :
    (setField column value fields).lookup name = if name = column then some value else fields.lookup
      name := by
  induction fields with
  | nil => simp [setField, lookup_pair]
  | cons pair rest ih =>
    obtain ⟨first, old⟩ := pair
    by_cases h : first = column
    · simp only [setField, h, if_true, lookup_pair]
      split_ifs <;> rfl
    · simp only [setField, h, if_false, lookup_pair, ih]
      by_cases hname : name = first
      · simp [hname, h]
      · simp [hname]

lemma get?_set (record : Record) (column name : String) (value : Scalar) :
    (record.set column value).get? name = if name = column then some value else record.get?
      name := by
  rw [get?_eq_lookup, get?_eq_lookup]
  exact lookup_setField column name value record.fields

lemma size_eq_length_columns (record : Record) : record.size = record.columns.length := by
  simp [size, columns]

lemma size_set (record : Record) (column : String) (value : Scalar) :
    (record.set column value).size = if column
      ∈ record.columns then record.size else record.size + 1 := by
  rw [size_eq_length_columns, size_eq_length_columns, columns_set]
  split_ifs <;> simp

lemma nodup_columns_set (h : record.columns.Nodup) : (record.set column value).columns.Nodup := by
  rw [columns_set]
  split_ifs with hmem
  · exact h
  · exact h.append (List.nodup_singleton column) (by simpa using hmem)

/-! ## Any number of columns -/

lemma nodup_columns_setAll (h : record.columns.Nodup) : (record.setAll pairs).columns.Nodup := by
  induction pairs generalizing record with
  | nil => exact h
  | cons pair rest ih => exact ih (nodup_columns_set h)

/-- **The columns stand in the order in which they came first.** -/
lemma columns_setAll (h : record.columns.Nodup) :
    (record.setAll pairs).columns = (record.columns ++ pairs.map (·.1)).eraseDups := by
  induction pairs generalizing record with
  | nil => simp [setAll, eraseDups_of_nodup h]
  | cons pair rest ih =>
    have hrest : (record.setAll (pair :: rest)).columns
        = ((record.set pair.1 pair.2).columns ++ rest.map (·.1)).eraseDups :=
      ih (nodup_columns_set h)
    rw [hrest, columns_set]
    split_ifs with hmem
    · rw [List.map_cons, eraseDups_append_cons_of_mem hmem]
    · rw [List.append_assoc, List.map_cons, List.singleton_append]

/-- **The value of a column is the one that came last**, and the old one if none did. -/
lemma get?_setAll (record : Record) (pairs : List (String × Scalar)) (name : String) :
    (record.setAll pairs).get? name = (pairs.reverse.lookup name).or (record.get? name) := by
  induction pairs generalizing record with
  | nil => simp [setAll]
  | cons pair rest ih =>
    obtain ⟨column, value⟩ := pair
    have hrest : (record.setAll ((column, value) :: rest)).get? name
        = (rest.reverse.lookup name).or ((record.set column value).get? name) :=
          ih (record.set column value)
    rw [hrest, get?_set, List.reverse_cons, List.lookup_append, Option.or_assoc, lookup_pair]
    split_ifs <;> simp

lemma columns_ofList (pairs : List (String × Scalar)) :
    (ofList pairs).columns = (pairs.map (·.1)).eraseDups :=
  columns_setAll List.nodup_nil

lemma get?_ofList (pairs : List (String × Scalar)) (name : String) :
    (ofList pairs).get? name = pairs.reverse.lookup name := by
  rw [ofList, get?_setAll]
  simp [get?]

end Record

/-! ## Texts of statements -/

lemma Record.id?_eq_none_iff : record.id? = none ↔ idColumn ∉ record.columns := by
  simp only [id?, get?, columns, Option.map_eq_none_iff, List.find?_eq_none, beq_iff_eq,
    List.mem_map, not_exists,
    not_and]

lemma Record.isEmpty_congr (h : record.columns = other.columns) :
    record.isEmpty = other.isEmpty := by
  have hisEmpty : ∀ row : Record, row.isEmpty = row.columns.isEmpty :=
    fun row => by simp [isEmpty, columns]
  rw [hisEmpty, hisEmpty, h]

/-- **The text of an insertion** depends on the columns only. -/
lemma insertStatement_sql_congr (table : String) (h : record.columns = other.columns) :
    (insertStatement table record).map (·.sql) = (insertStatement table other).map (·.sql) := by
  unfold insertStatement
  rw [Record.isEmpty_congr h, record.size_eq_length_columns, other.size_eq_length_columns, h]
  split_ifs <;> rfl

lemma map_fst_settable (record : Record) :
    (settable record).map (·.1) = record.columns.filter (· ≠ idColumn) := by
  simp [settable, Record.columns, List.filter_map, Function.comp_def]

/-- **The text of an update** depends on the columns only. -/
lemma updateStatement_sql_congr (table : String) (h : record.columns = other.columns) :
    (updateStatement table record).map (·.sql) = (updateStatement table other).map (·.sql) := by
  have hset : (settable record).map (·.1) = (settable other).map (·.1) := by
    rw [map_fst_settable, map_fst_settable, h]
  have hempty : (settable record).isEmpty = (settable other).isEmpty := by
    simpa using congrArg List.isEmpty hset
  have hsetters : (settable record).map (fun pair => pair.1 ++ "=?")
      = (settable other).map (fun pair => pair.1 ++ "=?") := by
    simpa [Function.comp_def] using congrArg (List.map (· ++ "=?")) hset
  have hnone : record.id? = none ↔ other.id? = none := by
    rw [Record.id?_eq_none_iff, Record.id?_eq_none_iff, h]
  cases hid : record.id? with
  | none => simp [updateStatement, hid, hnone.mp hid]
  | some id =>
    cases hkey : other.id? with
    | none => simp [hnone.mpr hkey] at hid
    | some key =>
      simp only [updateStatement, hid, hkey, hempty, hsetters]
      split_ifs <;> rfl

namespace Record

/-- **Columns stay apart and in order.**  Whatever is set in a record with distinct columns, its
columns stay distinct and stand in the order in which they came first, and each has the value that
came last; so it is in a record that is made of a list.  Setting one column gives it the value,
leaves the other values as they are and the columns in their places, and adds a column exactly if it
was not there; if it was there, the texts of insertions and updates are the same as before. -/
theorem set_in_order (record : Record) (distinct : record.columns.Nodup)
    (pairs : List (String × Scalar))
    (table column : String) (value : Scalar) :
    ((record.setAll pairs).columns.Nodup
        ∧ (record.setAll pairs).columns = (record.columns ++ pairs.map (·.1)).eraseDups
        ∧ ∀ name, (record.setAll pairs).get? name = (pairs.reverse.lookup name).or
          (record.get? name))
      ∧ ((ofList pairs).columns.Nodup
        ∧ (ofList pairs).columns = (pairs.map (·.1)).eraseDups
        ∧ ∀ name, (ofList pairs).get? name = pairs.reverse.lookup name)
      ∧ (record.set column value).get? column = some value
      ∧ (∀ name ≠ column, (record.set column value).get? name = record.get? name)
      ∧ record.columns <+: (record.set column value).columns
      ∧ ((record.set column value).size = record.size + 1 ↔ column ∉ record.columns)
      ∧ ((record.set column value).size = record.size ↔ column ∈ record.columns)
      ∧ (column ∈ record.columns →
        (insertStatement table (record.set column value)).map (·.sql)
          = (insertStatement table record).map (·.sql)
        ∧ (updateStatement table (record.set column value)).map (·.sql)
          = (updateStatement table record).map (·.sql)) := by
  refine ⟨⟨nodup_columns_setAll distinct, columns_setAll distinct, get?_setAll record pairs⟩,
    ⟨nodup_columns_setAll List.nodup_nil, columns_ofList pairs, get?_ofList pairs⟩, ?_, ?_, ?_,
      ?_, ?_, ?_⟩
  · simp [get?_set]
  · intro name hne
    simp [get?_set, hne]
  · rw [columns_set]
    split_ifs <;> simp
  · rw [size_set]
    split_ifs with hmem <;> simp [hmem]
  · rw [size_set]
    split_ifs with hmem <;> simp [hmem]
  · intro hmem
    have hsame : (record.set column value).columns = record.columns := by
      rw [columns_set, if_pos hmem]
    exact ⟨insertStatement_sql_congr table hsame, updateStatement_sql_congr table hsame⟩

/-- A list with repetitions, set in a record that has one of its columns; then one more column of
the two. -/
theorem set_in_order_repeated :
    let record : Record := ⟨[("id", .int 9), ("name", .text "x")]⟩
    let pairs : List (String × Scalar) := [("age", .int 1), ("name", .text "y"), ("age", .int 2)]
    record.columns.Nodup ∧ "name" ∈ record.columns ∧ "name" ≠ "id"
      ∧ (record.setAll pairs).columns = ["id", "name", "age"]
      ∧ (record.setAll pairs).get? "age" = some (.int 2)
      ∧ (record.set "name" .null).get? "id" = some (.int 9)
      ∧ (updateStatement "users" (record.set "name" .null)).map (·.sql)
        = .ok "UPDATE users SET name=? WHERE id=?" := by
  intro record pairs
  have distinct : record.columns.Nodup := by decide
  have hmem : "name" ∈ record.columns := by decide
  obtain ⟨⟨-, hcolumns, hvalues⟩, -, -, hothers, -, -, -, htexts⟩ :=
    set_in_order record distinct pairs "users" "name" .null
  refine ⟨distinct, hmem, by decide, ?_, ?_, ?_, ?_⟩
  · rw [hcolumns]
    decide
  · exact hvalues "age"
  · exact hothers "id" (by decide)
  · rw [(htexts hmem).2]
    rfl

end Record

end Transactional
