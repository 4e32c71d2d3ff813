import Mathlib
import Transactional.Mapping.Statements
import Transactional.Proofs.Mapping.Clause
import Transactional.Proofs.Record.Columns

/-!
# Statements from records say what the records hold

The text of a statement and the list of its values are made apart from each other.  They fit all the
same: the columns that the placeholders of the text stand for, one after the other, are those whose
values are bound.

* `insertStatement_error_iff`, `updateStatement_error_iff`, `deleteStatement_error_iff` — records of
  which no statement can be made.
* `ofText?_insert`, `ofText?_update`, `ofText?_selecting` — what the texts say.
* **`statements_of_record`** — both together, for every table and every record.
-/

namespace Transactional

variable {table : String} {record : Record} {target : DeleteTarget} {s : BoundStatement}

/-! ## Records of which no statement can be made -/

lemma settable_eq_nil_iff : settable record = [] ↔ ∀ column ∈ record.columns, column
    = idColumn := by
  simp [settable, Record.columns]

lemma insertStatement_error_iff :
    (∃ fault, insertStatement table record = .error fault) ↔ record.fields = [] := by
  unfold insertStatement
  split_ifs with h <;> simpa [Record.isEmpty] using h

lemma updateStatement_error_iff :
    (∃ fault, updateStatement table record = .error fault)
      ↔ idColumn ∉ record.columns ∨ ∀ column ∈ record.columns, column = idColumn := by
  rw [← Record.id?_eq_none_iff, ← settable_eq_nil_iff]
  cases hid : record.id? with
  | none => simp [updateStatement, hid]
  | some id =>
    unfold updateStatement
    rw [hid]
    dsimp only
    split_ifs with h <;> simpa using h

lemma deleteStatement_error_iff :
    (∃ fault, deleteStatement table target = .error fault)
      ↔ ∃ row, target = .record row ∧ idColumn ∉ row.columns := by
  cases target with
  | id value => simp [deleteStatement, DeleteTarget.idValue]
  | record row =>
    cases hid : row.id? <;> simp [deleteStatement, DeleteTarget.idValue,
      hid, ← Record.id?_eq_none_iff]

/-! ## What the texts say -/

lemma Clause.ofText?_insert {columns : List String} (htable : Bare table)
    (hcolumns : ∀ column ∈ columns, Bare column)
    (hne : columns ≠ []) :
    ofText? ("INSERT INTO " ++ table ++ "(" ++ ",".intercalate columns ++ ") VALUES("
      ++ placeholders columns.length ++ ")") = some (.insert table columns) := by
  have hmarks : placeholders columns.length = ",".intercalate (columns.map fun _ => "?") := by
    rw [placeholders, List.map_const']
  have htarget : bracketed? (table ++ "(" ++ ",".intercalate columns ++ ")")
    = some (table, columns) :=
    bracketed?_list (htable '(' (by decide)) hne fun column hmem =>
      ⟨hcolumns column hmem ',' (by decide), hcolumns column hmem '(' (by decide),
        hcolumns column hmem ')' (by decide)⟩
  have hsource : bracketed? ("VALUES" ++ "(" ++ placeholders columns.length ++ ")")
      = some ("VALUES", columns.map fun _ => "?") := by
    rw [hmarks]
    exact bracketed?_list (by decide) (by simpa using hne) (by simp)
  have hlist : ' ' ∉ (",".intercalate columns).toList :=
    not_mem_intercalate (by simp) fun column hmem => hcolumns column hmem ' ' (by decide)
  have hplaces : ' ' ∉ (placeholders columns.length).toList := by
    rw [hmarks]
    exact not_mem_intercalate (by simp) (by simp)
  have htext : "INSERT INTO " ++ table ++ "(" ++ ",".intercalate columns ++ ") VALUES("
      ++ placeholders columns.length ++ ")"
      = " ".intercalate ["INSERT", "INTO", table ++ "(" ++ ",".intercalate columns ++ ")",
        "VALUES" ++ "(" ++ placeholders columns.length ++ ")"] := by
    rw [← String.toList_inj]
    simp [String.intercalate_cons_cons]
  rw [htext, ofText?_words (by simp)]
  · simp only [ofWords?, htarget, hsource, Option.bind_eq_bind, Option.bind_some, if_true]
  · simp only [List.forall_mem_cons]
    refine ⟨by decide, by decide, ?_, ?_, nofun⟩
    · simpa using And.intro (htable ' ' (by decide)) hlist
    · simpa using hplaces

lemma Clause.ofText?_update {columns : List String} (htable : Bare table)
    (hcolumns : ∀ column ∈ columns, Bare column)
    (hne : columns ≠ []) :
    ofText? ("UPDATE " ++ table ++ " SET " ++ ",".intercalate (columns.map (· ++ "=?")) ++ " WHERE "
      ++ idColumn
      ++ "=?") = some (.update table columns idColumn) := by
  have hsetters : pieces ',' (",".intercalate (columns.map (· ++ "=?")))
    = columns.map (· ++ "=?") :=
    pieces_intercalate (by simpa using hne)
      (by simpa using fun column hmem => hcolumns column hmem ',' (by decide))
  have hlist : ' ' ∉ (",".intercalate (columns.map (· ++ "=?"))).toList :=
    not_mem_intercalate (by simp)
      (by simpa using fun column hmem => hcolumns column hmem ' ' (by decide))
  have hcolumns : (columns.map (· ++ "=?")).mapM assigned? = some columns :=
    mapM_assigned? fun column hmem => hcolumns column hmem '=' (by decide)
  have hkey : assigned? (idColumn ++ "=?") = some idColumn := assigned?_bare (by decide)
  have htext : "UPDATE " ++ table ++ " SET " ++ ",".intercalate (columns.map (· ++ "=?"))
    ++ " WHERE " ++ idColumn
      ++ "=?"
      = " ".intercalate ["UPDATE", table, "SET", ",".intercalate (columns.map (· ++ "=?")), "WHERE",
        idColumn ++ "=?"] := by
    rw [← String.toList_inj]
    simp [String.intercalate_cons_cons]
  rw [htext, ofText?_words (by simp)]
  · simp only [ofWords?, hsetters, hcolumns, hkey, Option.bind_eq_bind, Option.bind_some]
  · simp only [List.forall_mem_cons]
    exact ⟨by decide, htable ' ' (by decide), by decide, hlist, by decide, by decide, nofun⟩

lemma Clause.ofText?_delete (htable : Bare table) :
    ofText? ("DELETE FROM " ++ table ++ " WHERE " ++ idColumn ++ "=?") = some
      (.delete table idColumn) := by
  have hkey : assigned? (idColumn ++ "=?") = some idColumn := assigned?_bare (by decide)
  have htext : "DELETE FROM " ++ table ++ " WHERE " ++ idColumn ++ "=?"
      = " ".intercalate ["DELETE", "FROM", table, "WHERE", idColumn ++ "=?"] := by
    rw [← String.toList_inj]
    simp [String.intercalate_cons_cons]
  rw [htext, ofText?_words (by simp)]
  · simp only [ofWords?, hkey, Option.map_some]
  · simp only [List.forall_mem_cons]
    exact ⟨by decide, by decide, htable ' ' (by decide), by decide, by decide, nofun⟩

lemma Clause.ofText?_read (htable : Bare table) :
    ofText? ("SELECT * FROM " ++ table ++ " WHERE " ++ idColumn ++ "=?") = some
      (.read table idColumn) := by
  have hkey : assigned? (idColumn ++ "=?") = some idColumn := assigned?_bare (by decide)
  have htext : "SELECT * FROM " ++ table ++ " WHERE " ++ idColumn ++ "=?"
      = " ".intercalate ["SELECT", "*", "FROM", table, "WHERE", idColumn ++ "=?"] := by
    rw [← String.toList_inj]
    simp [String.intercalate_cons_cons]
  rw [htext, ofText?_words (by simp)]
  · simp only [ofWords?, hkey, Option.map_some]
  · simp only [List.forall_mem_cons]
    exact ⟨by decide, by decide, by decide, htable ' ' (by decide), by decide, by decide, nofun⟩

/-! ## Placeholders -/

lemma marks_placeholders (count : Nat) : marks (placeholders count) = count := by
  have hmark : marks "?" = 1 := by decide
  simp [placeholders, marks_intercalate, hmark]

/-! ## Texts and values together -/

lemma insertStatement_reads (htable : Bare table)
    (hcolumns : ∀ column ∈ record.columns, Bare column)
    (h : insertStatement table record = .ok s) :
    Clause.ofText? s.sql = some (.insert table record.columns) ∧ marks s.sql = s.params.length
      ∧ record.columns.zip s.params = record.fields ∧ record.columns.length = s.params.length := by
  unfold insertStatement at h
  split_ifs at h with hempty
  cases h
  have hne : record.columns ≠ [] := by simpa [Record.isEmpty, Record.columns] using hempty
  have hsize : record.size = record.columns.length := by simp [Record.size, Record.columns]
  have hread := Clause.ofText?_insert htable hcolumns hne
  refine ⟨hsize ▸ hread, ?_, (List.zip_of_prod rfl rfl).symm,
    by simp [Record.columns, Record.values]⟩
  have hliterals : marks "INSERT INTO " = 0 ∧ marks "(" = 0 ∧ marks ") VALUES(" = 0 ∧ marks ")"
    = 0 := by decide
  have hnames : marks (",".intercalate record.columns) = 0 :=
    marks_names fun column hmem => (hcolumns column hmem).marks
  simp [hnames, marks_placeholders, htable.marks, hliterals, Record.size, Record.values]

lemma updateStatement_reads (htable : Bare table)
    (hcolumns : ∀ column ∈ record.columns, Bare column)
    (h : updateStatement table record = .ok s) :
    ∃ columns id, Clause.ofText? s.sql = some (.update table columns idColumn) ∧ marks s.sql
      = s.params.length
      ∧ columns.zip s.params = record.fields.filter (·.1 ≠ idColumn)
      ∧ s.params.drop columns.length = [id] ∧ record.id? = some id := by
  unfold updateStatement at h
  cases hid : record.id? with
  | none => simp [hid] at h
  | some id =>
    rw [hid] at h
    dsimp only at h
    split_ifs at h with hempty
    cases h
    let columns := (settable record).map (·.1)
    let values := (settable record).map (·.2)
    have hne : columns ≠ [] := by simpa [columns] using hempty
    have hbare : ∀ column ∈ columns, Bare column := by
      intro column hmem
      obtain ⟨pair, hpair, rfl⟩ := List.mem_map.mp hmem
      exact hcolumns pair.1 (List.mem_map_of_mem (List.mem_filter.mp hpair).1)
    have hread := Clause.ofText?_update htable hbare hne
    have hsetters : (settable record).map (fun pair => pair.1 ++ "=?")
      = columns.map (· ++ "=?") := by
      simp [columns]
    have hlength : columns.length = values.length := by simp [columns, values]
    refine ⟨columns, id, hsetters ▸ hread, ?_, ?_, List.drop_left' hlength.symm, rfl⟩
    · have hliterals : marks "UPDATE " = 0 ∧ marks " SET " = 0 ∧ marks " WHERE " = 0
        ∧ marks idColumn = 0
          ∧ marks "=?" = 1 := by
        decide
      have hmarks : marks (",".intercalate (columns.map (· ++ "=?"))) = (settable record).length :=
        (marks_setters fun column hmem => (hbare column hmem).marks).trans (List.length_map ..)
      simp [hsetters, hmarks, htable.marks, hliterals]
    · have hzip : (columns ++ []).zip (values ++ [id]) = columns.zip values ++ List.zip [] [id] :=
        List.zip_append hlength
      rw [List.append_nil, List.zip_nil_left, List.append_nil] at hzip
      exact hzip.trans (List.zip_of_prod rfl rfl).symm

lemma deleteStatement_reads (htable : Bare table) (h : deleteStatement table target = .ok s) :
    ∃ id, Clause.ofText? s.sql = some (.delete table idColumn) ∧ marks s.sql = s.params.length
      ∧ s.params = [id] ∧ target.idValue = .ok id := by
  unfold deleteStatement at h
  cases hid : target.idValue with
  | error fault => simp [hid] at h
  | ok id =>
    rw [hid] at h
    cases h
    refine ⟨id, Clause.ofText?_delete htable, ?_, rfl, rfl⟩
    have hliterals : marks "DELETE FROM " = 0 ∧ marks " WHERE " = 0 ∧ marks idColumn = 0
      ∧ marks "=?" = 1 := by decide
    simp [htable.marks, hliterals]

lemma readStatement_reads (htable : Bare table) (key : Scalar) :
    Clause.ofText? (readStatement table key).sql = some (.read table idColumn)
      ∧ marks (readStatement table key).sql = (readStatement table key).params.length
      ∧ (readStatement table key).params = [key] := by
  have hliterals : marks "SELECT * FROM " = 0 ∧ marks " WHERE " = 0 ∧ marks idColumn = 0
    ∧ marks "=?" = 1 := by decide
  exact ⟨Clause.ofText?_read htable, by simp [readStatement, htable.marks, hliterals], rfl⟩

/-- **Statements say what the records hold.**  A statement cannot be made of a record without
columns if it is to insert, of one without an id or with nothing else if it is to update, and of a
target without an id if it is to delete, and of no others.  A statement that is made has a
placeholder for each value, and if it is read back, the columns that it lists and the values that it
binds are the pairs of the record, in order; an update leaves out the id and binds it last, to its
condition. -/
theorem statements_of_record (table : String) (record : Record) (target : DeleteTarget)
    (key : Scalar) :
    ((∃ fault, insertStatement table record = .error fault) ↔ record.fields = [])
      ∧ ((∃ fault, updateStatement table record = .error fault)
        ↔ idColumn ∉ record.columns ∨ ∀ column ∈ record.columns, column = idColumn)
      ∧ ((∃ fault, deleteStatement table target = .error fault)
        ↔ ∃ row, target = .record row ∧ idColumn ∉ row.columns)
      ∧ (Bare table → (∀ column ∈ record.columns, Bare column) →
        (∀ s, insertStatement table record = .ok s →
          ∃ columns, Clause.ofText? s.sql = some (.insert table columns) ∧ marks s.sql
            = s.params.length
            ∧ columns.zip s.params = record.fields ∧ columns.length = s.params.length)
        ∧ (∀ s, updateStatement table record = .ok s →
          ∃ columns id, Clause.ofText? s.sql = some (.update table columns idColumn)
            ∧ marks s.sql = s.params.length ∧ columns.zip s.params = record.fields.filter
              (·.1 ≠ idColumn)
            ∧ s.params.drop columns.length = [id] ∧ record.id? = some id)
        ∧ (∀ s, deleteStatement table target = .ok s →
          ∃ id, Clause.ofText? s.sql = some (.delete table idColumn) ∧ marks s.sql = s.params.length
            ∧ s.params = [id] ∧ target.idValue = .ok id)
        ∧ Clause.ofText? (readStatement table key).sql = some (.read table idColumn)
        ∧ marks (readStatement table key).sql = (readStatement table key).params.length
        ∧ (readStatement table key).params = [key]) := by
  refine ⟨insertStatement_error_iff, updateStatement_error_iff, deleteStatement_error_iff,
    fun htable hcolumns => ?_⟩
  exact ⟨fun s h => ⟨record.columns, insertStatement_reads htable hcolumns h⟩,
    fun s h => updateStatement_reads htable hcolumns h, fun s h => deleteStatement_reads htable h,
    readStatement_reads htable key⟩

/-- A record with its id in the middle. -/
theorem statements_of_record_users :
    let record : Record := ⟨[("name", .text "x"), ("id", .int 9), ("age", .int 4)]⟩
    (Bare "users" ∧ ∀ column ∈ record.columns, Bare column)
      ∧ ∃ s columns, updateStatement "users" record = .ok s
        ∧ s.sql = "UPDATE users SET name=?,age=? WHERE id=?"
        ∧ Clause.ofText? s.sql = some (.update "users" columns idColumn)
        ∧ columns.zip s.params = [("name", .text "x"), ("age", .int 4)]
        ∧ s.params.drop columns.length = [.int 9] := by
  intro record
  have htable : Bare "users" := by decide
  have hcolumns : ∀ column ∈ record.columns, Bare column := by decide
  obtain ⟨-, -, -, hreads⟩ := statements_of_record "users" record (.id .null) .null
  obtain ⟨-, hupdate, -⟩ := hreads htable hcolumns
  have hmade : updateStatement "users" record
      = .ok ⟨.update, "UPDATE users SET name=?,age=? WHERE id=?", [.text "x", .int 4, .int 9]⟩ :=
        rfl
  obtain ⟨columns, id, hread, -, hpairs, hlast, hid⟩ := hupdate _ hmade
  obtain rfl : Scalar.int 9 = id := Option.some.inj hid
  exact ⟨⟨htable, hcolumns⟩, _, columns, hmade, rfl, hread, hpairs, hlast⟩

end Transactional
