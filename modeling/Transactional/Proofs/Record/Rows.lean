import Transactional.Proofs.Record.Columns
import Transactional.ResultSet

/-!
# Rows and the records made of them

A value is looked up in a row by the place of its name among the columns, and in a record among the
pairs that have been set in it.  A row may have fewer or more values than columns, and columns may
have the same name: of these the row answers with the first one, and the record with the last.

* `Row.cells` — the names and the values of a row, as far as both go.
* `Row.get?_eq_lookup`, `Row.get?_toRecord` — the two ways to look up.
* **`ResultSet.records_of_rows`** — every row of a result set and its record, for any names and
  values.
* `ResultSet.first_and_last_differ` — two columns of one name.
-/

namespace Transactional

variable {name : String} {pairs : List (String × Scalar)} {row : Row}

/-! ## Looking up from the front and from the back -/

lemma lookup_eq_none_iff_not_mem : pairs.lookup name = none ↔ name ∉ pairs.map (·.1) := by
  simp only [List.lookup_eq_none_iff, bne_iff_ne, List.mem_map, not_exists, not_and]
  exact forall₂_congr fun pair _ => ne_comm

lemma lookup_reverse_eq_none_iff : pairs.reverse.lookup name = none ↔ pairs.lookup name = none := by
  rw [lookup_eq_none_iff_not_mem, lookup_eq_none_iff_not_mem, List.map_reverse, List.mem_reverse]

lemma lookup_reverse_of_count_le_one (h : (pairs.map (·.1)).count name ≤ 1) :
    pairs.reverse.lookup name = pairs.lookup name := by
  induction pairs with
  | nil => rfl
  | cons pair rest ih =>
    obtain ⟨column, value⟩ := pair
    rw [List.reverse_cons, List.lookup_append, Record.lookup_pair, Record.lookup_pair]
    by_cases hname : name = column
    · subst hname
      have hcount : (rest.map (·.1)).count name = 0 := by
        simp only [List.map_cons, List.count_cons_self] at h
        omega
      have habsent : rest.reverse.lookup name = none := by
        rw [lookup_reverse_eq_none_iff, lookup_eq_none_iff_not_mem]
        exact List.count_eq_zero.mp hcount
      simp [habsent]
    · have hrest : (rest.map (·.1)).count name ≤ 1 := by
        rwa [List.map_cons, List.count_cons_of_ne (Ne.symm hname)] at h
      simp [hname, ih hrest]

namespace Row

/-- **The cells of a row**: names and values side by side, as far as there are both. -/
def cells (row : Row) : List (String × Scalar) :=
  row.columns.zip row.values

lemma map_fst_cells (row : Row) : row.cells.map (·.1) = row.columns.take row.values.length := by
  obtain ⟨columns, values⟩ := row
  induction columns generalizing values with
  | nil => simp [cells]
  | cons column rest ih =>
    cases values with
    | nil => simp [cells]
    | cons value others => simpa [cells] using ih others

/-- **A row is searched from the front.** -/
lemma get?_eq_lookup (row : Row) (name : String) : row.get? name = row.cells.lookup name := by
  obtain ⟨columns, values⟩ := row
  show (columns.findIdx? (· == name)).bind (values[·]?) = (columns.zip values).lookup name
  induction columns generalizing values with
  | nil => simp
  | cons column rest ih =>
    by_cases h : column = name
    · cases values <;> simp [List.findIdx?_cons, h]
    · cases values with
      | nil => simp
      | cons value others =>
        rw [List.zip_cons_cons, Record.lookup_pair, if_neg (Ne.symm h), ← ih others,
          List.findIdx?_cons]
        simp only [beq_iff_eq, h, if_false, Option.bind_map]
        rfl

/-- **The record of a row is searched from the back.** -/
lemma get?_toRecord (row : Row) (name : String) :
    row.toRecord.get? name = row.cells.reverse.lookup name :=
  Record.get?_ofList row.cells name

lemma columns_toRecord (row : Row) :
    row.toRecord.columns = (row.columns.take row.values.length).eraseDups := by
  rw [← map_fst_cells]
  exact Record.columns_ofList row.cells

end Row

namespace ResultSet

lemma rows_foldl_push (set : ResultSet) (rows : List (List Scalar)) :
    (rows.foldl push set).rows = set.rows ++ rows.map fun values => ⟨set.columns, values⟩ := by
  induction rows generalizing set with
  | nil => simp
  | cons values rest ih =>
    have hrest : (rest.foldl push (set.push values)).rows
        = (set.push values).rows ++ rest.map fun values => ⟨(set.push values).columns, values⟩ :=
          ih (set.push values)
    rw [List.foldl_cons, hrest]
    simp [ResultSet.rows, push]

/-- The rows of a result set that is made of some rows, and to which others are added. -/
lemma rows_built (columns : List String) (rows more : List (List Scalar)) :
    (more.foldl push (ofRows columns rows)).rows = (rows ++ more).map fun values =>
      ⟨columns, values⟩ := by
  rw [ofRows, ← List.foldl_append, rows_foldl_push]
  simp [ResultSet.rows, ofColumns]

/-- **Every row of a result set and its record**, whatever the names of the columns, and however
many values the rows have.  The record has the names under which the row has a value, each once and
in the order of their first appearance; it has a value for the same names as the row, and the same
value for every name that the row has once.  Of several columns of one name the row has the value of
the first, and the record that of the last.  The records of a result set are those of its rows, in
their order. -/
theorem records_of_rows (columns : List String) (rows more : List (List Scalar)) :
    let set := more.foldl push (ofRows columns rows)
    set.rows = (rows ++ more).map (fun values => ⟨columns, values⟩)
      ∧ set.toRecords = (rows ++ more).map (fun values => Row.toRecord ⟨columns, values⟩)
      ∧ ∀ row ∈ set.rows,
        row.toRecord.columns = (columns.take row.values.length).eraseDups
        ∧ ∀ name,
          row.get? name = (columns.zip row.values).lookup name
          ∧ row.toRecord.get? name = (columns.zip row.values).reverse.lookup name
          ∧ (row.toRecord.get? name = none ↔ row.get? name = none)
          ∧ ((columns.take row.values.length).count name ≤ 1 → row.toRecord.get? name
            = row.get? name) := by
  intro set
  have hrows : set.rows = (rows ++ more).map fun values => ⟨columns, values⟩ :=
    rows_built columns rows more
  refine ⟨hrows, ?_, fun row hmem => ?_⟩
  · rw [toRecords, hrows, List.map_map]
    rfl
  obtain ⟨values, -, rfl⟩ := List.mem_map.mp (hrows ▸ hmem)
  refine ⟨Row.columns_toRecord _, fun name => ⟨Row.get?_eq_lookup _ _, Row.get?_toRecord _ _, ?_,
    fun honce => ?_⟩⟩
  · rw [Row.get?_toRecord, Row.get?_eq_lookup, lookup_reverse_eq_none_iff]
  · rw [Row.get?_toRecord, Row.get?_eq_lookup]
    refine lookup_reverse_of_count_le_one ?_
    rwa [Row.map_fst_cells]

/-- A short row and a long one, under two columns of one name and a third. -/
theorem records_of_rows_uneven :
    let set := [[.int 4, .int 5, .int 6, .int 7]].foldl push
      (ofRows ["a", "b", "a"] [[.int 1, .int 2]])
    let short : Row := ⟨["a", "b", "a"], [.int 1, .int 2]⟩
    let long : Row := ⟨["a", "b", "a"], [.int 4, .int 5, .int 6, .int 7]⟩
    short ∈ set.rows ∧ long ∈ set.rows ∧ (["a", "b", "a"].take short.values.length).count "a" ≤ 1
      ∧ short.toRecord.get? "a" = short.get? "a"
      ∧ long.toRecord.columns = ["a", "b"]
      ∧ long.get? "a" = some (.int 4) ∧ long.toRecord.get? "a" = some (.int 6) := by
  intro set short long
  obtain ⟨hrows, -, hrecords⟩ :=
    records_of_rows ["a", "b", "a"] [[.int 1, .int 2]] [[.int 4, .int 5, .int 6, .int 7]]
  have hshort : short ∈ set.rows := by
    rw [hrows]
    simp [short]
  have hlong : long ∈ set.rows := by
    rw [hrows]
    simp [long]
  have honce : (["a", "b", "a"].take short.values.length).count "a" ≤ 1 := by decide
  obtain ⟨-, hvalues⟩ := hrecords short hshort
  obtain ⟨hcolumns, hfound⟩ := hrecords long hlong
  obtain ⟨-, -, -, hsame⟩ := hvalues "a"
  obtain ⟨hfirst, hlast, -⟩ := hfound "a"
  exact ⟨hshort, hlong, honce, hsame honce, hcolumns.trans (by decide), hfirst, hlast⟩

/-- **Two columns of one name**: the row has the first value, and its record the last one. -/
theorem first_and_last_differ :
    ∃ row ∈ (ofRows ["a", "a"] [[.int 1, .int 2]]).rows,
      row.get? "a" = some (.int 1) ∧ row.toRecord.get? "a" = some (.int 2)
        ∧ row.toRecord.get? "a" ≠ row.get? "a" := by
  refine ⟨⟨["a", "a"], [.int 1, .int 2]⟩, List.mem_singleton.mpr rfl, rfl, rfl, ?_⟩
  intro hsame
  have hvalues : some (Scalar.int 2) = some (.int 1) := hsame
  simp at hvalues

end ResultSet

end Transactional
