import Mathlib
import Transactional.Mapping.Statements
import Transactional.Proofs.Mapping.Clause

/-!
# Statements as a log shows them

The values of a statement are put in the places of its placeholders, one after the other, as long as
there are values.  Only the placeholders of the text itself count: what a value is written as is
never looked at again.

* `pieces_spec` — every text is its pieces with the separator between them.
* `weave` — pieces with texts between them.
* `renderStatement_append` — a text that is read in two parts.
* **`rendered_in_order`** — what is shown of any text and values, and of the statements that are
  made from records.
-/

namespace Transactional

variable {c : Char} {sql text table : String} {parts : List String} {values : List Scalar}
  {record : Record}
  {target : DeleteTarget} {s : BoundStatement}

/-! ## Pieces of a text -/

lemma exists_pieces (c : Char) (text : String) :
    ∃ first rest, (∀ p ∈ first :: rest, c ∉ p.toList) ∧ (String.singleton c).intercalate
      (first :: rest) = text := by
  obtain ⟨chars, rfl⟩ : ∃ chars, text = String.ofList chars :=
    ⟨text.toList, String.ofList_toList.symm⟩
  induction chars with
  | nil => exact ⟨"", [], by simp, by simp⟩
  | cons a others ih =>
    obtain ⟨first, rest, hfree, heq⟩ := ih
    by_cases ha : a = c
    · refine ⟨"", first :: rest, by simpa using hfree, ?_⟩
      rw [String.intercalate_cons_cons, heq, ← String.toList_inj]
      simp [ha]
    · refine ⟨String.singleton a ++ first, rest, ?_, ?_⟩
      · simp only [List.forall_mem_cons] at hfree ⊢
        exact ⟨by simpa [Ne.symm ha] using hfree.1, hfree.2⟩
      · rw [← String.toList_inj] at heq ⊢
        cases rest with
        | nil => simpa using heq
        | cons second rest => simpa [String.intercalate_cons_cons] using heq

/-- **A text is its pieces** with the separator between them, and no piece has the separator in it.
-/
lemma pieces_spec (c : Char) (text : String) :
    pieces c text ≠ [] ∧ (∀ p ∈ pieces c text, c ∉ p.toList)
      ∧ (String.singleton c).intercalate (pieces c text) = text := by
  obtain ⟨first, rest, hfree, rfl⟩ := exists_pieces c text
  rw [pieces_intercalate (by simp) hfree]
  exact ⟨by simp, hfree, rfl⟩

/-- **Pieces with texts between them.** -/
def weave : List String → List String → String
  | piece :: rest, filling :: others => piece ++ filling ++ weave rest others
  | parts, _ => String.join parts

/-! ## Rendering a text in parts -/

lemma renderChars_append (a b : List Char) (values : List Scalar) :
    renderChars (a ++ b) values = renderChars a values ++ renderChars b
      (values.drop (a.count '?')) := by
  induction a generalizing values with
  | nil => simp [renderChars]
  | cons c rest ih =>
    by_cases hc : c = '?'
    · cases values with
      | nil => simp [renderChars, hc, ih]
      | cons value others => simp [renderChars, hc, ih]
    · simp [renderChars, hc, ih]

/-- **A text that is read in two parts.**  The second part goes on with the values that the
placeholders of the first one leave. -/
lemma renderStatement_append (a b : String) (values : List Scalar) :
    renderStatement (a ++ b) values = renderStatement a values ++ renderStatement b
      (values.drop (marks a)) := by
  simp [renderStatement, marks, renderChars_append]

lemma renderChars_of_count_eq_zero {chars : List Char} (h : chars.count '?' = 0)
    (values : List Scalar) :
    renderChars chars values = chars := by
  induction chars with
  | nil => rfl
  | cons c rest ih =>
    rw [List.count_eq_zero, List.mem_cons, not_or] at h
    have hrest : rest.count '?' = 0 := List.count_eq_zero.mpr h.2
    simp [renderChars, Ne.symm h.1, ih hrest]

lemma renderStatement_of_unmarked (h : marks sql = 0) (values : List Scalar) :
    renderStatement sql values = sql := by
  simp [renderStatement, renderChars_of_count_eq_zero h]

@[simp] lemma renderStatement_mark_cons (value : Scalar) (others : List Scalar) :
    renderStatement "?" (value :: others) = value.inline := by
  simp [renderStatement, renderChars]

@[simp] lemma renderStatement_mark_nil : renderStatement "?" [] = "?" := by
  simp [renderStatement, renderChars]

lemma marks_of_free (h : '?' ∉ text.toList) : marks text = 0 :=
  List.count_eq_zero.mpr h

lemma marks_of_pieces {first : String} {rest : List String}
    (hfree : ∀ p ∈ first :: rest, '?' ∉ p.toList) :
    marks ("?".intercalate (first :: rest)) = rest.length := by
  have hmark : marks "?" = 1 := by decide
  induction rest generalizing first with
  | nil =>
    have hfirst : marks first = 0 := marks_of_free (hfree first (by simp))
    simpa using hfirst
  | cons second rest ih =>
    rw [List.forall_mem_cons] at hfree
    rw [String.intercalate_cons_cons, marks_append, marks_append, ih hfree.2,
      marks_of_free hfree.1, hmark,
      List.length_cons]
    omega

/-- **Every placeholder between two pieces** gets a value, as long as there are values. -/
lemma renderStatement_pieces {first : String} {rest : List String}
    (hfree : ∀ p ∈ first :: rest, '?' ∉ p.toList)
    (values : List Scalar) :
    renderStatement ("?".intercalate (first :: rest)) values
      = weave (first :: rest)
          ((values.take rest.length).map Scalar.inline
            ++ List.replicate (rest.length - values.length) "?") := by
  have hmark : marks "?" = 1 := by decide
  induction rest generalizing first values with
  | nil =>
    have hfirst : marks first = 0 := marks_of_free (hfree first (by simp))
    simp [weave, renderStatement_of_unmarked hfirst]
  | cons second rest ih =>
    rw [List.forall_mem_cons] at hfree
    have hfirst : marks first = 0 := marks_of_free hfree.1
    rw [String.intercalate_cons_cons, renderStatement_append, renderStatement_append, marks_append,
      hfirst, hmark,
      renderStatement_of_unmarked hfirst, ih hfree.2]
    cases values with
    | nil => simp [weave, List.replicate_succ]
    | cons value others => simp [weave]

lemma renderStatement_eq_weave (sql : String) (values : List Scalar) :
    (pieces '?' sql).length = marks sql + 1
      ∧ renderStatement sql values
        = weave (pieces '?' sql)
            ((values.take (marks sql)).map Scalar.inline
              ++ List.replicate (marks sql - values.length) "?") := by
  obtain ⟨hne, hfree, hsql⟩ := pieces_spec '?' sql
  obtain ⟨first, rest, hpieces⟩ := List.exists_cons_of_ne_nil hne
  rw [hpieces] at hfree hsql ⊢
  have hmarks : marks sql = rest.length := by
    rw [← hsql]
    exact marks_of_pieces hfree
  have hrendered := renderStatement_pieces hfree values
  rw [show "?".intercalate (first :: rest) = sql from hsql] at hrendered
  rw [hmarks]
  exact ⟨rfl, hrendered⟩

/-- **Values beyond the placeholders** are not shown. -/
lemma renderStatement_take (sql : String) (values : List Scalar) :
    renderStatement sql (values.take (marks sql)) = renderStatement sql values := by
  rw [(renderStatement_eq_weave sql values).2,
    (renderStatement_eq_weave sql (values.take (marks sql))).2]
  rw [List.take_take, List.length_take, Nat.min_self]
  congr 3
  omega

/-- **What a value is written as** is not looked at again, and what follows it goes on with the
values that follow it. -/
lemma renderStatement_at_mark {a : String} {earlier : List Scalar} (h : marks a = earlier.length)
    (b : String)
    (value : Scalar) (later : List Scalar) :
    renderStatement (a ++ "?" ++ b) (earlier ++ value :: later)
      = renderStatement a earlier ++ value.inline ++ renderStatement b later := by
  have hmark : marks "?" = 1 := by decide
  have hfront : renderStatement a (earlier ++ value :: later) = renderStatement a earlier := by
    rw [← renderStatement_take, h, List.take_left]
  have hplace : (earlier ++ value :: later).drop (marks a) = value :: later := by
    rw [h, List.drop_left]
  have hrest : (earlier ++ value :: later).drop (marks (a ++ "?")) = later := by
    rw [marks_append, hmark, ← List.drop_drop, hplace]
    rfl
  rw [renderStatement_append, renderStatement_append, hplace, hfront, hrest,
    renderStatement_mark_cons]

/-! ## Statements from records -/

variable {α : Type} {items : List α} {f : α → String} {g : α → Scalar}

/-- **A list of texts with one placeholder each**, every one with its own value. -/
lemma renderStatement_intercalate {sep : String} (hsep : marks sep = 0)
    (hf : ∀ x ∈ items, marks (f x) = 1)
    (others : List Scalar) :
    renderStatement (sep.intercalate (items.map f)) (items.map g ++ others)
      = sep.intercalate (items.map fun x => renderStatement (f x) [g x]) := by
  induction items with
  | nil => simp [renderStatement_of_unmarked (rfl : marks "" = 0)]
  | cons x rest ih =>
    rw [List.forall_mem_cons] at hf
    have hone : ∀ more, renderStatement (f x) (g x :: more) = renderStatement (f x) [g x] := by
      intro more
      rw [← renderStatement_take, hf.1]
      rfl
    cases rest with
    | nil => simpa using hone others
    | cons y rest =>
      simp only [List.map_cons, String.intercalate_cons_cons] at ih ⊢
      rw [renderStatement_append, renderStatement_append, marks_append, hf.1, hsep,
        renderStatement_of_unmarked hsep,
        List.cons_append, hone]
      exact congrArg _ (ih hf.2)

lemma placeholders_eq_map (fields : List (String × Scalar)) :
    placeholders fields.length = ",".intercalate (fields.map fun _ => "?") := by
  rw [placeholders, List.map_const']

/-- **An insertion** shows each value in the place of its column. -/
lemma insertStatement_rendered (htable : marks table = 0)
    (hcolumns : ∀ column ∈ record.columns, marks column = 0)
    (h : insertStatement table record = .ok s) :
    renderStatement s.sql s.params = "INSERT INTO " ++ table ++ "(" ++ ",".intercalate
      record.columns ++ ") VALUES("
      ++ ",".intercalate (record.values.map Scalar.inline) ++ ")" := by
  unfold insertStatement at h
  split_ifs at h
  cases h
  have hliterals : marks "INSERT INTO " = 0 ∧ marks "(" = 0 ∧ marks ") VALUES(" = 0 ∧ marks ")" = 0
      ∧ marks "," = 0 ∧ marks "?" = 1 := by
    decide
  have hfront : marks ("INSERT INTO " ++ table ++ "(" ++ ",".intercalate record.columns
    ++ ") VALUES(") = 0 := by
    simp [htable, marks_names hcolumns, hliterals]
  have hvalues : renderStatement (placeholders record.size) record.values
      = ",".intercalate (record.values.map Scalar.inline) := by
    have hones : ∀ pair ∈ record.fields, marks ((fun _ => "?") pair) = 1 :=
      fun _ _ => hliterals.2.2.2.2.2
    have hitems := renderStatement_intercalate (g := (·.2)) (by decide : marks "," = 0) hones []
    simpa [Record.size, Record.values, placeholders_eq_map, Function.comp_def] using hitems
  rw [renderStatement_append, renderStatement_append, renderStatement_of_unmarked hfront, hfront,
    List.drop_zero,
    hvalues, renderStatement_of_unmarked hliterals.2.2.2.1]

/-- **A setting** shows the value behind its column. -/
lemma renderStatement_setting {name : String} (h : marks name = 0) (value : Scalar) :
    renderStatement (name ++ "=?") [value] = name ++ "=" ++ value.inline := by
  have hequals : marks "=" = 0 ∧ marks "" = 0 := by decide
  have hfront : marks (name ++ "=") = 0 := by simp [h, hequals.1]
  have htext : name ++ "=?" = name ++ "=" ++ "?" ++ "" := by
    rw [← String.toList_inj]
    simp
  have hplace : marks (name ++ "=") = ([] : List Scalar).length := hfront
  have hshown := renderStatement_at_mark hplace "" value []
  rwa [← htext, renderStatement_of_unmarked hfront, renderStatement_of_unmarked hequals.2,
    String.append_empty]
    at hshown

lemma renderStatement_settings {fields : List (String × Scalar)}
    (h : ∀ pair ∈ fields, marks pair.1 = 0) :
    renderStatement (",".intercalate (fields.map fun pair => pair.1 ++ "=?")) (fields.map (·.2))
      = ",".intercalate (fields.map fun pair => pair.1 ++ "=" ++ pair.2.inline) := by
  have hmark : marks "=?" = 1 := by decide
  have hones : ∀ pair ∈ fields, marks (pair.1 ++ "=?") = 1 := by
    intro pair hmem
    simp [h pair hmem, hmark]
  have hitems := renderStatement_intercalate (g := (·.2)) (by decide : marks "," = 0) hones []
  rw [List.append_nil] at hitems
  rw [hitems]
  congr 1
  exact List.map_congr_left fun pair hmem => renderStatement_setting (h pair hmem) pair.2

/-- **A condition** shows the value that selects. -/
lemma renderStatement_selected {front : String} {earlier : List Scalar}
    (h : marks front = earlier.length)
    (key : Scalar) :
    renderStatement (front ++ " WHERE " ++ idColumn ++ "=?") (earlier ++ [key])
      = renderStatement front earlier ++ " WHERE " ++ idColumn ++ "=" ++ key.inline := by
  have hliterals : marks " WHERE " = 0 ∧ marks idColumn = 0 ∧ marks "=" = 0 ∧ marks ""
    = 0 := by decide
  obtain ⟨hwhere, hid, hequals, hnone⟩ := hliterals
  have hmarks : marks (front ++ " WHERE " ++ idColumn ++ "=") = earlier.length := by
    simp [h, hwhere, hid, hequals]
  have htext : front ++ " WHERE " ++ idColumn ++ "=?" = front ++ " WHERE " ++ idColumn ++ "=" ++ "?"
    ++ "" := by
    rw [← String.toList_inj]
    simp
  rw [htext, renderStatement_at_mark hmarks, renderStatement_of_unmarked hnone, String.append_empty,
    renderStatement_append, renderStatement_append, renderStatement_append,
      renderStatement_of_unmarked hwhere,
    renderStatement_of_unmarked hid, renderStatement_of_unmarked hequals]

/-- **An update** shows each value behind its column. -/
lemma updateStatement_rendered (htable : marks table = 0)
    (hcolumns : ∀ column ∈ record.columns, marks column = 0)
    (h : updateStatement table record = .ok s) :
    ∃ id, record.id? = some id ∧ renderStatement s.sql s.params
      = "UPDATE " ++ table ++ " SET "
        ++ ",".intercalate ((settable record).map fun pair => pair.1 ++ "=" ++ pair.2.inline)
        ++ " WHERE " ++ idColumn ++ "=" ++ id.inline := by
  unfold updateStatement at h
  cases hid : record.id? with
  | none => simp [hid] at h
  | some id =>
    rw [hid] at h
    dsimp only at h
    split_ifs at h
    cases h
    have hnames : ∀ pair ∈ settable record, marks pair.1 = 0 := by
      intro pair hpair
      exact hcolumns pair.1 (List.mem_map_of_mem (List.mem_filter.mp hpair).1)
    have hfront : marks ("UPDATE " ++ table ++ " SET ") = 0 := by
      have hliterals : marks "UPDATE " = 0 ∧ marks " SET " = 0 := by decide
      simp [htable, hliterals]
    have hsetters : marks (",".intercalate ((settable record).map fun pair => pair.1 ++ "=?"))
        = ((settable record).map (·.2)).length := by
      have hunmarked : ∀ column ∈ (settable record).map (·.1), marks column = 0 := by
        simpa using hnames
      simpa [Function.comp_def] using marks_setters hunmarked
    have hmarks : marks ("UPDATE " ++ table ++ " SET "
        ++ ",".intercalate ((settable record).map fun pair => pair.1 ++ "=?"))
        = ((settable record).map (·.2)).length := by
      rw [marks_append, hfront, hsetters, Nat.zero_add]
    refine ⟨id, rfl, ?_⟩
    rw [renderStatement_selected hmarks, renderStatement_append, hfront, List.drop_zero,
      renderStatement_of_unmarked hfront, renderStatement_settings hnames]

/-- **A deletion** shows the id that it selects. -/
lemma deleteStatement_rendered (htable : marks table = 0)
    (h : deleteStatement table target = .ok s) :
    ∃ id, target.idValue = .ok id
      ∧ renderStatement s.sql s.params = "DELETE FROM " ++ table ++ " WHERE " ++ idColumn ++ "="
        ++ id.inline := by
  unfold deleteStatement at h
  cases hid : target.idValue with
  | error fault => simp [hid] at h
  | ok id =>
    rw [hid] at h
    cases h
    have hfront : marks ("DELETE FROM " ++ table) = 0 := by
      have hliteral : marks "DELETE FROM " = 0 := by decide
      simp [htable, hliteral]
    have hempty : marks ("DELETE FROM " ++ table) = ([] : List Scalar).length := hfront
    have hrendered := renderStatement_selected hempty id
    rw [renderStatement_of_unmarked hfront] at hrendered
    exact ⟨id, rfl, hrendered⟩

lemma readStatement_rendered (htable : marks table = 0) (key : Scalar) :
    renderStatement (readStatement table key).sql (readStatement table key).params
      = "SELECT * FROM " ++ table ++ " WHERE " ++ idColumn ++ "=" ++ key.inline := by
  have hfront : marks ("SELECT * FROM " ++ table) = 0 := by
    have hliteral : marks "SELECT * FROM " = 0 := by decide
    simp [htable, hliteral]
  have hempty : marks ("SELECT * FROM " ++ table) = ([] : List Scalar).length := hfront
  have hrendered := renderStatement_selected hempty key
  rwa [renderStatement_of_unmarked hfront] at hrendered

/-- **What is shown of a statement.**  Between the pieces of its text stand the values, as many as
there are placeholders for, and the placeholders for which there are none.  So a text can be read in
two parts, of which the second goes on with the values that the placeholders of the first one leave;
what a value is written as is shown as it is and takes no value from those that follow; and values
beyond the placeholders are not shown.  Of the statements that are made from records, if the names
have no placeholder in them, each value is shown in the place of its column. -/
theorem rendered_in_order (sql : String) (values : List Scalar) :
    (let shown := min (marks sql) values.length;
      (pieces '?' sql).length = marks sql + 1
        ∧ renderStatement sql values
          = weave (pieces '?' sql)
              ((values.take shown).map Scalar.inline ++ List.replicate (marks sql - shown) "?"))
      ∧ (∀ a b, sql = a ++ b →
        renderStatement sql values = renderStatement a values ++ renderStatement b
          (values.drop (marks a)))
      ∧ (∀ a b earlier value later, sql = a ++ "?" ++ b → values = earlier ++ value :: later →
        marks a = earlier.length →
        renderStatement sql values = renderStatement a earlier ++ value.inline
          ++ renderStatement b later)
      ∧ (∀ others, marks sql ≤ values.length → renderStatement sql (values ++ others)
        = renderStatement sql values)
      ∧ ∀ table record target key, marks table = 0 → (∀ column ∈ record.columns, marks column = 0) →
        (∀ s, insertStatement table record = .ok s →
          renderStatement s.sql s.params = "INSERT INTO " ++ table ++ "(" ++ ",".intercalate
            record.columns
            ++ ") VALUES(" ++ ",".intercalate (record.values.map Scalar.inline) ++ ")")
        ∧ (∀ s, updateStatement table record = .ok s →
          ∃ id, record.id? = some id ∧ renderStatement s.sql s.params = "UPDATE " ++ table
            ++ " SET "
            ++ ",".intercalate ((settable record).map fun pair => pair.1 ++ "=" ++ pair.2.inline)
            ++ " WHERE " ++ idColumn ++ "=" ++ id.inline)
        ∧ (∀ s, deleteStatement table target = .ok s →
          ∃ id, target.idValue = .ok id
            ∧ renderStatement s.sql s.params = "DELETE FROM " ++ table ++ " WHERE " ++ idColumn
              ++ "=" ++ id.inline)
        ∧ renderStatement (readStatement table key).sql (readStatement table key).params
          = "SELECT * FROM " ++ table ++ " WHERE " ++ idColumn ++ "=" ++ key.inline := by
  refine ⟨?_, ?_, ?_, ?_, ?_⟩
  · intro shown
    obtain ⟨hlength, hshown⟩ := renderStatement_eq_weave sql values
    have htaken : values.take shown = values.take (marks sql) := by
      rw [List.take_eq_take_iff]
      omega
    have hleft : marks sql - shown = marks sql - values.length := by omega
    rw [htaken, hleft]
    exact ⟨hlength, hshown⟩
  · rintro a b rfl
    exact renderStatement_append a b values
  · rintro a b earlier value later rfl rfl hplace
    exact renderStatement_at_mark hplace b value later
  · intro others hle
    rw [← renderStatement_take sql (values ++ others), List.take_append_of_le_length hle,
      renderStatement_take]
  · intro table record target key htable hcolumns
    exact ⟨fun s h => insertStatement_rendered htable hcolumns h,
      fun s h => updateStatement_rendered htable hcolumns h,
      fun s h => deleteStatement_rendered htable h, readStatement_rendered htable key⟩

/-- A value with a placeholder in it, one placeholder too many, and a record of which one value
looks like a placeholder. -/
theorem rendered_in_order_question :
    let question : Scalar := .text "?"
    let seven : Scalar := .int 7
    let record : Record := ⟨[("id", .int 9), ("name", question)]⟩
    marks "SELECT ?, " = [question].length ∧ marks "SELECT ?, ?" ≤ [question, seven].length
      ∧ renderStatement "SELECT ?, ?, ?" [question, seven] = "SELECT '?', 7, ?"
      ∧ renderStatement "SELECT ?, ?" ([question, seven] ++ [.null]) = "SELECT '?', 7"
      ∧ marks "users" = 0 ∧ (∀ column ∈ record.columns, marks column = 0)
      ∧ ∃ s, updateStatement "users" record = .ok s
        ∧ renderStatement s.sql s.params = "UPDATE users SET name='?' WHERE id=9" := by
  intro question seven record
  have hplace : marks "SELECT ?, " = [question].length := by decide
  have hfull : marks "SELECT ?, ?" ≤ [question, seven].length := by decide
  have htable : marks "users" = 0 := by decide
  have hcolumns : ∀ column ∈ record.columns, marks column = 0 := by decide
  obtain ⟨-, -, hthird, -, -⟩ := rendered_in_order "SELECT ?, ?, ?" [question, seven]
  obtain ⟨-, -, hsecond, hbeyond, hmade⟩ := rendered_in_order "SELECT ?, ?" [question, seven]
  obtain ⟨-, hupdate, -⟩ := hmade "users" record (.id .null) .null htable hcolumns
  have hstatement : updateStatement "users" record
      = .ok ⟨.update, "UPDATE users SET name=? WHERE id=?", [question, .int 9]⟩ := rfl
  obtain ⟨id, hid, hshown⟩ := hupdate _ hstatement
  obtain rfl : Scalar.int 9 = id := Option.some.inj hid
  refine ⟨hplace, hfull, ?_, ?_, htable, hcolumns, _, hstatement, hshown.trans ?_⟩
  · rw [hthird "SELECT ?, " ", ?" [question] seven [] rfl rfl hplace]
    decide
  · rw [hbeyond [.null] hfull, hsecond "SELECT ?, " "" [question] seven [] rfl rfl hplace]
    decide
  · decide

end Transactional
