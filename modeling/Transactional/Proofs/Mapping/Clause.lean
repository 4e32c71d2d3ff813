import Mathlib
import Transactional.Record

/-!
# Reading statements of one table

A statement that is made from a record is read back from its text: words between spaces, lists
between commas, and the columns that the placeholders stand for.  The reader knows nothing of
records.

* `Clause` — what a statement of one table says; `Clause.ofText?` — what a text says, word by word.
* `Bare` — names that have none of the characters that separate the parts of a statement.
* `bracketed?_list`, `mapM_assigned?` — lists of names are read back.
-/

namespace Transactional

/-- **What a statement of one table says.**  Each of the columns has a placeholder, in this order.
-/
inductive Clause where
  | insert (table : String) (columns : List String)
  | update (table : String) (columns : List String) (key : String)
  | delete (table : String) (key : String)
  | read (table : String) (key : String)
deriving DecidableEq

/-- What stands between the occurrences of a character. -/
def pieces (c : Char) (text : String) : List String :=
  (text.split c).toList.map (·.copy)

def assigned? (text : String) : Option String :=
  match pieces '=' text with
  | [column, "?"] => some column
  | _ => none

/-- The name and the items of `name(item,item)`. -/
def bracketed? (text : String) : Option (String × List String) :=
  match pieces '(' text with
  | [name, rest] =>
      match pieces ')' rest with
      | [items, ""] => some (name, pieces ',' items)
      | _ => none
  | _ => none

/-- What a list of words says.  A list of values has as many placeholders as there are columns, and
nothing else. -/
def Clause.ofWords? : List String → Option Clause
  | ["INSERT", "INTO", target, source] => do
      let (table, columns) ← bracketed? target
      if bracketed? source = some ("VALUES", columns.map fun _ => "?") then
        some (.insert table columns)
      else none
  | ["UPDATE", table, "SET", setters, "WHERE", selector] => do
      let columns ← (pieces ',' setters).mapM assigned?
      let key ← assigned? selector
      some (.update table columns key)
  | ["DELETE", "FROM", table, "WHERE", selector] => (assigned? selector).map (.delete table)
  | ["SELECT", "*", "FROM", table, "WHERE", selector] => (assigned? selector).map (.read table)
  | _ => none

/-- **What a text says**, if it is a statement of one table. -/
def Clause.ofText? (sql : String) : Option Clause :=
  ofWords? (pieces ' ' sql)

def marks (sql : String) : Nat :=
  sql.toList.count '?'

/-! ## Names -/

/-- The characters that separate the parts of a statement. -/
def separators : List Char :=
  [',', '?', '(', ')', '=', ' ']

def Bare (name : String) : Prop :=
  ∀ c ∈ separators, c ∉ name.toList

instance (name : String) : Decidable (Bare name) :=
  List.decidableBAll (fun c => c ∉ name.toList) separators

variable {c : Char} {sep text name table : String} {parts columns : List String}

lemma count_intercalate (hsep : c ∉ sep.toList) (parts : List String) :
    (sep.intercalate parts).toList.count c = (parts.map (·.toList.count c)).sum := by
  induction parts with
  | nil => simp
  | cons first rest ih =>
    cases rest with
    | nil => simp
    | cons second rest =>
      rw [String.intercalate_cons_cons, String.toList_append, String.toList_append,
        List.count_append,
        List.count_append, List.count_eq_zero_of_not_mem hsep, ih]
      simp

lemma not_mem_intercalate (hsep : c ∉ sep.toList) (h : ∀ p ∈ parts, c ∉ p.toList) :
    c ∉ (sep.intercalate parts).toList := by
  rw [← List.count_eq_zero, count_intercalate hsep]
  simpa [List.sum_eq_zero_iff, List.count_eq_zero] using h

@[simp] lemma marks_append (a b : String) : marks (a ++ b) = marks a + marks b := by
  simp [marks]

lemma marks_intercalate (parts : List String) :
    marks (",".intercalate parts) = (parts.map marks).sum :=
  count_intercalate (by simp) parts

lemma marks_names (h : ∀ column ∈ columns, marks column = 0) :
    marks (",".intercalate columns) = 0 := by
  rw [marks_intercalate, List.sum_eq_zero_iff]
  simpa using h

lemma marks_setters (h : ∀ column ∈ columns, marks column = 0) :
    marks (",".intercalate (columns.map (· ++ "=?"))) = columns.length := by
  have hmark : marks "=?" = 1 := by decide
  rw [marks_intercalate, List.map_map]
  induction columns with
  | nil => rfl
  | cons column rest ih =>
    rw [List.forall_mem_cons] at h
    simp [h.1, hmark, ih h.2, Nat.add_comm]

lemma Bare.marks (h : Bare name) : marks name = 0 :=
  List.count_eq_zero.mpr (h '?' (by decide))

lemma pieces_intercalate (hne : parts ≠ []) (h : ∀ p ∈ parts, c ∉ p.toList) :
    pieces c ((String.singleton c).intercalate parts) = parts := by
  rw [pieces, String.toList_split_intercalate h, if_neg hne]

lemma Clause.ofText?_words {words : List String} (hne : words ≠ [])
    (h : ∀ word ∈ words, ' ' ∉ word.toList) :
    ofText? (" ".intercalate words) = ofWords? words :=
  congrArg ofWords? (pieces_intercalate hne h)

/-! ## Lists of names -/

lemma assigned?_bare (h : '=' ∉ name.toList) : assigned? (name ++ "=?") = some name := by
  have hpieces : pieces '=' (name ++ "=?") = [name, "?"] := by
    have hjoined : name ++ "=?" = (String.singleton '=').intercalate [name, "?"] := by
      simp [String.intercalate_cons_cons, String.append_assoc]
    rw [hjoined]
    exact pieces_intercalate (by simp) (by simpa using h)
  simp [assigned?, hpieces]

/-- **A list of settings** is read back, column by column. -/
lemma mapM_assigned? (h : ∀ column ∈ columns, '=' ∉ column.toList) :
    (columns.map (· ++ "=?")).mapM assigned? = some columns := by
  induction columns with
  | nil => rfl
  | cons column rest ih =>
    rw [List.forall_mem_cons] at h
    simp [assigned?_bare h.1, ih h.2]

/-- **A list between parentheses** is read back. -/
lemma bracketed?_list (hname : '(' ∉ name.toList) (hne : parts ≠ [])
    (hparts : ∀ p ∈ parts, ',' ∉ p.toList ∧ '(' ∉ p.toList ∧ ')' ∉ p.toList) :
    bracketed? (name ++ "(" ++ ",".intercalate parts ++ ")") = some (name, parts) := by
  have hopen : '(' ∉ (",".intercalate parts).toList :=
    not_mem_intercalate (by simp) fun p hp => (hparts p hp).2.1
  have hclose : ')' ∉ (",".intercalate parts).toList :=
    not_mem_intercalate (by simp) fun p hp => (hparts p hp).2.2
  have hitems : pieces ',' (",".intercalate parts) = parts :=
    pieces_intercalate hne fun p hp => (hparts p hp).1
  have hrest : pieces ')' (",".intercalate parts ++ ")") = [",".intercalate parts, ""] := by
    have hjoined : ",".intercalate parts ++ ")"
        = (String.singleton ')').intercalate [",".intercalate parts, ""] := by
      simp [String.intercalate_cons_cons]
    rw [hjoined]
    exact pieces_intercalate (by simp) (by simpa using hclose)
  have hfront : pieces '(' (name ++ "(" ++ ",".intercalate parts ++ ")")
      = [name, ",".intercalate parts ++ ")"] := by
    have hjoined : name ++ "(" ++ ",".intercalate parts ++ ")"
        = (String.singleton '(').intercalate [name, ",".intercalate parts ++ ")"] := by
      simp [String.intercalate_cons_cons, String.append_assoc]
    rw [hjoined]
    exact pieces_intercalate (by simp) (by simpa using And.intro hname hopen)
  simp [bracketed?, hfront, hrest, hitems]

end Transactional
