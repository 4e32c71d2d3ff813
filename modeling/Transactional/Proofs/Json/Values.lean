import Transactional.Proofs.Json.Reads

/-!
# JSON values read back

A value without floating-point numbers is read back from its compact text, if its lists and objects
lie no deeper than a reader may go.

* `Json.Exact` — no floating-point number, and objects and integers as values have them.
* `Json.nesting` — how deep lists and objects lie inside each other.
* `Json.object_members` — members in ascending order make an object of just these members.
* `Json.reads_value` — the reader of values undoes the writer of them.
-/

namespace Transactional

namespace Json

/-- **A value that its text keeps exactly**: it contains no floating-point number, its integers have
sixty-four bits, signed or unsigned, and its objects have their members in ascending order of the
keys. -/
inductive Exact : Json → Prop where
  | null : Exact .null
  | bool (b : Bool) : Exact (.bool b)
  | int {i : Int} (least : -2 ^ 63 ≤ i) (greatest : i < 2 ^ 64) : Exact (.int i)
  | str (s : String) : Exact (.str s)
  | arr {items : List Json} (h : ∀ item ∈ items, Exact item) : Exact (.arr items)
  | obj {members : List (String × Json)} (ascending : members.Pairwise (·.1 < ·.1))
      (h : ∀ member ∈ members, Exact member.2) : Exact (.obj members)

mutual

/-- **How deep lists and objects lie inside each other.** -/
def nesting : Json → Nat
  | .arr items => nestingItems items + 1
  | .obj members => nestingMembers members + 1
  | _ => 0

def nestingItems : List Json → Nat
  | [] => 0
  | item :: rest => max item.nesting (nestingItems rest)

/-- The greatest depth of an object's members. -/
def nestingMembers : List (String × Json) → Nat
  | [] => 0
  | (_, value) :: rest => max value.nesting (nestingMembers rest)

end

variable {j : Json} {items : List Json} {members sorted : List (String × Json)} {depth : Nat}

lemma nesting_item (h : j ∈ items) : j.nesting ≤ nestingItems items := by
  induction items with
  | nil => cases h
  | cons item rest ih =>
    rcases List.mem_cons.mp h with rfl | h
    · exact Nat.le_max_left ..
    · exact (ih h).trans (Nat.le_max_right ..)

lemma nesting_member {member : String × Json} (h : member ∈ members) :
    member.2.nesting ≤ nestingMembers members := by
  induction members with
  | nil => cases h
  | cons first rest ih =>
    rcases List.mem_cons.mp h with rfl | h
    · exact Nat.le_max_left ..
    · exact (ih h).trans (Nat.le_max_right ..)

/-! ## Objects -/

lemma insertMember_last {key : String} {value : Json} (h : ∀ member ∈ sorted, member.1 < key) :
    insertMember key value sorted = sorted ++ [(key, value)] := by
  induction sorted with
  | nil => rfl
  | cons member rest ih =>
    obtain ⟨k, v⟩ := member
    have hk : k < key := h (k, v) List.mem_cons_self
    have hne : key ≠ k := fun heq => String.lt_irrefl k (heq ▸ hk)
    have hlt : ¬key < k := fun hlt => String.lt_irrefl k (String.lt_trans hk hlt)
    rw [insertMember, if_neg hne, if_neg hlt, ih fun member hm => h member
      (List.mem_cons_of_mem _ hm)]
    rfl

/-- **Members in ascending order** make an object of just these members. -/
lemma object_members (h : members.Pairwise (·.1 < ·.1)) : object members = .obj members := by
  have hfold : ∀ {later sorted : List (String × Json)}, (sorted ++ later).Pairwise (·.1 < ·.1) →
      later.foldl (fun sorted member => insertMember member.1 member.2 sorted) sorted = sorted
        ++ later := by
    intro later
    induction later with
    | nil => exact fun _ => (List.append_nil _).symm
    | cons member later ih =>
      intro sorted h
      have hlast : ∀ earlier ∈ sorted, earlier.1 < member.1 :=
        fun earlier he => (List.pairwise_append.mp h).2.2 earlier he member List.mem_cons_self
      rw [List.foldl_cons, insertMember_last hlast, ih] <;> rw [List.append_assoc]
      · rfl
      · exact h
  exact congrArg Json.obj (hfold h)

/-! ## Values -/

lemma writers_eq (items : List Json) : writers items = items.map write := by
  induction items with
  | nil => rw [writers, List.map_nil]
  | cons item rest ih => rw [writers, ih, List.map_cons]

lemma memberWriters_eq (members : List (String × Json)) :
    memberWriters members = members.map fun member => (member.1, member.2.write) := by
  induction members with
  | nil => rw [memberWriters, List.map_nil]
  | cons member rest ih => rw [memberWriters, ih, List.map_cons]

lemma reads_leaf {w : Writer} {l : Leaf} (inner : Option (Decoder Json)) (hfronts : Fronts w)
    (hleaf : ∀ rest, Follows rest → leaf (w rest) = .ok (some (l, rest))) :
    (valueOver inner).Reads w (ofLeaf l) := by
  refine ⟨hfronts, fun rest hrest => ?_⟩
  have hread := hleaf rest hrest
  unfold valueOver
  rw [hfronts.skipGaps]
  split <;> rename_i heq
  · rw [heq] at hread
    cases hread
  · rw [heq] at hread
    cases hread
  · rw [heq] at hread
    cases hread
  · rw [hread]
    rfl

lemma reads_valueLeaf {w : Writer} {l : Leaf} (depth : Nat) (hfronts : Fronts w)
    (hleaf : ∀ rest, Follows rest → leaf (w rest) = .ok (some (l, rest))) :
    (value depth).Reads w (ofLeaf l) := by
  cases depth with
  | zero => exact reads_leaf none hfronts hleaf
  | succ depth => exact reads_leaf (some (value depth)) hfronts hleaf

lemma reads_items (h : ∀ item ∈ items, (value depth).Reads item.write item) :
    (value (depth + 1)).Reads (writeList (writers items)) (.arr items) := by
  have hitems : List.Forall₂ (value depth).Reads (writers items) items := by
    rw [writers_eq, List.forall₂_map_left_iff]
    exact List.forall₂_same.mpr h
  refine ⟨.writeList (Decoder.fronts_of_reads hitems), fun rest _ => ?_⟩
  obtain ⟨inner, hinner, hread⟩ := Decoder.items_written hitems rest
  have hlist : value (depth + 1) ('[' :: inner)
      = Decoder.items (value depth) (inner.length + 1) true inner >>= fun x =>
        .ok (.arr x.1, x.2) := rfl
  rw [hinner, hlist, hread]
  rfl

lemma reads_members (ascending : members.Pairwise (·.1 < ·.1))
    (h : ∀ member ∈ members, (value depth).Reads member.2.write member.2) :
    (value (depth + 1)).Reads (writeMembers (memberWriters members)) (.obj members) := by
  have hmembers : List.Forall₂ (value depth).ReadsMember (memberWriters members) members := by
    rw [memberWriters_eq, List.forall₂_map_left_iff]
    exact List.forall₂_same.mpr fun member hm => ⟨rfl, h member hm⟩
  refine ⟨.writeMembers (Decoder.fronts_of_readsMember hmembers), fun rest _ => ?_⟩
  obtain ⟨inner, hinner, hread⟩ := Decoder.members_written hmembers rest
  have hobject : value (depth + 1) ('\x7b' :: inner)
      = Decoder.members (value depth) (inner.length + 1) true inner >>= fun x =>
        .ok (object x.1, x.2) := rfl
  rw [hinner, hobject, hread]
  exact congrArg (fun j => Except.ok (j, rest)) (object_members ascending)

/-- **The reader of values undoes the writer of them**, at any depth that the value does not exceed.
-/
theorem reads_value (h : j.Exact) (hdepth : j.nesting ≤ depth) : (value depth).Reads j.write j := by
  induction h generalizing depth with
  | null =>
    rw [write]
    exact reads_valueLeaf depth .null fun _ _ => rfl
  | bool b =>
    rw [write]
    exact reads_valueLeaf depth (.truth b) fun _ _ => leaf_truth b
  | int least greatest =>
    rw [write]
    exact reads_valueLeaf depth (.writeInt _) fun _ => leaf_writeInt least greatest
  | str s =>
    rw [write]
    exact reads_valueLeaf depth (.writeText s) fun _ _ => leaf_writeText s
  | @arr items _ ih =>
    rw [nesting] at hdepth
    obtain ⟨depth, rfl⟩ := Nat.exists_eq_add_one.mpr (Nat.zero_lt_of_lt hdepth)
    rw [write]
    exact reads_items fun item hitem =>
      ih item hitem ((nesting_item hitem).trans (Nat.le_of_succ_le_succ hdepth))
  | @obj members ascending _ ih =>
    rw [nesting] at hdepth
    obtain ⟨depth, rfl⟩ := Nat.exists_eq_add_one.mpr (Nat.zero_lt_of_lt hdepth)
    rw [write]
    exact reads_members ascending fun member hmember =>
      ih member hmember ((nesting_member hmember).trans (Nat.le_of_succ_le_succ hdepth))

end Json

end Transactional
