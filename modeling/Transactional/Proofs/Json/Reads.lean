import Mathlib.Data.List.Forall2
import Transactional.Proofs.Json.Lexemes

/-!
# Readers that undo writers

A reader undoes a writer if it reads off what the writer has put in front of any rest that may
follow, and leaves that rest.  A reader of lists or of objects undoes the writer of them, if the
reader of the items undoes the writers of the items.

* `Json.Fronts` — a writer that puts a text in front of the rest.
* `Decoder.Reads` — a reader undoes a writer, which has written a given value.
* `Decoder.reads_text`, `Decoder.reads_bool`, `Decoder.reads_integer` — single values.
* `Decoder.reads_list`, `Decoder.members_written` — the items of a list and the members of an
  object.
-/

namespace Transactional

namespace Json

/-- **A way to write something**: to put it in front of a rest. -/
abbrev Writer : Type :=
  List Char → List Char

/-- The items after the first, and the end of the list. -/
def laterItems (ws : List Writer) (rest : List Char) : List Char :=
  ws.foldr (fun item tail => ',' :: item tail) (']' :: rest)

/-- The members after the first, and the end of the object. -/
def laterMembers (ms : List (String × Writer)) (rest : List Char) : List Char :=
  ms.foldr (fun member tail => ',' :: writeMember member tail) ('\x7d' :: rest)

/-- **A writer that puts a text in front of the rest**, at least one character, the first of which
is no blank and does not end a list. -/
def Fronts (w : Writer) : Prop :=
  ∃ c more, isGap c = false ∧ c ≠ ']' ∧ ∀ rest, w rest = c :: (more ++ rest)

variable {w : Writer} {ws : List Writer} {m : String × Writer} {ms : List (String × Writer)}
  {rest : List Char} {c : Char}

lemma skipGaps_cons (hgap : isGap c = false) : skipGaps (c :: rest) = c :: rest := by
  rw [skipGaps, List.dropWhile_cons_of_neg]
  rw [hgap]
  exact Bool.false_ne_true

namespace Fronts

lemma of (c : Char) {v : Writer} (hgap : isGap c = false) (hclose : c ≠ ']')
    (hv : ∃ more, ∀ rest, v rest = more ++ rest) : Fronts fun rest => c :: v rest := by
  obtain ⟨more, hmore⟩ := hv
  exact ⟨c, more, hgap, hclose, fun rest => congrArg (c :: ·) (hmore rest)⟩

lemma appends (h : Fronts w) : ∃ more, ∀ rest, w rest = more ++ rest := by
  obtain ⟨c, more, -, -, hw⟩ := h
  exact ⟨c :: more, hw⟩

lemma skipGaps (h : Fronts w) (rest : List Char) : skipGaps (w rest) = w rest := by
  obtain ⟨c, more, hgap, -, hw⟩ := h
  rw [hw, skipGaps_cons hgap]

lemma length_lt (h : Fronts w) (rest : List Char) : rest.length < (w rest).length := by
  obtain ⟨c, more, -, -, hw⟩ := h
  rw [hw, List.length_cons, List.length_append]
  omega

lemma null : Fronts (prepend "null") :=
  ⟨'n', ['u', 'l', 'l'], rfl, by decide, fun _ => rfl⟩

lemma truth (b : Bool) : Fronts (prepend (Text.truth b)) := by
  cases b with
  | false => exact ⟨'f', ['a', 'l', 's', 'e'], rfl, by decide, fun _ => rfl⟩
  | true => exact ⟨'t', ['r', 'u', 'e'], rfl, by decide, fun _ => rfl⟩

lemma writeText (text : String) : Fronts (Json.writeText text) :=
  .of '"' rfl (by decide) ⟨text.toList.flatMap escapedChar ++ ['"'], fun rest => by simp⟩

lemma writeInt (i : Int) : Fronts (Json.writeInt i) := by
  cases i with
  | ofNat n =>
    obtain ⟨d, more, hd, hdigits⟩ := Text.natural_starts n
    refine ⟨d.digitChar, more, ?_, ?_, fun rest => ?_⟩
    · interval_cases d <;> rfl
    · interval_cases d <;> decide
    · rw [Json.writeInt, prepend, Text.whole, Text.toList_natural, hdigits]
      rfl
  | negSucc n =>
    refine ⟨'-', Nat.toDigits 10 (n + 1), rfl, by decide, fun rest => ?_⟩
    rw [Json.writeInt, prepend, Text.whole, String.toList_append, Text.toList_natural]
    rfl

lemma laterItems (h : ∀ w ∈ ws, Fronts w) : ∃ more, ∀ rest, laterItems ws rest = more ++ rest := by
  induction ws with
  | nil => exact ⟨[']'], fun _ => rfl⟩
  | cons w ws ih =>
    obtain ⟨later, hlater⟩ := ih fun v hv => h v (List.mem_cons_of_mem _ hv)
    obtain ⟨more, hmore⟩ := (h w List.mem_cons_self).appends
    refine ⟨',' :: (more ++ later), fun rest => ?_⟩
    change ',' :: w (Json.laterItems ws rest) = _
    rw [hlater, hmore, List.cons_append, List.append_assoc]

lemma writeList (h : ∀ w ∈ ws, Fronts w) : Fronts (Json.writeList ws) := by
  cases ws with
  | nil => exact .of '[' rfl (by decide) ⟨[']'], fun _ => rfl⟩
  | cons w ws =>
    obtain ⟨later, hlater⟩ := laterItems fun v hv => h v (List.mem_cons_of_mem _ hv)
    obtain ⟨more, hmore⟩ := (h w List.mem_cons_self).appends
    refine .of '[' rfl (by decide) ⟨more ++ later, fun rest => ?_⟩
    change w (Json.laterItems ws rest) = _
    rw [hlater, hmore, List.append_assoc]

lemma writeMember (h : Fronts m.2) : Fronts (Json.writeMember m) := by
  obtain ⟨c, more, hgap, hclose, hname⟩ := writeText m.1
  obtain ⟨value, hvalue⟩ := h.appends
  refine ⟨c, more ++ ':' :: value, hgap, hclose, fun rest => ?_⟩
  rw [Json.writeMember, hname, hvalue]
  simp

lemma laterMembers (h : ∀ m ∈ ms, Fronts m.2) :
    ∃ more, ∀ rest, laterMembers ms rest = more ++ rest := by
  induction ms with
  | nil => exact ⟨['\x7d'], fun _ => rfl⟩
  | cons m ms ih =>
    obtain ⟨later, hlater⟩ := ih fun v hv => h v (List.mem_cons_of_mem _ hv)
    obtain ⟨more, hmore⟩ := (writeMember (h m List.mem_cons_self)).appends
    refine ⟨',' :: (more ++ later), fun rest => ?_⟩
    change ',' :: Json.writeMember m (Json.laterMembers ms rest) = _
    rw [hlater, hmore, List.cons_append, List.append_assoc]

lemma writeMembers (h : ∀ m ∈ ms, Fronts m.2) : Fronts (Json.writeMembers ms) := by
  cases ms with
  | nil => exact .of '\x7b' rfl (by decide) ⟨['\x7d'], fun _ => rfl⟩
  | cons m ms =>
    obtain ⟨later, hlater⟩ := laterMembers fun v hv => h v (List.mem_cons_of_mem _ hv)
    obtain ⟨more, hmore⟩ := (writeMember (h m List.mem_cons_self)).appends
    refine .of '\x7b' rfl (by decide) ⟨more ++ later, fun rest => ?_⟩
    change Json.writeMember m (Json.laterMembers ms rest) = _
    rw [hlater, hmore, List.append_assoc]

end Fronts

lemma Follows.laterItems (ws : List Writer) (rest : List Char) : Follows (laterItems ws rest) := by
  cases ws with
  | nil => exact .bracket
  | cons w ws => exact .comma

lemma Follows.laterMembers (ms : List (String × Writer)) (rest : List Char) :
    Follows (laterMembers ms rest) := by
  cases ms with
  | nil => exact .brace
  | cons m ms => exact .comma

lemma length_laterItems (h : ∀ w ∈ ws, Fronts w) : ws.length < (laterItems ws rest).length := by
  induction ws with
  | nil => exact Nat.succ_pos _
  | cons w ws ih =>
    have hlater := ih fun v hv => h v (List.mem_cons_of_mem _ hv)
    have hfirst := (h w List.mem_cons_self).length_lt (laterItems ws rest)
    have hlength : (laterItems (w :: ws) rest).length = (w (laterItems ws rest)).length + 1 := rfl
    rw [List.length_cons]
    omega

lemma length_laterMembers (h : ∀ m ∈ ms, Fronts m.2) :
    ms.length < (laterMembers ms rest).length := by
  induction ms with
  | nil => exact Nat.succ_pos _
  | cons m ms ih =>
    have hlater := ih fun v hv => h v (List.mem_cons_of_mem _ hv)
    have hfirst := (Fronts.writeMember (h m List.mem_cons_self)).length_lt (laterMembers ms rest)
    have hlength : (laterMembers (m :: ms) rest).length
        = (writeMember m (laterMembers ms rest)).length + 1 := rfl
    rw [List.length_cons]
    omega

lemma leaf_writeText (text : String) :
    leaf (writeText text rest) = .ok (some (.text text, rest)) := by
  have hread : quotedText (text.toList.flatMap escapedChar ++ '"' :: rest) = .ok (text, rest) :=
    quotedText_escaped text
  simp only [writeText, leaf, hread]
  rfl

lemma leaf_truth (b : Bool) : leaf (prepend (Text.truth b) rest) = .ok (some (.bool b, rest)) := by
  cases b <;> rfl

lemma quotedText_writeMember (m : String × Writer) (rest : List Char) :
    quotedText ((writeMember m rest).drop 1) = .ok (m.1, ':' :: m.2 rest) :=
  quotedText_escaped m.1

end Json

namespace Decoder

open Json

variable {d : Decoder α} {w : Writer} {ws : List Writer} {ms : List (String × Writer)} {a : α}
  {values : List α} {pairs : List (String × α)} {rest : List Char} {depth fuel : Nat}

/-- **A reader undoes a writer**, which has written the given value. -/
structure Reads (d : Decoder α) (w : Writer) (a : α) : Prop where
  fronts : Fronts w
  reads : ∀ rest, Follows rest → d (w rest) = .ok (a, rest)

lemma Reads.map (h : d.Reads w a) (f : α → β) :
    Reads (fun text => do
      let (a, text) ← d text
      .ok (f a, text)) w (f a) :=
  ⟨h.fronts, fun rest hrest => by rw [h.reads rest hrest]; rfl⟩

lemma fronts_of_reads (h : List.Forall₂ d.Reads ws values) : ∀ w ∈ ws, Fronts w := by
  induction h with
  | nil => rintro w ⟨⟩
  | cons hw _ ih =>
    intro v hv
    rcases List.mem_cons.mp hv with rfl | hv
    · exact hw.fronts
    · exact ih v hv

/-! ## Single values -/

lemma reads_atom {wanted : String} {accept : Leaf → Except JsonFault α} {l : Leaf}
    (hfronts : Fronts w)
    (hleaf : ∀ rest, Follows rest → leaf (w rest) = .ok (some (l, rest)))
    (haccept : accept l = .ok a) :
    (atom wanted accept).Reads w a := by
  refine ⟨hfronts, fun rest hrest => ?_⟩
  have hread := hleaf rest hrest
  unfold atom
  simp only [hfronts.skipGaps]
  obtain ⟨c, more, -, -, hw⟩ := hfronts
  rw [hw] at hread ⊢
  simp only [hread, haccept]

lemma reads_text (s : String) : text.Reads (writeText s) s :=
  reads_atom (.writeText s) (fun _ _ => leaf_writeText s) rfl

lemma reads_bool (b : Bool) : bool.Reads (prepend (Text.truth b)) b :=
  reads_atom (.truth b) (fun _ _ => leaf_truth b) rfl

/-- **An integer between the bounds.** -/
lemma reads_integer (wanted : String) {least greatest i : Int} (hleast : least ≤ i)
    (hgreatest : i ≤ greatest)
    (hlow : -2 ^ 63 ≤ least) (hhigh : greatest < 2 ^ 64) :
    (integer wanted least greatest).Reads (writeInt i) i :=
  reads_atom (.writeInt i) (fun _ hrest => leaf_writeInt (by omega) (by omega) hrest)
    (if_pos ⟨hleast, hgreatest⟩)

/-! ## Lists -/

lemma moreItems_written (hfronts : Fronts w) (rest : List Char) :
    moreItems true (w rest) = .ok (true, w rest) ∧ moreItems false (',' :: w rest) = .ok
      (true, w rest) := by
  obtain ⟨c, more, hgap, hclose, hw⟩ := hfronts
  rw [hw]
  have hskip : skipGaps (c :: (more ++ rest)) = c :: (more ++ rest) := skipGaps_cons hgap
  constructor
  · unfold moreItems
    rw [hskip]
    split <;> rename_i heq
    · cases heq
    · exact absurd (List.cons.inj heq).1 hclose
    · obtain ⟨rfl, rfl⟩ := List.cons.inj heq
      rfl
  · have hcomma : skipGaps (',' :: c :: (more ++ rest)) = ',' :: c :: (more ++ rest) := rfl
    unfold moreItems
    rw [hcomma]
    split <;> rename_i heq
    · cases heq
    · exact absurd (List.cons.inj heq).1 (by decide)
    · obtain ⟨rfl, rfl⟩ := List.cons.inj heq
      simp only [Bool.false_eq_true, if_false, if_true, hskip]
      split <;> rename_i heq
      · cases heq
      · exact absurd (List.cons.inj heq).1 hclose
      · rfl

lemma items_step {first : Bool} {text : List Char}
    (hmore : moreItems first text = .ok (true, w (laterItems ws rest)))
    (hw : d.Reads w a) (hothers : items d fuel false (laterItems ws rest) = .ok (values, rest)) :
    items d (fuel + 1) first text = .ok (a :: values, rest) := by
  have hread : d (w (laterItems ws rest)) = .ok (a, laterItems ws rest) :=
    hw.reads _ (.laterItems ws rest)
  rw [items, hmore]
  simp only [bind, Except.bind, if_true, hread, hothers]

lemma items_later (h : List.Forall₂ d.Reads ws values) (hfuel : ws.length < fuel) :
    items d fuel false (laterItems ws rest) = .ok (values, rest) := by
  induction h generalizing fuel with
  | nil =>
    obtain ⟨fuel, rfl⟩ := Nat.exists_eq_add_one.mpr hfuel
    rfl
  | cons hw _ ih =>
    obtain ⟨fuel, rfl⟩ := Nat.exists_eq_add_one.mpr (Nat.zero_lt_of_lt hfuel)
    exact items_step (moreItems_written hw.fronts _).2 hw (ih (Nat.lt_of_succ_lt_succ hfuel))

/-- **The items of a list**, after its opening bracket. -/
lemma items_written (h : List.Forall₂ d.Reads ws values) (rest : List Char) :
    ∃ inner, writeList ws rest = '[' :: inner ∧ items d (inner.length + 1) true inner = .ok
      (values, rest) := by
  cases h with
  | nil => exact ⟨']' :: rest, rfl, rfl⟩
  | @cons w a ws values hw hrest =>
    have hfuel : ws.length < (w (laterItems ws rest)).length :=
      (length_laterItems (fronts_of_reads hrest)).trans (hw.fronts.length_lt _)
    exact ⟨w (laterItems ws rest), rfl,
      items_step (moreItems_written hw.fronts _).1 hw (items_later hrest hfuel)⟩

/-- **A list.** -/
lemma reads_list {item : Nat → Decoder α} (h : List.Forall₂ (item depth).Reads ws values) :
    (list item (depth + 1)).Reads (writeList ws) values := by
  refine ⟨.writeList (fronts_of_reads h), fun rest _ => ?_⟩
  obtain ⟨inner, hinner, hitems⟩ := items_written h rest
  rw [hinner]
  exact hitems

/-! ## Objects -/

/-- A reader undoes the writer of a member, which has the given name. -/
def ReadsMember (d : Decoder α) (m : String × Writer) (pair : String × α) : Prop :=
  m.1 = pair.1 ∧ d.Reads m.2 pair.2

lemma fronts_of_readsMember (h : List.Forall₂ d.ReadsMember ms pairs) : ∀ m ∈ ms, Fronts m.2 := by
  induction h with
  | nil => rintro m ⟨⟩
  | cons hm _ ih =>
    intro v hv
    rcases List.mem_cons.mp hv with rfl | hv
    · exact hm.2.fronts
    · exact ih v hv

lemma members_step {m : String × Writer} {pair : String × α} {first : Bool} {text : List Char}
    (hmore : moreMembers first text = .ok (true, writeMember m (laterMembers ms rest)))
    (hm : d.ReadsMember m pair)
    (hothers : members d fuel false (laterMembers ms rest) = .ok (pairs, rest)) :
    members d (fuel + 1) first text = .ok (pair :: pairs, rest) := by
  obtain ⟨name, a⟩ := pair
  obtain ⟨rfl, hw⟩ : m.1 = name ∧ d.Reads m.2 a := hm
  have hname : memberName (writeMember m (laterMembers ms rest))
    = .ok (m.1, m.2 (laterMembers ms rest)) := by
    rw [memberName, quotedText_writeMember]
    rfl
  have hread : d (m.2 (laterMembers ms rest)) = .ok (a, laterMembers ms rest) :=
    hw.reads _ (.laterMembers ms rest)
  rw [members, hmore]
  simp only [bind, Except.bind, if_true, hname, hread, hothers]

lemma members_later (h : List.Forall₂ d.ReadsMember ms pairs) (hfuel : ms.length < fuel) :
    members d fuel false (laterMembers ms rest) = .ok (pairs, rest) := by
  induction h generalizing fuel with
  | nil =>
    obtain ⟨fuel, rfl⟩ := Nat.exists_eq_add_one.mpr hfuel
    rfl
  | cons hm _ ih =>
    obtain ⟨fuel, rfl⟩ := Nat.exists_eq_add_one.mpr (Nat.zero_lt_of_lt hfuel)
    exact members_step rfl hm (ih (Nat.lt_of_succ_lt_succ hfuel))

/-- **The members of an object**, after its opening brace. -/
lemma members_written (h : List.Forall₂ d.ReadsMember ms pairs) (rest : List Char) :
    ∃ inner, writeMembers ms rest = '\x7b' :: inner
      ∧ members d (inner.length + 1) true inner = .ok (pairs, rest) := by
  cases h with
  | nil => exact ⟨'\x7d' :: rest, rfl, rfl⟩
  | @cons m pair ms pairs hm hrest =>
    have hfuel : ms.length < (writeMember m (laterMembers ms rest)).length :=
      (length_laterMembers (fronts_of_readsMember hrest)).trans
        (hm.2.fronts.writeMember.length_lt _)
    exact ⟨writeMember m (laterMembers ms rest), rfl,
      members_step rfl hm (members_later hrest hfuel)⟩

end Decoder

end Transactional
