import Transactional.Json.Decoder
import Transactional.Proofs.Json.Reads

/-!
# Structured data read back

The readers of constructors, of pairs and of structures undo the writers of them, if the readers of
their parts do.

* `Decoder.reads_pair` — a list of length two.
* `Decoder.reads_none`, `Decoder.reads_some` — a value that may be missing.
* `Decoder.reads_bare`, `Decoder.reads_tagged` — a constructor, by its bare name or with its
  argument.
* `Decoder.Fills` — members of an object that fill the fields of a structure, one after the other.
* `Decoder.reads_fields` — a structure.
* `Decoder.whole_written` — a complete text.
-/

namespace Transactional.Decoder

open Json

variable {w v : Writer} {ms : List (String × Writer)} {a : α} {b : β} {rest : List Char}
  {depth fuel : Nat}

/-! ## Pairs -/

/-- **A list of length two.** -/
lemma reads_pair {first : Nat → Decoder α} {second : Nat → Decoder β}
    (hfirst : (first depth).Reads w a)
    (hsecond : (second depth).Reads v b) :
    (pair first second (depth + 1)).Reads (writeList [w, v]) (a, b) := by
  have hfronts : ∀ u ∈ [w, v], Fronts u := by
    intro u hu
    rcases List.mem_cons.mp hu with rfl | hu
    · exact hfirst.fronts
    · rw [List.mem_singleton.mp hu]
      exact hsecond.fronts
  refine ⟨.writeList hfronts, fun rest _ => ?_⟩
  let after : List Char := ',' :: v (']' :: rest)
  have hnext : nextItem (first depth) 0 "a tuple of size 2" (w after) = .ok (a, after) := by
    have hmore : moreItems (decide ((0 : Nat) = 0)) (w after) = .ok (true, w after) :=
      (moreItems_written hfirst.fronts after).1
    rw [nextItem, hmore]
    exact hfirst.reads after .comma
  have hlast : nextItem (second depth) 1 "a tuple of size 2" after = .ok (b, ']' :: rest) := by
    have hmore : moreItems (decide ((1 : Nat) = 0)) after = .ok (true, v (']' :: rest)) :=
      (moreItems_written hsecond.fronts (']' :: rest)).2
    rw [nextItem, hmore]
    exact hsecond.reads (']' :: rest) .bracket
  have hpair : pair first second (depth + 1) ('[' :: w after)
      = nextItem (first depth) 0 "a tuple of size 2" (w after) >>= fun x =>
          nextItem (second depth) 1 "a tuple of size 2" x.2 >>= fun y =>
            closeList y.2 >>= fun z => .ok ((x.1, y.1), z.2) := rfl
  change pair first second (depth + 1) ('[' :: w after) = _
  rw [hpair, hnext]
  simp only [bind, Except.bind, hlast]
  rfl

/-! ## Values that may be missing -/

lemma reads_none (d : Decoder α) : (optional d).Reads (prepend "null") none :=
  ⟨.null, fun _ _ => rfl⟩

/-- **A value that is there**, if its text cannot be taken for the null value. -/
lemma reads_some {d : Decoder α} (h : d.Reads w a) (hnull : ∀ rest, (w rest).head? ≠ some 'n') :
    (optional d).Reads w (some a) := by
  refine ⟨h.fronts, fun rest hrest => ?_⟩
  unfold optional
  rw [h.fronts.skipGaps]
  split <;> rename_i heq
  · exact absurd (congrArg List.head? heq) (hnull rest)
  · rw [h.reads rest hrest]

/-! ## Constructors -/

/-- **A constructor by its bare name.** -/
lemma reads_bare {variants : List (Variant α)} {variant : Variant α} {name : String}
    (hfind : findVariant variants name = .ok variant) (hbare : variant.bare = .ok a) :
    (Decoder.variant variants depth).Reads (writeText name) a := by
  refine ⟨.writeText name, fun rest _ => ?_⟩
  have hquoted : quotedText (name.toList.flatMap escapedChar ++ '"' :: rest) = .ok (name, rest) :=
    quotedText_escaped name
  have hvariant : Decoder.variant variants depth (writeText name rest)
      = quotedText (name.toList.flatMap escapedChar ++ '"' :: rest) >>= fun x =>
          findVariant variants x.1 >>= fun v => v.bare >>= fun a => .ok (a, x.2) := rfl
  rw [hvariant, hquoted]
  simp only [bind, Except.bind, hfind, hbare]

/-- **A constructor with its argument.** -/
lemma reads_tagged {variants : List (Variant α)} {variant : Variant α} {name : String}
    (hfind : findVariant variants name = .ok variant)
    (hcontent : (variant.content depth).Reads w a) :
    (Decoder.variant variants (depth + 1)).Reads (writeMembers [(name, w)]) a := by
  have hfronts : ∀ m ∈ [(name, w)], Fronts m.2 := by
    intro m hm
    rw [List.mem_singleton.mp hm]
    exact hcontent.fronts
  refine ⟨.writeMembers hfronts, fun rest _ => ?_⟩
  let inner : List Char := writeMember (name, w) ('\x7d' :: rest)
  have hname : variantName inner = .ok (name, ':' :: w ('\x7d' :: rest)) := quotedText_escaped name
  have hread : variant.content depth (w ('\x7d' :: rest)) = .ok (a, '\x7d' :: rest) :=
    hcontent.reads _ .brace
  have hcolon : colon (':' :: w ('\x7d' :: rest)) = .ok ((), w ('\x7d' :: rest)) := rfl
  have hbrace : skipGaps ('\x7b' :: inner) = '\x7b' :: inner := rfl
  change Decoder.variant variants (depth + 1) ('\x7b' :: inner) = _
  simp only [Decoder.variant, hbrace, bind, Except.bind, hname, hfind, hcolon, hread]
  rfl

/-! ## Structures -/

/-- **Members that fill the fields of a structure**, one after the other, from one state of it to
the last, in which no field is missing. -/
inductive Fills (known : List (Field β)) (depth : Nat) : List (String × Writer) → β → β → Prop where
  | done {partly : β} (h : missing? known partly = none) : Fills known depth [] partly partly
  | field {m : String × Writer} {ms : List (String × Writer)} {partly next last : β}
      {field : Field β}
      (hfind : (known.find? fun field => field.name == m.1) = some field)
      (hnew : field.isSet partly = false) (hread : (field.read depth partly).Reads m.2 next)
      (hrest : Fills known depth ms next last) : Fills known depth (m :: ms) partly last

variable {known : List (Field β)} {partly last : β}

lemma Fills.fronts (h : Fills known depth ms partly last) : ∀ m ∈ ms, Fronts m.2 := by
  induction h with
  | done => rintro m ⟨⟩
  | field _ _ hread _ ih =>
    intro m hm
    rcases List.mem_cons.mp hm with rfl | hm
    · exact hread.fronts
    · exact ih m hm

lemma namedFields_step {m : String × Writer} {next : β} {field : Field β} {first : Bool}
    {text : List Char}
    (hmore : moreMembers first text = .ok (true, writeMember m (laterMembers ms rest)))
    (hfind : (known.find? fun field => field.name == m.1) = some field)
    (hnew : field.isSet partly = false) (hread : (field.read depth partly).Reads m.2 next)
    (hothers : namedFields known depth fuel false next (laterMembers ms rest) = .ok (last, rest)) :
    namedFields known depth (fuel + 1) first partly text = .ok (last, rest) := by
  have hvalue : field.read depth partly (m.2 (laterMembers ms rest))
    = .ok (next, laterMembers ms rest) :=
    hread.reads _ (.laterMembers ms rest)
  have hcolon : colon (':' :: m.2 (laterMembers ms rest)) = .ok ((), m.2 (laterMembers ms rest)) :=
    rfl
  rw [namedFields, hmore]
  simp only [bind, Except.bind, if_true, quotedText_writeMember, hfind, hnew,
    Bool.false_eq_true, if_false,
    hcolon, hvalue, hothers]

lemma namedFields_later (h : Fills known depth ms partly last) (hfuel : ms.length < fuel) :
    namedFields known depth fuel false partly (laterMembers ms rest) = .ok (last, rest) := by
  induction h generalizing fuel with
  | done h =>
    obtain ⟨fuel, rfl⟩ := Nat.exists_eq_add_one.mpr hfuel
    have hmore : moreMembers false (laterMembers [] rest) = .ok (false, '\x7d' :: rest) := rfl
    have hclose : closeObject ('\x7d' :: rest) = .ok ((), rest) := rfl
    rw [namedFields, hmore]
    simp only [bind, Except.bind, Bool.false_eq_true, if_false, h, hclose]
  | field hfind hnew hread _ ih =>
    obtain ⟨fuel, rfl⟩ := Nat.exists_eq_add_one.mpr (Nat.zero_lt_of_lt hfuel)
    exact namedFields_step rfl hfind hnew hread (ih (Nat.lt_of_succ_lt_succ hfuel))

/-- **A structure with at least one field.** -/
lemma reads_fields {kind : String} {m : String × Writer} {empty : β}
    (h : Fills known depth (m :: ms) empty last) :
    (fields kind known empty (depth + 1)).Reads (writeMembers (m :: ms)) last := by
  refine ⟨.writeMembers h.fronts, fun rest _ => ?_⟩
  let inner : List Char := writeMember m (laterMembers ms rest)
  have hfields : fields kind known empty (depth + 1) ('\x7b' :: inner)
      = namedFields known depth (inner.length + 1) true empty inner := rfl
  change fields kind known empty (depth + 1) ('\x7b' :: inner) = _
  rw [hfields]
  cases h with
  | field hfind hnew hread hrest =>
    have hfuel : ms.length < inner.length :=
      (length_laterMembers hrest.fronts).trans (hread.fronts.writeMember.length_lt _)
    exact namedFields_step rfl hfind hnew hread (namedFields_later hrest hfuel)

/-! ## Complete texts -/

/-- **A complete text.** -/
lemma whole_written {d : Decoder α} (h : d.Reads w a) : d.whole (String.ofList (w [])) = .ok a := by
  rw [whole, String.toList_ofList, h.reads [] .nil]
  rfl

end Transactional.Decoder
