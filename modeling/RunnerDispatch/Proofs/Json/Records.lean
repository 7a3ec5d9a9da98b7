import RunnerDispatch.Proofs.Json.Members

/-!
# Values of a known shape are read back

A reader takes a value for what it means if it finds that in the text that the printer writes, **whatever
follows**. The fuel that a text brings along is its length, and that is enough for every value in it.

* `ReadsAs`: the reader takes a printed value for something.
* `readTexts_texts`, `readVariant_name`: lists of strings and names are taken for themselves.
* `Shape.Collects`: what reading some members, in any order of the fields, adds to what was collected.
* `readRecord_collects`: **a record is taken for what its members make complete**.
* `parse_texts`: a record of strings is read back by who does not know its shape.
-/

namespace RunnerDispatch.Json

open Text

/-- A value as the printer writes it, without blanks. -/
def Value.bytes (v : Value) : Bytes := Bytes.ofString v.compact

/-- **The reader takes the printed value for `a`** and stops right behind it, if its fuel is at least the
length of the value. -/
def ReadsAs {α : Type} (read : (fuel : Nat) → Reader α) (v : Value) (a : α) : Prop :=
  ∀ fuel s, v.bytes.length ≤ fuel → read fuel (v.bytes ++ s) = .ok (a, s)

/-- Texts with commas between them, and in front of them unless they come first. -/
def separated : (first : Bool) → List String → Bytes
  | _, [] => []
  | true, t :: ts => Bytes.ofString t ++ separated false ts
  | false, t :: ts => Ascii.comma :: (Bytes.ofString t ++ separated false ts)

section

variable {σ α β : Type}

theorem ofString_intercalate (ts : List String) : Bytes.ofString (",".intercalate ts) = separated true ts := by
  have hcomma : Bytes.ofString "," = [Ascii.comma] := by decide
  have behind (t : String) (ts : List String) :
      Bytes.ofString (",".intercalate (t :: ts)) = Bytes.ofString t ++ separated false ts := by
    induction ts generalizing t with
    | nil => rw [String.intercalate_singleton, separated, List.append_nil]
    | cons u us ih =>
      rw [String.intercalate_cons_cons, Bytes.ofString_append, Bytes.ofString_append, ih u, hcomma, separated,
        List.append_assoc]
      rfl
  cases ts with
  | nil => rfl
  | cons t ts => rw [behind, separated]

/-- What follows a text among separated ones is shorter than the whole by more than the text. -/
theorem length_separated_cons (first : Bool) (t : String) (ts : List String) :
    (Bytes.ofString t).length + (separated false ts).length ≤ (separated first (t :: ts)).length := by
  cases first with
  | false | true =>
    simp only [separated, List.length_cons, List.length_append]
    omega

/-! ## Strings and lists of strings -/

theorem bytes_text (t : String) : (Value.text t).bytes = Bytes.ofString (textLiteral t) := rfl

theorem bytes_list (items : List Value) : (Value.list items).bytes =
    Ascii.openBracket :: (separated true (compactItems items) ++ [Ascii.closeBracket]) := by
  have hopen : Bytes.ofString "[" = [Ascii.openBracket] := by decide
  have hclose : Bytes.ofString "]" = [Ascii.closeBracket] := by decide
  rw [Value.bytes, Value.compact, Bytes.ofString_append, Bytes.ofString_append, ofString_intercalate, hopen,
    hclose]
  rfl

theorem compactItems_texts (ts : List String) : compactItems (ts.map .text) = ts.map textLiteral := by
  induction ts with
  | nil => rfl
  | cons t ts ih => rw [List.map_cons, compactItems, ih, List.map_cons, Value.compact]

theorem readTextAs_text {expected t : String} {meaning : String → Except Cause α} {a : α}
    (h : meaning t = .ok a) : ReadsAs (fun _ => readTextAs expected meaning) (.text t) a :=
  fun _ s _ => readTextAs_literal h s

/-- What reading makes of a value may be carried on. -/
theorem ReadsAs.map {read : (fuel : Nat) → Reader α} {v : Value} {a : α} (h : ReadsAs read v a)
    (f : α → β) : ReadsAs (fun fuel s => (read fuel s).map fun (a, s) => (f a, s)) v (f a) := by
  intro fuel s hfuel
  simp only [h fuel s hfuel]
  rfl

theorem nextItem_literal (first : Bool) (t : String) (ts : List String) (s : Bytes) :
    nextItem first (separated first (textLiteral t :: ts) ++ s) =
      .ok (some (Bytes.ofString (textLiteral t) ++ (separated false ts ++ s))) := by
  cases first with
  | true =>
    rw [separated, List.append_assoc, literal_append, nextItem, skipBlank_cons (by decide)]
    rfl
  | false =>
    rw [separated, List.cons_append, List.append_assoc, literal_append, nextItem, skipBlank_cons (by decide)]
    simp only [skipBlank_cons (show isBlank Ascii.quote = false by decide)]
    rfl

theorem nextItem_close (first : Bool) (s : Bytes) :
    nextItem first (Ascii.closeBracket :: s) = .ok none := by
  rw [nextItem, skipBlank_cons (by decide)]
  rfl

theorem closeList_close (s : Bytes) : closeList (Ascii.closeBracket :: s) = (none, s) := by
  rw [closeList, skipBlank_cons (by decide)]
  rfl

/-- Reading the strings of a list adds them to those read already. -/
theorem readItems_texts {fuel : Nat} {first : Bool} (ts read : List String) (s : Bytes)
    (hfuel : (separated first (ts.map textLiteral)).length < fuel) :
    readItems readString fuel first read
        (separated first (ts.map textLiteral) ++ Ascii.closeBracket :: s) =
      .ok (read.reverse ++ ts, Ascii.closeBracket :: s) := by
  induction ts generalizing fuel first read with
  | nil =>
    cases fuel with
    | zero => exact absurd hfuel (Nat.not_lt_zero _)
    | succ fuel =>
      rw [List.map_nil, separated, List.nil_append, readItems, nextItem_close, List.append_nil]
  | cons t ts ih =>
    cases fuel with
    | zero => exact absurd hfuel (Nat.not_lt_zero _)
    | succ fuel =>
      have hread (s : Bytes) : readString (Bytes.ofString (textLiteral t) ++ s) = .ok (t, s) :=
        readTextAs_literal rfl s
      have hlength := length_separated_cons first (textLiteral t) (ts.map textLiteral)
      have hpositive : 0 < (Bytes.ofString (textLiteral t)).length := by
        rw [ofString_textLiteral]
        exact Nat.succ_pos _
      rw [List.map_cons] at hfuel ⊢
      rw [readItems, nextItem_literal]
      simp only [hread]
      rw [ih (t :: read) (by omega), List.reverse_cons, List.append_assoc, List.singleton_append]

/-- **A list of strings is taken for its strings.** -/
theorem readTexts_texts (ts : List String) : ReadsAs readTexts (.list (ts.map .text)) ts := by
  intro fuel s hfuel
  rw [bytes_list, compactItems_texts] at hfuel ⊢
  rw [List.length_cons, List.length_append] at hfuel
  rw [List.cons_append, List.append_assoc, List.singleton_append, readTexts, skipBlank_cons (by decide)]
  simp only [if_true]
  rw [readItems_texts ts [] s (by omega), conclude]
  simp only [closeList_close]
  rfl

/-- **A name is taken for the choice of that name.** -/
theorem readVariant_name {choices : List (String × α)} {name : String} {a : α}
    (h : chosen choices name = .ok a) : ReadsAs (fun _ => readVariant choices) (.text name) a := by
  intro fuel s _
  have hread : readTextAs "variant identifier" (chosen choices) (Bytes.ofString (textLiteral name) ++ s) =
      .ok (a, s) := readTextAs_literal h s
  rw [literal_append] at hread
  rw [bytes_text, literal_append]
  simp only [readVariant, skipBlank_cons (show isBlank Ascii.quote = false by decide), if_true]
  exact hread

/-! ## Records -/

theorem bytes_record (members : List (String × Value)) : (Value.record members).bytes =
    Ascii.openBrace :: (separated true (compactMembers members) ++ [Ascii.closeBrace]) := by
  have hopen : Bytes.ofString "\x7b" = [Ascii.openBrace] := by decide
  have hclose : Bytes.ofString "\x7d" = [Ascii.closeBrace] := by decide
  rw [Value.bytes, Value.compact, Bytes.ofString_append, Bytes.ofString_append, ofString_intercalate, hopen,
    hclose]
  rfl

/-- The bytes of a member. -/
theorem ofString_member (name : String) (v : Value) :
    Bytes.ofString (textLiteral name ++ ":" ++ v.compact) =
      Bytes.ofString (textLiteral name) ++ Ascii.colon :: v.bytes := by
  have hcolon : Bytes.ofString ":" = [Ascii.colon] := by decide
  rw [Bytes.ofString_append, Bytes.ofString_append, hcolon, List.append_assoc]
  rfl

theorem nextName_member (first : Bool) (name : String) (v : Value) (members : List (String × Value))
    (s : Bytes) : nextName first (separated first (compactMembers ((name, v) :: members)) ++ s) =
      .ok (some (name, Ascii.colon :: (v.bytes ++ (separated false (compactMembers members) ++ s)))) := by
  cases first with
  | true =>
    rw [compactMembers, separated, ofString_member, List.append_assoc, List.append_assoc, nextName_first]
    rfl
  | false =>
    rw [compactMembers, separated, ofString_member, List.cons_append, List.append_assoc, List.append_assoc,
      nextName_next]
    rfl

/-- What members add to what a record has collected: each is of a field that is not set, and taken by it. -/
inductive Shape.Collects (shape : Shape σ α) : σ → List (String × Value) → σ → Prop
  | nil (st : σ) : Collects shape st [] st
  | cons {st st' st'' : σ} {name : String} {v : Value} {members : List (String × Value)} {field : Field σ}
      (hfield : shape.fields.find? (·.name == name) = some field) (hfree : field.isSet st = false)
      (hread : ReadsAs (fun fuel => field.read fuel st) v st') (hmembers : Collects shape st' members st'') :
      Collects shape st ((name, v) :: members) st''

/-- Reading members collects them. -/
theorem readMembers_collects {shape : Shape σ α} {st st' : σ} {members : List (String × Value)}
    (h : shape.Collects st members st') (fuel : Nat) (first : Bool) (s : Bytes)
    (hfuel : (separated first (compactMembers members)).length < fuel) :
    readMembers shape fuel first st (separated first (compactMembers members) ++ Ascii.closeBrace :: s) =
      .ok (st', Ascii.closeBrace :: s) := by
  induction h generalizing fuel first with
  | nil st =>
    cases fuel with
    | zero => exact absurd hfuel (Nat.not_lt_zero _)
    | succ fuel => rw [compactMembers, separated, List.nil_append, readMembers, nextName_close]
  | @cons st st' st'' name v members field hfield hfree hread hmembers ih =>
    cases fuel with
    | zero => exact absurd hfuel (Nat.not_lt_zero _)
    | succ fuel =>
      -- the name and the colon leave fuel enough for the value and for the members behind it
      have hlength := length_separated_cons first (textLiteral name ++ ":" ++ v.compact) (compactMembers members)
      rw [ofString_member, List.length_append, List.length_cons] at hlength
      rw [compactMembers] at hfuel
      have hvalue := hread fuel (separated false (compactMembers members) ++ Ascii.closeBrace :: s) (by omega)
      rw [readMembers, nextName_member]
      simp only [hfield, hfree, Bool.false_eq_true, if_false, readColon_colon, hvalue]
      exact ih fuel false (by omega)

/-- **A record is taken for what its members make complete.** -/
theorem readRecord_collects {shape : Shape σ α} {st : σ} {members : List (String × Value)} {a : α}
    (h : shape.Collects shape.blank members st) (ha : shape.complete st = .ok a) :
    ReadsAs (readRecord shape) (.record members) a := by
  intro fuel s hfuel
  rw [bytes_record] at hfuel ⊢
  rw [List.length_cons, List.length_append] at hfuel
  rw [List.cons_append, List.append_assoc, List.singleton_append, readRecord, skipBlank_cons (by decide)]
  have hmembers := readMembers_collects h fuel true s (by omega)
  simp only [show Ascii.openBrace ≠ Ascii.openBracket by decide, if_false, if_true, hmembers, completed, ha,
    conclude, closeRecord_close]

/-- Reading the members of a record as values adds them to those read already. -/
theorem readPairs_members {value : Reader Value} {members : List (String × Value)}
    (hvalue : ∀ m ∈ members, ∀ s, value (m.2.bytes ++ s) = .ok (m.2, s)) (read : List (String × Value))
    (fuel : Nat) (first : Bool) (s : Bytes)
    (hfuel : (separated first (compactMembers members)).length < fuel) :
    readPairs value fuel first read (separated first (compactMembers members) ++ Ascii.closeBrace :: s) =
      .ok (read.reverse ++ members, Ascii.closeBrace :: s) := by
  induction members generalizing fuel first read with
  | nil =>
    cases fuel with
    | zero => exact absurd hfuel (Nat.not_lt_zero _)
    | succ fuel => rw [compactMembers, separated, List.nil_append, readPairs, nextName_close, List.append_nil]
  | cons m members ih =>
    obtain ⟨name, v⟩ := m
    cases fuel with
    | zero => exact absurd hfuel (Nat.not_lt_zero _)
    | succ fuel =>
      have hlength := length_separated_cons first (textLiteral name ++ ":" ++ v.compact) (compactMembers members)
      rw [ofString_member, List.length_append, List.length_cons] at hlength
      rw [compactMembers] at hfuel
      rw [readPairs, nextName_member]
      simp only [readColon_colon, hvalue (name, v) List.mem_cons_self]
      rw [ih (fun m hm => hvalue m (List.mem_cons_of_mem _ hm)) ((name, v) :: read) fuel false (by omega),
        List.reverse_cons, List.append_assoc, List.singleton_append]

/-- **A text that holds one value is read as that value is.** -/
theorem readWhole_bytes {read : (fuel : Nat) → Reader α} {v : Value} {a : α} (h : ReadsAs read v a) :
    readWhole read v.bytes = .ok a := by
  have hread := h (fuelFor v.bytes) [] (by rw [fuelFor]; omega)
  rw [List.append_nil] at hread
  rw [readWhole, hread]
  rfl

/-- **A record of strings is read back** as a value of any kind. -/
theorem parse_texts {members : List (String × Value)} (htexts : ∀ m ∈ members, ∃ t, m.2 = .text t) :
    Value.parse (Value.record members).bytes = .ok (.record members) := by
  refine readWhole_bytes fun fuel s hfuel => ?_
  rw [bytes_record, List.length_cons, List.length_append, List.length_singleton] at hfuel
  -- one unit of fuel is for the record, and one for each of its strings
  obtain ⟨rest, rfl⟩ : ∃ rest, fuel = rest + 2 := ⟨fuel - 2, by omega⟩
  have hvalue (m : String × Value) (hm : m ∈ members) (s : Bytes) :
      readValue (rest + 1) (depthLimit - 1) (m.2.bytes ++ s) = .ok (m.2, s) := by
    obtain ⟨t, ht⟩ := htexts m hm
    rw [ht, bytes_text, readValue_literal]
  have hmembers := readPairs_members hvalue [] (rest + 1) true s (by omega)
  rw [bytes_record, List.cons_append, List.append_assoc, List.singleton_append, readValue,
    skipBlank_cons (by decide)]
  simp only [hmembers]
  rfl

end

end RunnerDispatch.Json
