import RunnerDispatch.Proofs.Json.Number
import RunnerDispatch.Proofs.Json.Pairs
import RunnerDispatch.Proofs.Json.Records

/-!
# Values of any kind

Who does not know what a text holds reads it as a value. The value keeps all that the grammar says of the text, and
the numbers besides.

* `Value.document`: what a text holds that is read as a value.
* `exists_written_of_readValue`: **what is read as a value is written there.**
* `Scalar`, `Flat`: values without parts and members that have such values, written in any way.
* `Scalar.readValue`: **a value without parts is read for itself.**
* `flatIn_bytes`: such members may be written as the printer writes them.
-/

namespace RunnerDispatch.Json

open Text

mutual

/-- **What a text holds that is read as a value.** -/
def Value.document : Value → Document
  | .null => .null
  | .bool b => .bool b
  | .integer _ => .number
  | .float _ => .number
  | .text s => .string s
  | .list items => .list (itemDocuments items)
  | .record members => .object (memberDocuments members)

/-- What a text holds in place of items. -/
def itemDocuments : List Value → List Document
  | [] => []
  | v :: vs => v.document :: itemDocuments vs

/-- What a text holds in place of members. -/
def memberDocuments : List (String × Value) → List (String × Document)
  | [] => []
  | (name, v) :: ms => (name, v.document) :: memberDocuments ms

end

variable {s s' t w rest : Bytes} {v : Value} {first : Bool} {fuel depth : ℕ} {members : List (String × Value)}

theorem Value.IsNumber.document (h : v.IsNumber) : v.document = .number := by
  cases h with
  | integer n => rfl
  | float x => rfl

/-! ## Reading values -/

/-- Where an item is read as a value, it is written. -/
theorem exists_written_of_readItems {item : Reader Value} {read vs : List Value}
    (hitem : ∀ {w v t}, item w = .ok (v, t) → ∃ s, Blanks w s ∧ Written (.value v.document) s t)
    (h : readItems item fuel first read s = .ok (vs, s')) :
    ∃ new, vs = read.reverse ++ new ∧ Written (.items first (itemDocuments new)) s s' := by
  induction fuel generalizing first read s with
  | zero => cases h
  | succ fuel ih =>
    rw [readItems] at h
    split at h
    · cases h
    · obtain ⟨rfl, rfl⟩ := Prod.mk.inj (Except.ok.inj h)
      exact ⟨[], (List.append_nil _).symm, .noItems first s⟩
    rename_i t hnext
    rcases nextItem_ok hnext with ⟨hnone, -⟩ | ⟨t, ht, hgap⟩
    · cases hnone
    obtain rfl := Option.some.inj ht
    split at h
    · rename_i v u hread
      obtain ⟨x, hx, hv⟩ := hitem hread
      obtain ⟨new, rfl, hnew⟩ := ih h
      refine ⟨v :: new, ?_, .item (hgap.blanks hx) hv hnew⟩
      rw [List.reverse_cons, List.append_assoc, List.singleton_append]
    · cases h

/-- What members hold, as the grammar says it. -/
def memberParts (members : List (String × Value)) : List (Option String × Document) :=
  (memberDocuments members).map fun m => (some m.1, m.2)

/-- Where a member is read as a value, it is written. -/
theorem exists_written_of_readPairs {value : Reader Value} {read : List (String × Value)}
    (hvalue : ∀ {w v t}, value w = .ok (v, t) → ∃ s, Blanks w s ∧ Written (.value v.document) s t)
    (h : readPairs value fuel first read s = .ok (members, s')) :
    ∃ new, members = read.reverse ++ new ∧ Written (.members first (memberParts new)) s s' := by
  induction fuel generalizing first read s with
  | zero => cases h
  | succ fuel ih =>
    rw [readPairs] at h
    split at h
    · cases h
    · obtain ⟨rfl, rfl⟩ := Prod.mk.inj (Except.ok.inj h)
      exact ⟨[], (List.append_nil _).symm, .noMembers first s⟩
    rename_i name t hnext
    rcases nextName_ok hnext with ⟨hnone, -⟩ | ⟨name, x, t, ht, hgap, hname⟩
    · cases hnone
    obtain ⟨rfl, rfl⟩ := Prod.mk.inj (Option.some.inj ht)
    split at h
    · cases h
    rename_i u hcolon
    split at h
    · rename_i v y hread
      obtain ⟨z, hz, hv⟩ := hvalue hread
      obtain ⟨new, rfl, hnew⟩ := ih h
      refine ⟨(name, v) :: new, ?_, .member hgap hname (readColon_ok_iff.1 hcolon) hz hv hnew⟩
      rw [List.reverse_cons, List.append_assoc, List.singleton_append]
    · cases h

/-- **What is read as a value is written there.** -/
theorem exists_written_of_readValue (h : readValue fuel depth w = .ok (v, t)) :
    ∃ s, Blanks w s ∧ Written (.value v.document) s t := by
  induction fuel generalizing depth w v t with
  | zero => cases h
  | succ fuel ih =>
    have hblanks := blanks_skipBlank w
    have word {rest s : Bytes} {u : Value} (h : (readWord rest s).map (u, ·) = .ok (v, t)) :
        u = v ∧ s = rest ++ t := by
      cases hr : readWord rest s with
      | error e => rw [hr] at h; cases h
      | ok t' =>
        rw [hr] at h
        obtain ⟨rfl, rfl⟩ := Prod.mk.inj (Except.ok.inj h)
        exact ⟨rfl, readWord_ok_iff.1 hr⟩
    unfold readValue at h
    split at h
    · cases h
    rename_i b s hs
    rw [hs] at hblanks
    refine ⟨b :: s, hblanks, ?_⟩
    dsimp only at h
    split at h
    · rename_i hb
      obtain ⟨rfl, rfl⟩ := word h
      rw [hb]
      exact .null t
    split at h
    · rename_i hb
      obtain ⟨rfl, rfl⟩ := word h
      rw [hb]
      exact .yes t
    split at h
    · rename_i hb
      obtain ⟨rfl, rfl⟩ := word h
      rw [hb]
      exact .no t
    split at h
    · rename_i hb
      obtain ⟨hnumber, hunsigned⟩ := readNumber_ok h
      rw [hb, hnumber.document]
      exact .number (.negative hunsigned)
    split at h
    · obtain ⟨hnumber, hunsigned⟩ := readNumber_ok h
      rw [hnumber.document]
      exact .number (.positive hunsigned)
    split at h
    · rename_i hb
      cases hr : readText s with
      | error e => rw [hr] at h; cases h
      | ok r =>
        rw [hr] at h
        obtain ⟨rfl, rfl⟩ := Prod.mk.inj (Except.ok.inj h)
        rw [hb]
        exact .text (.text (readText_ok_iff.1 hr))
    split at h
    · cases h
    split at h
    · cases h
    -- what stands in brackets is read with the rest of the fuel
    split at h
    · rename_i hb
      obtain ⟨u, hread, hclose⟩ := conclude_ok_iff.1 h
      cases hr : readItems (readValue fuel (depth - 1)) fuel true [] s with
      | error e => rw [hr] at hread; cases hread
      | ok r =>
        rw [hr] at hread
        obtain ⟨rfl, rfl⟩ := Prod.mk.inj (Except.ok.inj hread)
        obtain ⟨new, hnew, hitems⟩ := exists_written_of_readItems ih hr
        rw [hb, hnew]
        exact .list hitems (closeList_iff.1 hclose)
    · rename_i hlist hdepth hbracket
      have hb : b = Ascii.openBrace := by
        by_contra hbrace
        exact hlist ⟨hbracket, hbrace⟩
      obtain ⟨u, hread, hclose⟩ := conclude_ok_iff.1 h
      cases hr : readPairs (readValue fuel (depth - 1)) fuel true [] s with
      | error e => rw [hr] at hread; cases hread
      | ok r =>
        rw [hr] at hread
        obtain ⟨rfl, rfl⟩ := Prod.mk.inj (Except.ok.inj hread)
        obtain ⟨new, hnew, hmembers⟩ := exists_written_of_readPairs ih hr
        rw [hb, hnew]
        exact .record hmembers (closeRecord_iff.1 hclose)

/-! ## Values without parts -/

/-- **A value without parts, and how it may be written.** A number is a whole one that fits a machine word, with a
sign or not. -/
inductive Scalar : Value → Bytes → Bytes → Prop
  | null (s : Bytes) : Scalar .null (Bytes.ofString "null" ++ s) s
  | yes (s : Bytes) : Scalar (.bool true) (Bytes.ofString "true" ++ s) s
  | no (s : Bytes) : Scalar (.bool false) (Bytes.ofString "false" ++ s) s
  | integer {n : ℤ} (hlow : -2 ^ 63 ≤ n) (hhigh : n < 2 ^ 64) (s : Bytes) :
      Scalar (.integer n) (Bytes.ofString (toString n) ++ s) s
  | text {content : String} {s s' : Bytes} (h : Literal (some content) s s') : Scalar (.text content) s s'

/-- **Members whose values have no parts, and how they may be written.** -/
inductive Flat : (first : Bool) → List (String × Value) → Bytes → Bytes → Prop
  | nil (first : Bool) (s : Bytes) : Flat first [] s s
  | cons {first : Bool} {name : String} {v : Value} {ms : List (String × Value)} {s t u w x y s' : Bytes}
      (hgap : Gap first s t) (hname : Literal (some name) t u) (hcolon : Blanks u (Ascii.colon :: w))
      (hblanks : Blanks w x) (hv : Scalar v x y) (hms : Flat false ms y s') : Flat first ((name, v) :: ms) s s'

/-- **The text holds a record of these members**, whose values have no parts, and nothing else but blanks. -/
def FlatIn (members : List (String × Value)) (text : Bytes) : Prop :=
  ∃ s t u, Blanks text (Ascii.openBrace :: s) ∧ Flat true members s t ∧ Blanks t (Ascii.closeBrace :: u) ∧ Blanks u []

/-- The decimal digits of a number, as bytes. -/
theorem ofString_digits (n : ℕ) : Bytes.ofString (toString n) = (Nat.toDigits 10 n).map Char.toUInt8 := by
  have hascii : ∀ c ∈ Nat.toDigits 10 n, String.utf8EncodeChar c = [c.toUInt8] := by
    intro c hc
    have hbounds := code_isDigit (Nat.isDigit_of_mem_toDigits (by decide) (by decide) hc)
    exact Bytes.ofChar_ascii (by omega)
  rw [Nat.toString_eq_ofList_toDigits, Bytes.ofString_ofList, List.flatMap_congr hascii]
  exact List.flatMap_pure_eq_map Char.toUInt8 (Nat.toDigits 10 n)

/-- A digit begins a number. -/
theorem readValue_digit {b : UInt8} (hw : Blanks w (b :: s)) (hb : Ascii.isDigit b = true) :
    readValue (fuel + 1) depth w = readNumber true (b :: s) := by
  have ne (c : UInt8) (hc : Ascii.isDigit c = false) : b ≠ c := by
    rintro rfl
    exact absurd hb (by rw [hc]; decide)
  have hblank : isBlank b = false := by
    simp [isBlank, ne Ascii.space (by decide), ne Ascii.newline (by decide), ne Ascii.tab (by decide),
      ne Ascii.carriageReturn (by decide)]
  rw [readValue, skipBlank_eq_cons hw hblank]
  dsimp only
  rw [if_neg (ne _ (by decide)), if_neg (ne _ (by decide)), if_neg (ne _ (by decide)),
    if_neg (ne _ (by decide)), if_pos hb]

/-- **A whole number is read for itself**, if it fits a machine word. -/
theorem readValue_integer {n : ℤ} (hlow : -2 ^ 63 ≤ n) (hhigh : n < 2 ^ 64)
    (hw : Blanks w (Bytes.ofString (toString n) ++ s)) (hends : Ends s) :
    readValue (fuel + 1) depth w = .ok (.integer n, s) := by
  have hmax : maxSignificand = 2 ^ 64 - 1 := rfl
  cases n with
  | ofNat m =>
    have hm : m < 2 ^ 64 := Int.ofNat_lt.1 hhigh
    have htext : toString (Int.ofNat m) = toString m := rfl
    have hread := readNumber_toDigits (n := m) true (by omega) hends
    obtain ⟨d, ds, hds⟩ := List.exists_cons_of_ne_nil (Nat.toDigits_ne_nil (n := m) (b := 10))
    have hd : d.isDigit = true := Nat.isDigit_of_mem_toDigits (b := 10) (n := m) (by decide) (by decide) (by simp [hds])
    rw [htext, ofString_digits, hds] at hw
    rw [hds] at hread
    rw [readValue_digit hw (digit_toUInt8 hd).1]
    exact hread
  | negSucc m =>
    -- the sign is read first, and the digits behind it are those of the number without it
    have hm : m + 1 ≤ 2 ^ 63 := by omega
    have htext : toString (Int.negSucc m) = "-" ++ toString (m + 1) := rfl
    have hminus : Bytes.ofString "-" = [Ascii.minus] := by decide
    have hlimit : Nat.pow 2 63 = 2 ^ 63 := rfl
    have hvalue : wholeNumber false (m + 1) = .integer (Int.negSucc m) := by
      rw [wholeNumber, if_neg Bool.false_ne_true, hlimit, if_neg (by omega)]
      rfl
    rw [htext, Bytes.ofString_append, hminus, ofString_digits] at hw
    rw [readValue, skipBlank_eq_cons hw (by decide), ← hvalue]
    exact readNumber_toDigits false (by omega) hends

/-- **A value without parts is read for itself.** -/
theorem Scalar.readValue (h : Scalar v s s') (hw : Blanks w s) (hends : Ends s') :
    Json.readValue (fuel + 1) depth w = .ok (v, s') := by
  have word (rest s : Bytes) (v : Value) : (readWord rest (rest ++ s)).map (v, ·) = .ok (v, s) := by
    rw [readWord_ok_iff.2 rfl]
    rfl
  cases h with
  | null =>
    rw [Json.readValue, skipBlank_eq_cons hw (by decide)]
    exact word (Bytes.ofString "ull") s' .null
  | yes =>
    rw [Json.readValue, skipBlank_eq_cons hw (by decide)]
    exact word (Bytes.ofString "rue") s' (.bool true)
  | no =>
    rw [Json.readValue, skipBlank_eq_cons hw (by decide)]
    exact word (Bytes.ofString "alse") s' (.bool false)
  | integer hlow hhigh => exact readValue_integer hlow hhigh hw hends
  | text h =>
    obtain ⟨t, rfl, -⟩ := h.exists_passes
    rcases error_or_ok h.readText with ⟨hnone, -⟩ | ⟨content, hcontent, hread⟩
    · cases hnone
    obtain rfl := Option.some.inj hcontent
    rw [Json.readValue, skipBlank_eq_cons hw (by decide)]
    exact congrArg (Except.map _) hread

theorem Scalar.length_le (h : Scalar v s s') : s'.length ≤ s.length := by
  cases h with
  | null | yes | no | integer =>
    rw [List.length_append]
    exact Nat.le_add_left _ _
  | text h => exact h.length_lt.le

/-- Each member takes a byte at least. -/
theorem Flat.length_le (h : Flat first members s s') : members.length + s'.length ≤ s.length := by
  induction h with
  | nil first s => exact (Nat.zero_add _).le
  | cons hgap hname hcolon hblanks hv hms ih =>
    have hgap := hgap.length_le
    have hname := hname.length_lt
    have hcolon := hcolon.length_le
    have hblanks := hblanks.length_le
    have hv := hv.length_le
    simp only [List.length_cons] at hcolon ⊢
    omega

/-- Nothing that stands behind a value belongs to it. -/
theorem Flat.ends (h : Flat false members s s') (hclose : Blanks s' (Ascii.closeBrace :: rest)) : Ends s := by
  generalize hfirst : false = first at h
  cases h with
  | nil => exact ends_of_blanks .record hclose (.inr rfl)
  | cons hgap =>
    subst hfirst
    cases hgap with
    | next h => exact ends_of_blanks .record h (.inl rfl)

/-! ## Values without parts as they are printed -/

/-- A value without parts that can be written. -/
def Value.IsScalar : Value → Prop
  | .null | .bool _ | .text _ => True
  | .integer n => -2 ^ 63 ≤ n ∧ n < 2 ^ 64
  | _ => False

theorem scalar_bytes (h : v.IsScalar) (s : Bytes) : Scalar v (v.bytes ++ s) s := by
  cases v with
  | null => exact .null s
  | bool b =>
    cases b with
    | true => exact .yes s
    | false => exact .no s
  | integer n => exact .integer h.1 h.2 s
  | text t =>
    rw [bytes_text, literal_append]
    exact .text (.text (readText_ok_iff.1 (readText_spelled t s)))
  | float x => exact h.elim
  | list items => exact h.elim
  | record members => exact h.elim

theorem flat_separated (first : Bool) (h : ∀ m ∈ members, m.2.IsScalar) (s : Bytes) :
    Flat first members (separated first (compactMembers members) ++ s) s := by
  induction members generalizing first with
  | nil => cases first <;> exact .nil _ s
  | cons m members ih =>
    obtain ⟨name, v⟩ := m
    obtain ⟨hv, hmembers⟩ := List.forall_mem_cons.1 h
    have hrest := ih false hmembers
    have hname (s : Bytes) : Literal (some name) (Bytes.ofString (textLiteral name) ++ s) s := by
      rw [literal_append]
      exact .text (readText_ok_iff.1 (readText_spelled name s))
    have hmember (first : Bool) {s' : Bytes}
        (hgap : Gap first s' (Bytes.ofString (textLiteral name ++ ":" ++ v.compact) ++
          (separated false (compactMembers members) ++ s))) : Flat first ((name, v) :: members) s' s := by
      rw [ofString_member, List.append_assoc] at hgap
      exact .cons hgap (hname _) (.none _) (.none _) (scalar_bytes hv _) hrest
    cases first with
    | true =>
      rw [compactMembers, separated, List.append_assoc]
      exact hmember true (.first (.none _))
    | false =>
      rw [compactMembers, separated, List.cons_append, List.append_assoc]
      exact hmember false (.next (.none _) (.none _))

/-- **Members without parts may be written as the printer writes them.** -/
theorem flatIn_bytes (h : ∀ m ∈ members, m.2.IsScalar) : FlatIn members (Value.record members).bytes := by
  have hflat := flat_separated true h [Ascii.closeBrace]
  rw [bytes_record]
  exact ⟨_, _, [], .none _, hflat, .none _, .none _⟩

/-! ## Members of a name -/

/-- The members of a name. -/
def named (name : String) (members : List (String × Value)) : List (String × Value) :=
  members.filter (·.1 == name)

theorem named_cons_self (name : String) (v : Value) (members : List (String × Value)) :
    named name ((name, v) :: members) = (name, v) :: named name members :=
  List.filter_cons_of_pos (beq_self_eq_true name)

theorem named_cons_of_ne {name name' : String} (h : name' ≠ name) (v : Value) (members : List (String × Value)) :
    named name ((name', v) :: members) = named name members :=
  List.filter_cons_of_neg (by simpa using h)

/-- The values of a name, as the grammar says them. -/
theorem valuesOf_memberDocuments (name : String) (members : List (String × Value)) :
    valuesOf name (memberDocuments members) = (named name members).map (·.2.document) := by
  induction members with
  | nil => rfl
  | cons m members ih =>
    obtain ⟨name', v⟩ := m
    rw [memberDocuments]
    by_cases h : name' = name
    · subst h
      rw [valuesOf_cons_self, named_cons_self, List.map_cons, ih]
    · rw [valuesOf_cons_of_ne h, named_cons_of_ne h, ih]

end RunnerDispatch.Json
