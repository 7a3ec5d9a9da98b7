import RunnerDispatch.Json.Shape
import RunnerDispatch.Proofs.Json.Skipping

/-!
# What readers make of documents

A reader goes through the bytes of a value and never builds a document. Still what it makes of a text depends on
the document alone: it interprets documents.

* `Interprets`: **what a reader makes of a value is a function of the document**, and it reads nothing else.
* `interprets_readTextAs`, `interprets_readTexts`, `interprets_readVariant`: strings, lists of strings, names.
* `Interprets.readWhole_eq`, `Interprets.readWhole_ok_iff`: **what is made of a text is what is made of its
  document.**
-/

namespace RunnerDispatch.Json

open Text

variable {α β : Type} {s s' t u w rest : Bytes} {b : UInt8} {d : Document} {first : Bool} {fuel : ℕ}

/-- **A reader makes of each value what the document means**, or refuses it if the document means nothing, and
refuses whatever is no value. -/
structure Interprets (read : (fuel : ℕ) → Reader α) (meaning : Document → Option α) : Prop where
  complete : ∀ {d : Document} {s s' w : Bytes} {n : ℕ}, Written (.value d) s s' → Blanks w s →
    2 * s.length ≤ n + 2 * s'.length → (read n w).toOption = (meaning d).map (·, s')
  sound : ∀ {a : α} {w s' : Bytes} {n : ℕ}, read n w = .ok (a, s') →
    ∃ d s, Blanks w s ∧ Written (.value d) s s'

/-- A reading that is known up to its fault. -/
theorem error_or_ok {r : Except Fault β} {o : Option α} {f : α → β} (h : r.toOption = o.map f) :
    (o = none ∧ ∃ e, r = .error e) ∨ ∃ a, o = some a ∧ r = .ok (f a) := by
  cases r with
  | error e =>
    cases o with
    | none => exact .inl ⟨rfl, e, rfl⟩
    | some a => cases h
  | ok c =>
    cases o with
    | none => cases h
    | some a => exact .inr ⟨a, rfl, congrArg Except.ok (Option.some.inj h)⟩

theorem toOption_eq_map_iff {r : Except Fault (α × Bytes)} {o : Option α} :
    r.toOption = o.map (·, s') ↔ ∀ a t, r = .ok (a, t) ↔ o = some a ∧ s' = t := by
  constructor
  · intro h a t
    rcases error_or_ok h with ⟨rfl, e, rfl⟩ | ⟨c, rfl, rfl⟩
    · exact ⟨(nomatch ·), (nomatch ·.1)⟩
    · rw [Except.ok.injEq, Prod.mk.injEq, Option.some.injEq]
  · intro h
    cases o with
    | some a =>
      rw [(h a s').2 ⟨rfl, rfl⟩]
      rfl
    | none =>
      cases r with
      | error e => rfl
      | ok c => exact (nomatch ((h c.1 c.2).1 rfl).1)

/-- What a reader makes of a value may be carried on. -/
theorem Interprets.map {read : (fuel : ℕ) → Reader α} {meaning : Document → Option α}
    (h : Interprets read meaning) (f : α → β) :
    Interprets (fun fuel s => (read fuel s).map fun (a, s) => (f a, s)) fun d => (meaning d).map f where
  complete hd hw hfuel := by
    rcases error_or_ok (h.complete hd hw hfuel) with ⟨hnone, e, he⟩ | ⟨a, ha, hread⟩
    · rw [hnone, he]
      rfl
    · rw [ha, hread]
      rfl
  sound {a w s' fuel} hread := by
    cases hr : read fuel w with
    | error e =>
      rw [hr] at hread
      cases hread
    | ok r =>
      rw [hr] at hread
      obtain ⟨c, t⟩ := r
      obtain ⟨-, rfl⟩ := Prod.mk.inj (Except.ok.inj hread)
      exact h.sound hr

/-! ## Strings -/

/-- What a string means. -/
def Document.textAs (meaning : String → Except Cause α) : Document → Option α
  | .text (some content) => (meaning content).toOption
  | _ => none

theorem Document.Begins.of_quote (h : d.Begins Ascii.quote) : ∃ content, d = .text content := by
  match d, h with
  | .text content, _ => exact ⟨content, rfl⟩
  | .number, .inl h => exact absurd h (by decide)
  | .number, .inr h => exact absurd h (by decide)

theorem Document.textAs_eq_none {meaning : String → Except Cause α} (h : ∀ content, d ≠ .text content) :
    d.textAs meaning = none := by
  unfold Document.textAs
  split
  · exact absurd rfl (h _)
  · rfl

/-- A string with a content that means something is read as what it means. -/
theorem readTextAs_ok_iff {expected : String} {meaning : String → Except Cause α} {a : α} :
    readTextAs expected meaning w = .ok (a, s') ↔
      ∃ content s, Blanks w s ∧ Literal (some content) s s' ∧ meaning content = .ok a := by
  have hblanks := blanks_skipBlank w
  constructor
  · intro h
    unfold readTextAs at h
    split at h
    · cases h
    rename_i b t hs
    rw [hs] at hblanks
    split at h
    · cases h
    rename_i hb
    rw [not_not.1 hb] at hblanks
    split at h
    · cases h
    rename_i content u hread
    split at h
    · rename_i c hmeaning
      obtain ⟨rfl, rfl⟩ := Prod.mk.inj (Except.ok.inj h)
      exact ⟨content, _, hblanks, .text (readText_ok_iff.1 hread), hmeaning⟩
    · cases h
  · rintro ⟨content, s, hs, hliteral, hmeaning⟩
    cases hliteral with
    | text h =>
      rw [readTextAs, skipBlank_eq_cons hs (by decide)]
      dsimp only
      rw [if_neg (not_not.2 rfl), readText_ok_iff.2 h]
      dsimp only
      rw [hmeaning]

/-- **A string is read by what it means.** -/
theorem interprets_readTextAs (expected : String) (meaning : String → Except Cause α) :
    Interprets (fun _ => readTextAs expected meaning) (Document.textAs meaning) where
  complete {d s s' w _} hd hw _ := by
    have hskip := hd.skipBlank_eq hw
    obtain ⟨b, t, rfl, hb⟩ := hd.exists_head
    rw [readTextAs, hskip]
    dsimp only
    by_cases hquote : b = Ascii.quote
    · subst hquote
      obtain ⟨content, rfl⟩ := hb.of_quote
      rw [if_neg (not_not.2 rfl)]
      cases hd with
      | text h =>
        rcases error_or_ok h.readText with ⟨rfl, e, he⟩ | ⟨content, rfl, hread⟩
        · rw [he]
          rfl
        · rw [hread, Document.textAs]
          dsimp only
          cases meaning content <;> rfl
    · rw [if_pos hquote, Document.textAs_eq_none]
      · rfl
      · rintro content rfl
        exact hquote hb
  sound h := by
    obtain ⟨content, s, hs, hliteral, -⟩ := readTextAs_ok_iff.1 h
    exact ⟨_, s, hs, .text hliteral⟩

/-! ## Lists -/

theorem nextItem_eq_none (h : Blanks s (Ascii.closeBracket :: rest)) : nextItem first s = .ok none := by
  rw [nextItem, skipBlank_eq_cons h (by decide)]
  rfl

/-- Behind a gap stands an item. -/
theorem nextItem_eq_some (hgap : Gap first s t) (hd : Written (.value d) t u) :
    nextItem first s = .ok (some t) := by
  obtain ⟨b, x, rfl, hb⟩ := hd.exists_head
  have hclose : b ≠ Ascii.closeBracket := hb.ne_closing .list
  unfold nextItem
  cases hgap with
  | first hs =>
    rw [hb.skipBlank_eq hs]
    dsimp only
    rw [if_neg hclose, if_pos rfl]
  | next hs ht =>
    rw [skipBlank_eq_cons hs (by decide)]
    dsimp only
    rw [if_neg (by decide), if_neg (by decide), if_pos rfl, hb.skipBlank_eq ht]
    exact if_neg hclose

/-- Going to the next item finds the end of the list, or the item behind a gap. -/
theorem nextItem_ok {next : Option Bytes} (h : nextItem first s = .ok next) :
    (next = none ∧ ∃ rest, Blanks s (Ascii.closeBracket :: rest)) ∨ ∃ t, next = some t ∧ Gap first s t := by
  have hblanks := blanks_skipBlank s
  unfold nextItem at h
  split at h
  · cases h
  rename_i b x hs
  rw [hs] at hblanks
  split at h
  · rename_i hb
    rw [hb] at hblanks
    exact .inl ⟨(Except.ok.inj h).symm, x, hblanks⟩
  split at h
  · rename_i hfirst
    rw [hfirst]
    exact .inr ⟨_, (Except.ok.inj h).symm, .first hblanks⟩
  rename_i hfirst
  split at h
  · rename_i hb
    rw [hb] at hblanks
    have hblanks' := blanks_skipBlank x
    split at h
    · cases h
    rename_i c y hx
    rw [hx] at hblanks'
    split at h
    · cases h
    · rw [Bool.eq_false_iff.2 hfirst]
      exact .inr ⟨_, (Except.ok.inj h).symm, .next hblanks hblanks'⟩
  · cases h

theorem closeList_iff : closeList s = (none, s') ↔ Blanks s (Ascii.closeBracket :: s') := by
  have hblanks := blanks_skipBlank s
  constructor
  · intro h
    unfold closeList at h
    split at h
    · cases h
    rename_i b t hs
    split at h
    · rename_i hb
      obtain ⟨-, rfl⟩ := Prod.mk.inj h
      rwa [hs, hb] at hblanks
    split at h
    · cases h
    · cases h
  · intro h
    rw [closeList, skipBlank_eq_cons h (by decide)]
    rfl

/-- What was opened is concluded if it was read and is closed. -/
theorem conclude_ok_iff {close : Bytes → Option Fault × Bytes} {r : Except Fault (α × Bytes)} {a : α} :
    conclude close r = .ok (a, s') ↔ ∃ t, r = .ok (a, t) ∧ close t = (none, s') := by
  constructor
  · intro h
    unfold conclude at h
    split at h
    · rename_i c t
      split at h
      · rename_i u hclose
        obtain ⟨rfl, rfl⟩ := Prod.mk.inj (Except.ok.inj h)
        exact ⟨t, rfl, hclose⟩
      · cases h
    · cases h
    · cases h
  · rintro ⟨t, rfl, hclose⟩
    rw [conclude, hclose]

theorem exists_conclude_eq_error {close : Bytes → Option Fault × Bytes} (e : Fault) :
    ∃ e', conclude close (.error e : Except Fault (α × Bytes)) = .error e' := by
  cases e with
  | placed c n => exact ⟨_, rfl⟩
  | loose c s => exact ⟨_, rfl⟩

section

variable {item : Reader α} {meaning : Document → Option α} (hitem : Interprets (fun _ => item) meaning)

include hitem

/-- The items of a list are read one by one. -/
theorem readItems_eq (fuel : ℕ) (read : List α) {ds : List Document} (h : Written (.items first ds) s s')
    (hclose : Blanks s' (Ascii.closeBracket :: rest)) (hfuel : 2 * s.length + 1 ≤ fuel + 2 * s'.length) :
    (readItems item fuel first read s).toOption = (ds.mapM meaning).map fun as => (read.reverse ++ as, s') := by
  induction ds generalizing fuel first read s with
  | nil =>
    cases h with
    | noItems =>
      obtain ⟨fuel, rfl⟩ : ∃ n, fuel = n + 1 := ⟨fuel - 1, by omega⟩
      rw [readItems, nextItem_eq_none hclose]
      simp [Except.toOption]
  | cons d ds ih =>
    cases h with
    | item hgap hd hds =>
      have hless := hd.length_lt
      have hle := hgap.length_le
      have hle' := hds.length_items_le
      obtain ⟨fuel, rfl⟩ : ∃ n, fuel = n + 1 := ⟨fuel - 1, by omega⟩
      rw [readItems, nextItem_eq_some hgap hd]
      dsimp only
      rcases error_or_ok (hitem.complete hd (.none _) le_self_add) with ⟨hnone, e, he⟩ | ⟨a, ha, hread⟩
      · rw [he]
        simp [hnone, Except.toOption]
      · rw [hread]
        dsimp only
        rw [ih _ _ hds (by omega), List.mapM_cons, ha]
        cases ds.mapM meaning with
        | none => rfl
        | some as => simp

theorem exists_items_of_readItems {read as : List α} (h : readItems item fuel first read s = .ok (as, s')) :
    ∃ ds rest, Written (.items first ds) s s' ∧ Blanks s' (Ascii.closeBracket :: rest) := by
  induction fuel generalizing first read s with
  | zero => cases h
  | succ fuel ih =>
    rw [readItems] at h
    split at h
    · cases h
    · rename_i hnext
      obtain ⟨-, rfl⟩ := Prod.mk.inj (Except.ok.inj h)
      rcases nextItem_ok hnext with ⟨-, rest, hclose⟩ | ⟨t, ht, -⟩
      · exact ⟨[], rest, .noItems first s, hclose⟩
      · cases ht
    · rename_i t hnext
      rcases nextItem_ok hnext with ⟨ht, -⟩ | ⟨t, ht, hgap⟩
      · cases ht
      obtain rfl := Option.some.inj ht
      split at h
      · rename_i a u hread
        obtain ⟨d, v, hv, hd⟩ := hitem.sound (n := 0) hread
        obtain ⟨ds, rest, hds, hclose⟩ := ih h
        exact ⟨d :: ds, rest, .item (hgap.blanks hv) hd hds, hclose⟩
      · cases h

end

/-- A list each of whose items means something. -/
def Document.listOf (meaning : Document → Option α) : Document → Option (List α)
  | .list ds => ds.mapM meaning
  | _ => none

/-- A text, for its own sake. -/
def Document.content? : Document → Option String := Document.textAs .ok

theorem Document.content?_eq_some_iff {content : String} : d.content? = some content ↔ d = .string content := by
  constructor
  · intro h
    unfold Document.content? Document.textAs at h
    split at h
    · exact congrArg (Document.text ∘ some) (Option.some.inj h)
    · cases h
  · rintro rfl
    rfl

/-- A list of texts is a list of strings with a content. -/
theorem Document.listOf_content?_eq_some_iff {texts : List String} :
    d.listOf Document.content? = some texts ↔ d = .list (texts.map .string) := by
  have items (ds : List Document) : ds.mapM Document.content? = some texts ↔ ds = texts.map .string := by
    induction ds generalizing texts with
    | nil => cases texts <;> simp
    | cons d ds ih =>
      rw [List.mapM_cons]
      constructor
      · intro h
        obtain ⟨t, ht, h⟩ := Option.bind_eq_some_iff.1 h
        obtain ⟨ts, hts, h⟩ := Option.bind_eq_some_iff.1 h
        obtain rfl := Option.some.inj h
        rw [content?_eq_some_iff.1 ht, ih.1 hts, List.map_cons]
      · intro h
        cases texts with
        | nil => cases h
        | cons t ts =>
          obtain ⟨rfl, rfl⟩ := List.cons.inj h
          rw [content?_eq_some_iff.2 rfl, ih.2 rfl]
          rfl
  constructor
  · intro h
    unfold Document.listOf at h
    split at h
    · rw [(items _).1 h]
    · cases h
  · rintro rfl
    exact (items _).2 rfl

theorem Document.Begins.of_openBracket (h : d.Begins Ascii.openBracket) : ∃ ds, d = .list ds := by
  match d, h with
  | .list ds, _ => exact ⟨ds, rfl⟩
  | .number, .inl h => exact absurd h (by decide)
  | .number, .inr h => exact absurd h (by decide)

theorem Document.Begins.of_openBrace (h : d.Begins Ascii.openBrace) : ∃ ms, d = .record ms := by
  match d, h with
  | .record ms, _ => exact ⟨ms, rfl⟩
  | .number, .inl h => exact absurd h (by decide)
  | .number, .inr h => exact absurd h (by decide)

theorem interprets_readString : Interprets (fun _ => readString) Document.content? :=
  interprets_readTextAs "a string" .ok

/-- **A list of strings is read item by item.** -/
theorem interprets_readTexts : Interprets readTexts (Document.listOf Document.content?) where
  complete {d s s' w fuel} hd hw hfuel := by
    have hskip := hd.skipBlank_eq hw
    obtain ⟨b, t, rfl, hb⟩ := hd.exists_head
    rw [readTexts, hskip]
    dsimp only
    by_cases hbracket : b = Ascii.openBracket
    · subst hbracket
      obtain ⟨ds, rfl⟩ := hb.of_openBracket
      rw [if_pos rfl]
      cases hd with
      | list hds hclose =>
        have hlength := hclose.length_le
        simp only [List.length_cons] at hlength hfuel
        have hitems := readItems_eq interprets_readString fuel [] hds hclose (by omega)
        rcases error_or_ok hitems with ⟨hnone, e, he⟩ | ⟨as, has, hread⟩
        · rw [he, Document.listOf, hnone]
          exact congrArg Except.toOption (exists_conclude_eq_error e).choose_spec
        · rw [conclude_ok_iff.2 ⟨_, hread, closeList_iff.2 hclose⟩, Document.listOf, has]
          rfl
    · rw [if_neg hbracket]
      have hnone : d.listOf Document.content? = none := by
        unfold Document.listOf
        split
        · exact absurd hb hbracket
        · rfl
      rw [hnone]
      rfl
  sound {as w s' fuel} h := by
    have hblanks := blanks_skipBlank w
    unfold readTexts at h
    split at h
    · cases h
    rename_i b t hs
    rw [hs] at hblanks
    split at h
    · rename_i hb
      rw [hb] at hblanks
      obtain ⟨u, hread, hclose⟩ := conclude_ok_iff.1 h
      obtain ⟨ds, rest, hds, -⟩ := exists_items_of_readItems interprets_readString hread
      exact ⟨_, _, hblanks, .list hds (closeList_iff.1 hclose)⟩
    · cases h

/-! ## Names -/

/-- The choice that is named, by a string or by a record whose only member is null. -/
def Document.variantOf (choices : List (String × α)) : Document → Option α
  | .text (some name) => (chosen choices name).toOption
  | .record [(some name, .null)] => (chosen choices name).toOption
  | _ => none

theorem readNull_ok_iff : readNull s = .ok s' ↔ ∃ t, Blanks s t ∧ Written (.value .null) t s' := by
  have hblanks := blanks_skipBlank s
  constructor
  · intro h
    unfold readNull at h
    split at h
    · cases h
    rename_i b t hs
    rw [hs] at hblanks
    split at h
    · rename_i hb
      rw [hb, readWord_ok_iff.1 h] at hblanks
      exact ⟨_, hblanks, .null s'⟩
    · cases h
  · rintro ⟨t, hs, h⟩
    rw [readNull, h.skipBlank_eq hs]
    cases h with
    | null => exact readWord_ok_iff.2 rfl

theorem Document.Begins.of_n (h : d.Begins (Ascii.byte 'n')) : d = .null := by
  match d, h with
  | .null, _ => rfl
  | .number, .inl h => exact absurd h (by decide)
  | .number, .inr h => exact absurd h (by decide)

/-- Only null is read as null. -/
theorem readNull_eq (h : Written (.value d) s s') (hw : Blanks w s) :
    readNull w = .ok t ↔ d = .null ∧ s' = t := by
  constructor
  · intro hread
    obtain ⟨v, hv, hnull⟩ := readNull_ok_iff.1 hread
    obtain rfl : s = v := (h.skipBlank_eq hw).symm.trans (hnull.skipBlank_eq hv)
    obtain ⟨b, x, rfl, hb⟩ := h.exists_head
    obtain ⟨c, y, hc, hn⟩ := hnull.exists_head
    obtain rfl : b = Ascii.byte 'n' := (List.cons.inj hc).1.trans hn
    obtain rfl := hb.of_n
    have hread' := readNull_ok_iff.2 ⟨_, hw, h⟩
    exact ⟨rfl, Except.ok.inj (hread'.symm.trans hread)⟩
  · rintro ⟨rfl, rfl⟩
    exact readNull_ok_iff.2 ⟨_, hw, h⟩

/-- A name that stands as the only member of a record. -/
theorem readVariant_record {choices : List (String × α)} {a : α} (hw : Blanks w (Ascii.openBrace :: s)) :
    readVariant choices w = .ok (a, s') ↔ ∃ t u v,
      readTextAs "variant identifier" (chosen choices) s = .ok (a, t) ∧ readColon t = .ok u ∧
        readNull u = .ok v ∧ Blanks v (Ascii.closeBrace :: s') := by
  rw [readVariant, skipBlank_eq_cons hw (by decide)]
  dsimp only
  rw [if_neg (by decide), if_neg (by decide)]
  constructor
  · intro h
    cases hname : readTextAs "variant identifier" (chosen choices) s with
    | error e =>
      rw [hname] at h
      cases h
    | ok r =>
      obtain ⟨c, t⟩ := r
      rw [hname] at h
      cases hcolon : readColon t with
      | error e => simp [hcolon, bind, Except.bind] at h
      | ok u =>
        cases hnull : readNull u with
        | error e => simp [hcolon, hnull, bind, Except.bind] at h
        | ok v =>
          have hblanks := blanks_skipBlank v
          simp only [hcolon, hnull, bind, Except.bind] at h
          split at h
          · cases h
          rename_i b x hs
          rw [hs] at hblanks
          split at h
          · rename_i hb
            obtain ⟨rfl, rfl⟩ := Prod.mk.inj (Except.ok.inj h)
            rw [hb] at hblanks
            exact ⟨t, u, v, rfl, hcolon, hnull, hblanks⟩
          · cases h
  · rintro ⟨t, u, v, hname, hcolon, hnull, hclose⟩
    have hskip := skipBlank_eq_cons hclose (by decide)
    simp only [hname, hcolon, hnull, bind, Except.bind, hskip, if_true]

/-- The only member has to be null. -/
theorem readVariant_member {choices : List (String × α)} {name : Option String}
    {ms : List (Option String × Document)} {a : α} {v x y z : Bytes} (hgap : Gap true s t) (hname : Literal name t u)
    (hcolon : Blanks u (Ascii.colon :: v)) (hblanks : Blanks v w) (hd : Written (.value d) w x)
    (hms : Written (.members false ms) x y) (hclose : Blanks y (Ascii.closeBrace :: s')) :
    (∃ t u v, readTextAs "variant identifier" (chosen choices) s = .ok (a, t) ∧ readColon t = .ok u ∧
        readNull u = .ok v ∧ Blanks v (Ascii.closeBrace :: z)) ↔
      Document.variantOf choices (.record ((name, d) :: ms)) = some a ∧ s' = z := by
  have hs : Blanks s t := by
    cases hgap with
    | first h => exact h
  have hread := toOption_eq_map_iff.1
    ((interprets_readTextAs "variant identifier" (chosen choices)).complete (.text hname) hs le_self_add)
  constructor
  · rintro ⟨t', u', v', hread', hcolon', hnull, hclose'⟩
    obtain ⟨ha, rfl⟩ := (hread a t').1 hread'
    obtain rfl := Except.ok.inj ((readColon_ok_iff.2 hcolon).symm.trans hcolon')
    obtain ⟨rfl, rfl⟩ := (readNull_eq hd hblanks).1 hnull
    cases hms with
    | noMembers =>
      refine ⟨?_, (List.cons.inj (hclose.unique hclose' (by decide) (by decide))).2⟩
      cases name with
      | none => cases ha
      | some name => exact ha
    | member hgap' =>
      -- a second member: there is a comma where the record has to close
      cases hgap' with
      | next hcomma =>
        exact absurd (List.cons.inj (hcomma.unique hclose' (by decide) (by decide))).1 (by decide)
  · rintro ⟨hvariant, rfl⟩
    match name, d, ms, hd, hms, hread, hvariant with
    | some name, .null, [], hd, hms, hread, hvariant =>
      cases hms with
      | noMembers =>
        exact ⟨_, _, _, (hread a u).2 ⟨hvariant, rfl⟩, readColon_ok_iff.2 hcolon,
          (readNull_eq hd hblanks).2 ⟨rfl, rfl⟩, hclose⟩

/-- A name in a record is read if it is the only member. -/
theorem readVariant_record_eq {choices : List (String × α)} {ms : List (Option String × Document)}
    (h : Written (.value (.record ms)) (Ascii.openBrace :: s) s') (hw : Blanks w (Ascii.openBrace :: s)) :
    (readVariant choices w).toOption = (Document.variantOf choices (.record ms)).map (·, s') := by
  rw [toOption_eq_map_iff]
  intro a z
  rw [readVariant_record hw]
  cases h with
  | record hms hclose =>
    cases hms with
    | noMembers =>
      refine ⟨?_, fun h => by cases h.1⟩
      rintro ⟨_, _, _, hread, -⟩
      obtain ⟨content, y, hy, hliteral, -⟩ := readTextAs_ok_iff.1 hread
      obtain ⟨x, rfl, -⟩ := hliteral.exists_passes
      exact absurd (List.cons.inj (hy.unique hclose (by decide) (by decide))).1 (by decide)
    | member hgap hname hcolon hblanks hd hms =>
      exact readVariant_member hgap hname hcolon hblanks hd hms hclose

theorem exists_written_of_readVariant {choices : List (String × α)} {a : α}
    (h : readVariant choices w = .ok (a, s')) : ∃ d s, Blanks w s ∧ Written (.value d) s s' := by
  have hblanks := blanks_skipBlank w
  have hread := h
  unfold readVariant at h
  split at h
  · cases h
  rename_i b t hs
  rw [hs] at hblanks
  split at h
  · obtain ⟨content, v, hv, hliteral, -⟩ := readTextAs_ok_iff.1 h
    exact ⟨_, v, hblanks.trans hv, .text hliteral⟩
  split at h
  · cases h
  rename_i hb
  rw [not_not.1 hb] at hblanks
  obtain ⟨u, v, x, hname, hcolon, hnull, hclose⟩ := (readVariant_record hblanks).1 hread
  obtain ⟨y, hy, hnull⟩ := readNull_ok_iff.1 hnull
  obtain ⟨content, z, hz, hliteral, -⟩ := readTextAs_ok_iff.1 hname
  exact ⟨_, _, hblanks, .record
    (.member (.first hz) hliteral (readColon_ok_iff.1 hcolon) hy hnull (.noMembers _ _)) hclose⟩

/-- **A choice is read by its name.** -/
theorem interprets_readVariant (choices : List (String × α)) :
    Interprets (fun _ => readVariant choices) (Document.variantOf choices) where
  complete {d s s' w _} hd hw _ := by
    have hskip := hd.skipBlank_eq hw
    obtain ⟨b, t, rfl, hb⟩ := hd.exists_head
    by_cases hquote : b = Ascii.quote
    · subst hquote
      obtain ⟨content, rfl⟩ := hb.of_quote
      have hread := (interprets_readTextAs "variant identifier" (chosen choices)).complete hd (.none _)
        le_self_add
      rw [readVariant, hskip]
      dsimp only
      rw [if_pos rfl, hread]
      cases content <;> rfl
    by_cases hbrace : b = Ascii.openBrace
    · subst hbrace
      obtain ⟨ms, rfl⟩ := hb.of_openBrace
      exact readVariant_record_eq hd hw
    · rw [readVariant, hskip]
      dsimp only
      rw [if_neg hquote, if_pos hbrace]
      have hnone : d.variantOf choices = none := by
        unfold Document.variantOf
        split
        · exact absurd hb hquote
        · exact absurd hb hbrace
        · rfl
      rw [hnone]
      rfl
  sound := exists_written_of_readVariant

/-! ## Texts -/

/-- A text is read as a whole if a value is read and nothing but blanks is left. -/
theorem readWhole_eq_ok_iff {read : (fuel : ℕ) → Reader α} {text : Bytes} {a : α} :
    readWhole read text = .ok a ↔ ∃ s, read (fuelFor text) text = .ok (a, s) ∧ Blanks s [] := by
  constructor
  · intro h
    unfold readWhole at h
    split at h
    · cases h
    rename_i c s hread
    have hblanks := blanks_skipBlank s
    split at h
    · rename_i hs
      obtain rfl := Except.ok.inj h
      exact ⟨s, hread, hs ▸ hblanks⟩
    · cases h
  · rintro ⟨s, hread, hs⟩
    rw [readWhole, hread]
    dsimp only
    rw [skipBlank_eq_nil hs]

section

variable {read : (fuel : ℕ) → Reader α} {meaning : Document → Option α} {text : Bytes}

/-- **What is made of a text is what is made of its document.** -/
theorem Interprets.readWhole_eq (h : Interprets read meaning) (hd : d.WrittenIn text) :
    (readWhole read text).toOption = meaning d := by
  obtain ⟨s, t, hs, hd, ht⟩ := hd
  have hlength := hs.length_le
  have hread := h.complete hd hs (n := fuelFor text) (by rw [fuelFor]; omega)
  rcases error_or_ok hread with ⟨hnone, e, he⟩ | ⟨a, ha, hread⟩
  · rw [readWhole, he, hnone]
    rfl
  · rw [readWhole_eq_ok_iff.2 ⟨t, hread, ht⟩, ha]
    rfl

/-- **A text is accepted just if it holds a document that means something.** -/
theorem Interprets.readWhole_ok_iff (h : Interprets read meaning) {a : α} :
    readWhole read text = .ok a ↔ ∃ d : Document, d.WrittenIn text ∧ meaning d = some a := by
  constructor
  · intro hread
    obtain ⟨t, ht, hblanks⟩ := readWhole_eq_ok_iff.1 hread
    obtain ⟨d, s, hs, hd⟩ := h.sound ht
    have hd : d.WrittenIn text := ⟨s, t, hs, hd, hblanks⟩
    refine ⟨d, hd, ?_⟩
    rw [← h.readWhole_eq hd, hread]
    rfl
  · rintro ⟨d, hd, ha⟩
    have hread := h.readWhole_eq hd
    rw [ha] at hread
    cases hr : readWhole read text with
    | error e => rw [hr] at hread; cases hread
    | ok c =>
      rw [hr] at hread
      rw [Option.some.inj hread]

end

end RunnerDispatch.Json
