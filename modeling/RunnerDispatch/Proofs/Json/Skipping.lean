import RunnerDispatch.Proofs.Json.Literals
import RunnerDispatch.Proofs.Json.Numeral

/-!
# What is passed over is a document

Passing over a value keeps the open brackets in a list, while the grammar nests them. The induction therefore
is on the grammar in one direction, with any brackets open around, and on the fuel in the other.

* `Written.exists_head`: **the first byte of a value tells its kind.**
* `Written.passedOver`: each part of a document is passed over, whatever is open around it.
* `exists_written_of_skipFrom`: what is passed over is a value, and so is what is passed over inside a bracket.
* `skipValue_of_written`, `exists_written_of_skipValue`: **a value is passed over as a whole, and nothing else
  is.**
-/

namespace RunnerDispatch.Json

open Text

variable {s s' t u w rest : Bytes} {b : UInt8} {d : Document} {frame : Frame} {frames : List Frame}
  {first : Bool} {fuel : ℕ}

/-! ## The first byte -/

/-- The bytes a document may begin with. -/
def Document.Begins : Document → UInt8 → Prop
  | .null, b => b = Ascii.byte 'n'
  | .bool true, b => b = Ascii.byte 't'
  | .bool false, b => b = Ascii.byte 'f'
  | .number, b => b = Ascii.minus ∨ Ascii.isDigit b = true
  | .text _, b => b = Ascii.quote
  | .list _, b => b = Ascii.openBracket
  | .record _, b => b = Ascii.openBrace

theorem Unsigned.exists_digit (h : Unsigned s s') : ∃ b t, s = b :: t ∧ Ascii.isDigit b = true := by
  obtain ⟨hwhole, -, -⟩ := h
  cases hwhole with
  | zero => exact ⟨_, _, rfl, by decide⟩
  | digits hb => exact ⟨_, _, rfl, hb⟩

/-- **The first byte of a value tells its kind.** -/
theorem Written.exists_head (h : Written (.value d) s s') : ∃ b t, s = b :: t ∧ d.Begins b := by
  cases h with
  | null | yes | no => exact ⟨_, _, rfl, rfl⟩
  | number h =>
    cases h with
    | positive h =>
      obtain ⟨b, t, rfl, hb⟩ := h.exists_digit
      exact ⟨b, t, rfl, .inr hb⟩
    | negative h => exact ⟨_, _, rfl, .inl rfl⟩
  | text h =>
    obtain ⟨t, rfl, -⟩ := h.exists_passes
    exact ⟨_, _, rfl, rfl⟩
  | list | record => exact ⟨_, _, rfl, rfl⟩

/-- No value begins with a byte that stands between values. -/
theorem Document.Begins.not_mem (h : d.Begins b) : b ∉ [Ascii.space, Ascii.newline, Ascii.tab,
    Ascii.carriageReturn, Ascii.comma, Ascii.colon, Ascii.closeBracket, Ascii.closeBrace] := by
  match d, h with
  | .null, h | .bool true, h | .bool false, h | .text _, h | .list _, h | .record _, h | .number, .inl h =>
    rw [h]
    decide
  | .number, .inr h =>
    intro hb
    simp only [List.mem_cons, List.not_mem_nil, or_false] at hb
    rcases hb with rfl | rfl | rfl | rfl | rfl | rfl | rfl | rfl <;> exact absurd h (by decide)

theorem Document.Begins.isBlank_eq (h : d.Begins b) : isBlank b = false := by
  rw [Bool.eq_false_iff]
  intro hb
  simp only [isBlank, Bool.or_eq_true, beq_iff_eq] at hb
  refine h.not_mem ?_
  rcases hb with ((rfl | rfl) | rfl) | rfl <;> decide

theorem Document.Begins.ne_closing (h : d.Begins b) (frame : Frame) : b ≠ frame.closing := by
  rintro rfl
  refine h.not_mem ?_
  cases frame <;> decide

/-- Blanks are dropped up to the first byte of a value. -/
theorem Document.Begins.skipBlank_eq (h : d.Begins b) (hs : Blanks s (b :: t)) : skipBlank s = b :: t :=
  skipBlank_eq_cons hs h.isBlank_eq

/-! ## One step -/

theorem isBlank_closing (frame : Frame) : isBlank frame.closing = false := by cases frame <;> decide

/-- What ends a value, or a member, or a list. -/
theorem ends_of_blanks (frame : Frame) (h : Blanks s (b :: t)) (hb : b = Ascii.comma ∨ b = frame.closing) :
    Ends s := by
  refine h.ends (ends_cons ?_)
  rcases hb with rfl | rfl
  · decide
  · cases frame <;> decide

/-- The bracket that opens it. -/
def Frame.opening : Frame → UInt8
  | list => Ascii.openBracket
  | record => Ascii.openBrace

/-- A value without parts, or the opening of one with parts. -/
inductive Entered : Option Frame → Bytes → Bytes → Prop
  | plain {d : Document} {s s' : Bytes} (h : Written (.value d) s s') : Entered none s s'
  | opened (frame : Frame) (s : Bytes) : Entered (some frame) (frame.opening :: s) s

theorem entered_of_enter {entered : Option Frame} (h : enter s = .ok (entered, s')) :
    ∃ t, Blanks s t ∧ Entered entered t s' := by
  have hblanks := blanks_skipBlank s
  -- all values but the two with brackets are passed over whole and enter nothing
  have plain {r : Except Fault Bytes} (h : r.map (none, ·) = .ok (entered, s')) :
      none = entered ∧ r = .ok s' := by
    cases r with
    | error e => cases h
    | ok t =>
      obtain ⟨rfl, rfl⟩ := Prod.mk.inj (Except.ok.inj h)
      exact ⟨rfl, rfl⟩
  have word {c : UInt8} {rest : Bytes} {d : Document} {t : Bytes}
      (hd : ∀ s, Written (.value d) (c :: (rest ++ s)) s)
      (h : (readWord rest t).map (none, ·) = .ok (entered, s')) : Entered entered (c :: t) s' := by
    obtain ⟨rfl, hr⟩ := plain h
    rw [readWord_ok_iff.1 hr]
    exact .plain (hd s')
  unfold enter at h
  split at h
  · cases h
  rename_i b t hs
  rw [hs] at hblanks
  refine ⟨b :: t, hblanks, ?_⟩
  dsimp only at h
  split at h
  · rename_i hb
    rw [hb]
    exact word Written.null h
  split at h
  · rename_i hb
    rw [hb]
    exact word Written.yes h
  split at h
  · rename_i hb
    rw [hb]
    exact word Written.no h
  split at h
  · rename_i hb
    obtain ⟨rfl, hr⟩ := plain h
    rw [hb]
    exact .plain (.number (.negative (unsigned_of_skipNumber hr)))
  split at h
  · obtain ⟨rfl, hr⟩ := plain h
    exact .plain (.number (.positive (unsigned_of_skipNumber hr)))
  split at h
  · rename_i hb
    obtain ⟨rfl, hr⟩ := plain h
    obtain ⟨content, hcontent⟩ := exists_literal (skipText_ok_iff.1 hr)
    rw [hb]
    exact .plain (.text hcontent)
  split at h
  · rename_i hb
    obtain ⟨rfl, rfl⟩ := Prod.mk.inj (Except.ok.inj h)
    rw [hb]
    exact .opened .list t
  split at h
  · rename_i hb
    obtain ⟨rfl, rfl⟩ := Prod.mk.inj (Except.ok.inj h)
    rw [hb]
    exact .opened .record t
  · cases h

theorem enter_opening (h : Blanks w (frame.opening :: s)) : enter w = .ok (some frame, s) := by
  unfold enter
  cases frame with
  | list | record =>
    rw [skipBlank_eq_cons h (by decide)]
    rfl

theorem enter_digit (hw : skipBlank w = b :: s) (hb : Ascii.isDigit b = true) :
    enter w = (skipNumber (b :: s)).map (none, ·) := by
  have ne (c : UInt8) (hc : Ascii.isDigit c = false) : b ≠ c := by
    rintro rfl
    exact absurd hb (by rw [hc]; decide)
  unfold enter
  rw [hw]
  dsimp only
  rw [if_neg (ne _ (by decide)), if_neg (ne _ (by decide)), if_neg (ne _ (by decide)),
    if_neg (ne _ (by decide)), if_pos hb]

/-- Blanks are dropped up to a value. -/
theorem Written.skipBlank_eq (h : Written (.value d) s s') (hw : Blanks w s) : skipBlank w = s := by
  obtain ⟨b, t, rfl, hb⟩ := h.exists_head
  exact hb.skipBlank_eq hw

/-- **A value without parts is passed over at once.** -/
theorem enter_plain (h : Written (.value d) s s') (hlist : ∀ ds, d ≠ .list ds) (hrecord : ∀ ms, d ≠ .record ms)
    (hw : Blanks w s) (hends : Ends s') : enter w = .ok (none, s') := by
  have hskip := h.skipBlank_eq hw
  have word (rest s : Bytes) : (readWord rest (rest ++ s)).map (none, ·) = .ok ((none : Option Frame), s) := by
    rw [readWord_ok_iff.2 rfl]
    rfl
  cases h with
  | null =>
    unfold enter
    rw [hskip]
    exact word (Bytes.ofString "ull") s'
  | yes =>
    unfold enter
    rw [hskip]
    exact word (Bytes.ofString "rue") s'
  | no =>
    unfold enter
    rw [hskip]
    exact word (Bytes.ofString "alse") s'
  | number h =>
    cases h with
    | positive h =>
      obtain ⟨b, t, rfl, hdigit⟩ := h.exists_digit
      rw [enter_digit hskip hdigit, skipNumber_eq h hends]
      rfl
    | negative h =>
      unfold enter
      rw [hskip]
      exact congrArg (Except.map _) (skipNumber_eq h hends)
  | text h =>
    obtain ⟨t, rfl, hpasses⟩ := h.exists_passes
    unfold enter
    rw [hskip]
    exact congrArg (Except.map _) (skipText_ok_iff.2 hpasses)
  | list => exact absurd rfl (hlist _)
  | record => exact absurd rfl (hrecord _)

/-- What stands between the gap and the value of an item: nothing, or the name of a member with its colon. -/
inductive Frame.Naming : Frame → Bytes → Bytes → Prop
  | list (s : Bytes) : Frame.Naming .list s s
  | record {name : Option String} {s t s' : Bytes} (hname : Literal name s t)
      (hcolon : Blanks t (Ascii.colon :: s')) : Frame.Naming .record s s'

theorem readColon_ok_iff : readColon s = .ok s' ↔ Blanks s (Ascii.colon :: s') := by
  have hblanks := blanks_skipBlank s
  constructor
  · intro h
    unfold readColon at h
    split at h
    · cases h
    rename_i b t hs
    split at h
    · rename_i hb
      obtain rfl := Except.ok.inj h
      rwa [hs, hb] at hblanks
    · cases h
  · intro h
    rw [readColon, skipBlank_eq_cons h (by decide)]
    rfl

theorem exists_naming_of_skipName (h : frame.skipName s = .ok s') : ∃ t, Blanks s t ∧ frame.Naming t s' := by
  cases frame with
  | list =>
    obtain rfl := Except.ok.inj h
    exact ⟨s, .none s, .list s⟩
  | record =>
    have hblanks := blanks_skipBlank s
    unfold Frame.skipName at h
    dsimp only at h
    split at h
    · cases h
    rename_i b t hs
    rw [hs] at hblanks
    split at h
    · cases h
    rename_i hb
    split at h
    · rename_i u hu
      obtain ⟨name, hname⟩ := exists_literal (skipText_ok_iff.1 hu)
      rw [not_not.1 hb] at hblanks
      exact ⟨_, hblanks, .record hname (readColon_ok_iff.1 h)⟩
    · cases h

theorem skipName_of_naming (hs : Blanks s t) (h : frame.Naming t u) :
    ∃ w, Blanks w u ∧ frame.skipName s = .ok w := by
  cases h with
  | list => exact ⟨s, hs, rfl⟩
  | record hname hcolon =>
    obtain ⟨t, rfl, hpasses⟩ := hname.exists_passes
    refine ⟨u, .none u, ?_⟩
    unfold Frame.skipName
    dsimp only
    rw [skipBlank_eq_cons hs (by decide)]
    dsimp only
    rw [if_neg (by decide), skipText_ok_iff.2 hpasses]
    exact readColon_ok_iff.2 hcolon

/-! ## What is open -/

theorem Frame.Naming.length_le (h : frame.Naming s t) : t.length ≤ s.length := by
  cases h with
  | list => exact le_rfl
  | record hname hcolon =>
    have hlength := hcolon.length_le
    simp only [List.length_cons] at hlength
    exact (Nat.le_of_succ_le hlength).trans hname.length_lt.le

/-- What is left inside an open bracket. -/
inductive Frame.Inside : Frame → (first : Bool) → Bytes → Bytes → Prop
  | list {first : Bool} {ds : List Document} {s s' : Bytes} (h : Written (.items first ds) s s') :
      Frame.Inside .list first s s'
  | record {first : Bool} {ms : List (Option String × Document)} {s s' : Bytes}
      (h : Written (.members first ms) s s') : Frame.Inside .record first s s'

/-- What is to follow inside an open bracket. -/
def dueInside (first : Bool) : Due := if first then .itemOrEnd else .commaOrEnd

theorem Blanks.trans (h : Blanks s t) (h' : Blanks t u) : Blanks s u := by
  induction h with
  | none => exact h'
  | cons hb _ ih => exact .cons hb (ih h')

theorem Gap.length_le (h : Gap first s t) : t.length ≤ s.length := by
  cases h with
  | first h => exact h.length_le
  | next h h' =>
    have hlength := h.length_le
    simp only [List.length_cons] at hlength
    exact h'.length_le.trans (Nat.le_of_succ_le hlength)

theorem Gap.blanks (h : Gap first s t) (h' : Blanks t u) : Gap first s u := by
  cases h with
  | first h => exact .first (h.trans h')
  | next h h'' => exact .next h (h''.trans h')

theorem Frame.Inside.nil (frame : Frame) (first : Bool) (s : Bytes) : frame.Inside first s s := by
  cases frame with
  | list => exact .list (.noItems first s)
  | record => exact .record (.noMembers first s)

/-- One more item in front. -/
theorem Frame.Inside.cons {v x : Bytes} (hgap : Gap first s t) (hname : frame.Naming t u) (hblanks : Blanks u v)
    (hd : Written (.value d) v x) (h : frame.Inside false x s') : frame.Inside first s s' := by
  cases hname with
  | list =>
    cases h with
    | list h => exact .list (.item (hgap.blanks hblanks) hd h)
  | record hname hcolon =>
    cases h with
    | record h => exact .record (.member hgap hname hcolon hblanks hd h)

/-- A bracket with what is inside is a value. -/
theorem Frame.Inside.exists_written (h : frame.Inside true s t) (hclose : Blanks t (frame.closing :: s')) :
    ∃ d, Written (.value d) (frame.opening :: s) s' := by
  cases h with
  | list h => exact ⟨_, .list h hclose⟩
  | record h => exact ⟨_, .record h hclose⟩

/-- No number goes on behind an item. -/
theorem Frame.Inside.ends (h : frame.Inside false s s') (hclose : Blanks s' (frame.closing :: rest)) :
    Ends s := by
  have gap {s t : Bytes} (h : Gap false s t) : Ends s := by
    cases h with
    | next h => exact ends_of_blanks frame h (.inl rfl)
  cases h with
  | list h =>
    cases h with
    | noItems => exact ends_of_blanks _ hclose (.inr rfl)
    | item hgap => exact gap hgap
  | record h =>
    cases h with
    | noMembers => exact ends_of_blanks _ hclose (.inr rfl)
    | member hgap => exact gap hgap

/-! ## Steps -/

theorem skipFrom_inside_nil (hs : skipBlank s = []) : skipFrom (fuel + 1) (dueInside first) (frame :: frames) s =
    .error (.onNext frame.unfinished []) := by
  cases first <;> simp only [dueInside, skipFrom, hs, if_true, if_false, Bool.false_eq_true]

theorem skipFrom_inside_cons (hs : skipBlank s = b :: t) :
    skipFrom (fuel + 1) (dueInside first) (frame :: frames) s =
      if b = frame.closing then skipFrom fuel .commaOrEnd frames t
      else if first = false ∧ b ≠ Ascii.comma then .error (.onNext frame.expected (b :: t))
      else (frame.skipName (if first then b :: t else t)).bind (skipFrom fuel .value (frame :: frames)) := by
  cases first with
  | true =>
    simp only [dueInside, skipFrom, hs, if_true, false_and, if_false, reduceCtorEq]
    cases frame.skipName (b :: t) <;> rfl
  | false =>
    simp only [dueInside, skipFrom, hs, true_and, if_false, if_true, Bool.false_eq_true]
    cases frame.skipName t <;> rfl

/-- A bracket is closed. -/
theorem skipFrom_close (h : Blanks s (frame.closing :: rest)) :
    skipFrom (fuel + 1) (dueInside first) (frame :: frames) s = skipFrom fuel .commaOrEnd frames rest := by
  rw [skipFrom_inside_cons (skipBlank_eq_cons h (isBlank_closing frame)), if_pos rfl]

/-- Behind a gap stands the name of an item. -/
theorem Gap.exists_skipName (hgap : Gap first s t) (hname : frame.Naming t u) (hblanks : Blanks u w)
    (hd : Written (.value d) w s') : ∃ b x v, skipBlank s = b :: x ∧ b ≠ frame.closing ∧
      (first = false → b = Ascii.comma) ∧ frame.skipName (if first then b :: x else x) = .ok v ∧
      Blanks v w := by
  cases hgap with
  | first hs =>
    cases hname with
    | list =>
      obtain ⟨b, x, rfl, hb⟩ := hd.exists_head
      exact ⟨b, x, _, hb.skipBlank_eq (hs.trans hblanks), hb.ne_closing .list, (nomatch ·), rfl, .none _⟩
    | record hname hcolon =>
      obtain ⟨v, hv, hskip⟩ := skipName_of_naming (.none t) (.record hname hcolon)
      obtain ⟨x, rfl, -⟩ := hname.exists_passes
      exact ⟨_, x, v, skipBlank_eq_cons hs (by decide), by decide, (nomatch ·), hskip, hv.trans hblanks⟩
  | next hs ht =>
    obtain ⟨v, hv, hskip⟩ := skipName_of_naming ht hname
    refine ⟨_, _, v, skipBlank_eq_cons hs (by decide), ?_, fun _ => rfl, hskip, hv.trans hblanks⟩
    cases frame <;> decide

/-- **Behind the gap and the name of an item its value is due.** -/
theorem skipFrom_item (hgap : Gap first s t) (hname : frame.Naming t u) (hblanks : Blanks u w)
    (hd : Written (.value d) w s') : ∃ v, Blanks v w ∧ ∀ fuel frames,
      skipFrom (fuel + 1) (dueInside first) (frame :: frames) s = skipFrom fuel .value (frame :: frames) v := by
  obtain ⟨b, x, v, hs, hclosing, hcomma, hskip, hv⟩ := hgap.exists_skipName hname hblanks hd
  refine ⟨v, hv, fun fuel frames => ?_⟩
  rw [skipFrom_inside_cons hs, if_neg hclosing, if_neg fun h => h.2 (hcomma h.1), hskip]
  rfl

/-! ## Completeness -/

/-- A value is passed over, and takes no more fuel than twice its bytes. -/
def PassedOver (s s' : Bytes) : Prop :=
  ∃ n, n + 1 + 2 * s'.length ≤ 2 * s.length ∧ ∀ fuel frames w, Blanks w s → Ends s' →
    skipFrom (fuel + n) .value frames w = skipFrom fuel .commaOrEnd frames s'

/-- So is what is left inside a bracket, and the bracket is closed. -/
def PassedOverInside (frame : Frame) (first : Bool) (s s' : Bytes) : Prop :=
  ∃ n, n + 2 * s'.length ≤ 2 * s.length ∧ ∀ fuel frames rest, Blanks s' (frame.closing :: rest) →
    skipFrom (fuel + n + 1) (dueInside first) (frame :: frames) s = skipFrom fuel .commaOrEnd frames rest

theorem passedOver_plain (h : Written (.value d) s s') (hlist : ∀ ds, d ≠ .list ds)
    (hrecord : ∀ ms, d ≠ .record ms) (hlength : s'.length < s.length) : PassedOver s s' := by
  refine ⟨1, by omega, fun fuel frames w hw hends => ?_⟩
  rw [skipFrom, enter_plain h hlist hrecord hw hends]

theorem passedOver_opening (frame : Frame) (h : PassedOverInside frame true s t)
    (hclose : Blanks t (frame.closing :: s')) : PassedOver (frame.opening :: s) s' := by
  obtain ⟨n, hn, hskip⟩ := h
  have hlength := hclose.length_le
  simp only [List.length_cons] at hlength
  refine ⟨n + 2, by simp only [List.length_cons]; omega, fun fuel frames w hw _ => ?_⟩
  calc skipFrom (fuel + n + 1 + 1) .value frames w
      = skipFrom (fuel + n + 1) (dueInside true) (frame :: frames) s := by rw [skipFrom, enter_opening hw]; rfl
    _ = skipFrom fuel .commaOrEnd frames s' := hskip fuel frames s' hclose

theorem passedOverInside_nil (frame : Frame) (first : Bool) (s : Bytes) : PassedOverInside frame first s s :=
  ⟨0, (Nat.zero_add _).le, fun _ _ _ hclose => skipFrom_close hclose⟩

theorem passedOverInside_cons {v x : Bytes} (hgap : Gap first s t) (hname : frame.Naming t u)
    (hblanks : Blanks u v) (hd : Written (.value d) v x) (hpassed : PassedOver v x) (hinside : frame.Inside false x s')
    (h : PassedOverInside frame false x s') : PassedOverInside frame first s s' := by
  obtain ⟨w, hw, hitem⟩ := skipFrom_item hgap hname hblanks hd
  obtain ⟨n, hn, hvalue⟩ := hpassed
  obtain ⟨m, hm, hrest⟩ := h
  have hlength := (hblanks.length_le.trans hname.length_le).trans hgap.length_le
  refine ⟨m + 1 + n, by omega, fun fuel frames rest hclose => ?_⟩
  calc skipFrom (fuel + (m + 1 + n) + 1) (dueInside first) (frame :: frames) s
      = skipFrom (fuel + m + 1 + n) .value (frame :: frames) w := by
        rw [hitem, ← Nat.add_assoc, ← Nat.add_assoc]
    _ = skipFrom (fuel + m + 1) .commaOrEnd (frame :: frames) x := hvalue _ _ _ hw (hinside.ends hclose)
    _ = skipFrom fuel .commaOrEnd frames rest := hrest fuel frames rest hclose

/-- That a part is passed over. -/
def Part.PassedOver : Part → Bytes → Bytes → Prop
  | .value _ => Json.PassedOver
  | .items first _ => PassedOverInside .list first
  | .members first _ => PassedOverInside .record first

/-- **Each part of a document is passed over**, whatever is open around it. -/
theorem Written.passedOver {p : Part} (h : Written p s s') : p.PassedOver s s' := by
  induction h with
  | null s => exact passedOver_plain (.null s) (fun _ => nofun) (fun _ => nofun) (by simp; decide)
  | yes s => exact passedOver_plain (.yes s) (fun _ => nofun) (fun _ => nofun) (by simp; decide)
  | no s => exact passedOver_plain (.no s) (fun _ => nofun) (fun _ => nofun) (by simp; decide)
  | number h => exact passedOver_plain (.number h) (fun _ => nofun) (fun _ => nofun) h.length_lt
  | text h => exact passedOver_plain (.text h) (fun _ => nofun) (fun _ => nofun) h.length_lt
  | list _ hclose ih => exact passedOver_opening .list ih hclose
  | record _ hclose ih => exact passedOver_opening .record ih hclose
  | noItems first s => exact passedOverInside_nil .list first s
  | item hgap hd hds hpassed ih =>
    exact passedOverInside_cons hgap (.list _) (.none _) hd hpassed (.list hds) ih
  | noMembers first s => exact passedOverInside_nil .record first s
  | member hgap hname hcolon hblanks hd hms hpassed ih =>
    exact passedOverInside_cons hgap (.record hname hcolon) hblanks hd hpassed (.record hms) ih

theorem Written.length_lt (h : Written (.value d) s s') : s'.length < s.length := by
  obtain ⟨n, hn, -⟩ := h.passedOver
  omega

theorem Written.length_items_le {ds : List Document} (h : Written (.items first ds) s s') :
    s'.length ≤ s.length := by
  obtain ⟨n, hn, -⟩ := h.passedOver
  omega

theorem Written.length_members_le {ms : List (Option String × Document)}
    (h : Written (.members first ms) s s') : s'.length ≤ s.length := by
  obtain ⟨n, hn, -⟩ := h.passedOver
  omega

/-- **A value is passed over as a whole.** -/
theorem skipValue_of_written (h : Written (.value d) s s') (hw : Blanks w s) (hends : Ends s')
    (hfuel : 2 * s.length ≤ fuel + 2 * s'.length) : skipValue fuel w = .ok s' := by
  obtain ⟨n, hn, hskip⟩ := h.passedOver
  obtain ⟨m, rfl⟩ : ∃ m, fuel = m + 1 + n := ⟨fuel - n - 1, by omega⟩
  exact hskip (m + 1) [] w hw hends

/-! ## Soundness -/

/-- Where a value is due, either one without parts is passed over or a bracket is opened. -/
theorem skipFrom_value_cases (h : skipFrom (fuel + 1) .value frames s = .ok s') :
    (∃ d t u, Blanks s t ∧ Written (.value d) t u ∧ skipFrom fuel .commaOrEnd frames u = .ok s') ∨
      ∃ frame t, Blanks s (frame.opening :: t) ∧ skipFrom fuel (dueInside true) (frame :: frames) t = .ok s' := by
  rw [skipFrom] at h
  split at h
  · rename_i frame t henter
    obtain ⟨v, hv, hentered⟩ := entered_of_enter henter
    cases hentered with
    | opened => exact .inr ⟨frame, t, hv, h⟩
  · rename_i t henter
    obtain ⟨v, hv, hentered⟩ := entered_of_enter henter
    cases hentered with
    | plain hd => exact .inl ⟨_, v, t, hv, hd, h⟩
  · cases h

/-- Inside a bracket, either it is closed or the next item is due. -/
theorem skipFrom_inside_cases (h : skipFrom (fuel + 1) (dueInside first) (frame :: frames) s = .ok s') :
    (∃ rest, Blanks s (frame.closing :: rest) ∧ skipFrom fuel .commaOrEnd frames rest = .ok s') ∨
      ∃ t u, Gap first s t ∧ frame.Naming t u ∧ skipFrom fuel .value (frame :: frames) u = .ok s' := by
  have hblanks := blanks_skipBlank s
  cases hs : skipBlank s with
  | nil =>
    rw [skipFrom_inside_nil hs] at h
    cases h
  | cons b x =>
    rw [skipFrom_inside_cons hs] at h
    rw [hs] at hblanks
    split at h
    · rename_i hb
      rw [hb] at hblanks
      exact .inl ⟨x, hblanks, h⟩
    split at h
    · cases h
    rename_i hcomma
    cases hname : frame.skipName (if first then b :: x else x) with
    | error e =>
      rw [hname] at h
      cases h
    | ok u =>
      rw [hname] at h
      obtain ⟨y, hy, hnaming⟩ := exists_naming_of_skipName hname
      have hgap : Gap first s y := by
        cases first with
        | true => exact .first (hblanks.trans hy)
        | false =>
          obtain rfl : b = Ascii.comma := by simpa using hcomma
          exact .next hblanks hy
      exact .inr ⟨y, u, hgap, hnaming, h⟩

/-- **What is passed over is a value**, and so is what is passed over inside a bracket. The induction is on the
fuel, since the brackets that are open around are arbitrary. -/
theorem exists_written_of_skipFrom (fuel : ℕ) :
    (∀ frames s, skipFrom fuel .value frames s = .ok s' → ∃ d t u, ∃ fuel' < fuel,
      Blanks s t ∧ Written (.value d) t u ∧ skipFrom fuel' .commaOrEnd frames u = .ok s') ∧
    ∀ first frame frames s, skipFrom fuel (dueInside first) (frame :: frames) s = .ok s' →
      ∃ t rest, ∃ fuel' < fuel, frame.Inside first s t ∧ Blanks t (frame.closing :: rest) ∧
        skipFrom fuel' .commaOrEnd frames rest = .ok s' := by
  induction fuel using Nat.strong_induction_on with
  | _ fuel ih =>
    cases fuel with
    | zero =>
      constructor
      · intro frames s h
        cases h
      · intro first frame frames s h
        cases h
    | succ fuel =>
      constructor
      · intro frames s h
        rcases skipFrom_value_cases h with ⟨d, t, u, ht, hd, hrest⟩ | ⟨frame, t, ht, hinside⟩
        · exact ⟨d, t, u, fuel, Nat.lt_succ_self _, ht, hd, hrest⟩
        · -- the value goes on to the bracket that closes its first
          obtain ⟨x, rest, fuel', hless, hinside, hclose, hrest⟩ :=
            (ih fuel (Nat.lt_succ_self _)).2 true frame frames t hinside
          obtain ⟨d, hd⟩ := hinside.exists_written hclose
          exact ⟨d, _, rest, fuel', by omega, ht, hd, hrest⟩
      · intro first frame frames s h
        rcases skipFrom_inside_cases h with ⟨rest, hclose, hrest⟩ | ⟨t, u, hgap, hname, hvalue⟩
        · exact ⟨s, rest, fuel, Nat.lt_succ_self _, .nil frame first s, hclose, hrest⟩
        · -- one item, and then the others with what fuel it has left
          obtain ⟨d, v, x, fuel', hless, hv, hd, hitems⟩ := (ih fuel (Nat.lt_succ_self _)).1 _ u hvalue
          obtain ⟨z, rest, fuel'', hless', hinside, hclose, hrest⟩ :=
            (ih fuel' (by omega)).2 false frame frames x hitems
          exact ⟨z, rest, fuel'', by omega, hinside.cons hgap hname hv hd, hclose, hrest⟩

/-- **Nothing but a value is passed over.** -/
theorem exists_written_of_skipValue (h : skipValue fuel s = .ok s') :
    ∃ d t, Blanks s t ∧ Written (.value d) t s' := by
  obtain ⟨d, t, u, fuel', -, ht, hd, hrest⟩ := (exists_written_of_skipFrom fuel).1 [] s h
  cases fuel' with
  | zero => cases hrest
  | succ fuel' =>
    obtain rfl := Except.ok.inj hrest
    exact ⟨d, t, ht, hd⟩

end RunnerDispatch.Json
