import RunnerDispatch.Proofs.Bytes
import RunnerDispatch.Proofs.Json.Document
import RunnerDispatch.Proofs.Json.Text

/-!
# Tokens are read as the grammar writes them

* `skipBlank_eq`: blanks are dropped to the last.
* `readText_ok_iff`: **a string is read as the content that its inside spells**, and refused if it spells none.
* `skipText_ok_iff`: a string is passed over up to its closing quote, whatever it spells.
* `Literal.readText`: **a string without a content is refused.**
-/

namespace RunnerDispatch.Json

open Text
open String (utf8EncodeChar)

variable {s s' t u : Bytes} {b : UInt8}

/-! ## Blanks and words -/

theorem blanks_skipBlank (s : Bytes) : Blanks s (skipBlank s) := by
  induction s with
  | nil => exact .none _
  | cons b s ih =>
    by_cases hb : isBlank b = true
    · rw [skipBlank, List.dropWhile_cons_of_pos hb]
      exact .cons hb ih
    · rw [skipBlank, List.dropWhile_cons_of_neg hb]
      exact .none _

/-- **Blanks are dropped to the last.** -/
theorem skipBlank_eq (h : Blanks s t) (ht : ∀ b, t.head? = some b → isBlank b = false) : skipBlank s = t := by
  induction h with
  | none s =>
    cases s with
    | nil => rfl
    | cons b s => exact List.dropWhile_cons_of_neg (by rw [ht b rfl]; decide)
  | cons hb h ih => exact (List.dropWhile_cons_of_pos hb).trans (ih ht)

theorem skipBlank_eq_cons (h : Blanks s (b :: t)) (hb : isBlank b = false) : skipBlank s = b :: t := by
  refine skipBlank_eq h fun c hc => ?_
  obtain rfl := Option.some.inj hc
  exact hb

theorem skipBlank_eq_nil (h : Blanks s []) : skipBlank s = [] :=
  skipBlank_eq h fun _ hc => (nomatch hc)

/-- Blanks end in one place. -/
theorem Blanks.unique {c : UInt8} (h : Blanks s (b :: t)) (h' : Blanks s (c :: u)) (hb : isBlank b = false)
    (hc : isBlank c = false) : b :: t = c :: u :=
  (skipBlank_eq_cons h hb).symm.trans (skipBlank_eq_cons h' hc)

theorem Blanks.length_le (h : Blanks s t) : t.length ≤ s.length := by
  induction h with
  | none s => exact le_rfl
  | cons hb h ih => exact Nat.le_succ_of_le ih

theorem readWord_ok_iff {w : Bytes} : readWord w s = .ok s' ↔ s = w ++ s' := by
  induction w generalizing s with
  | nil =>
    rw [readWord, Except.ok.injEq]
    rfl
  | cons c w ih =>
    cases s with
    | nil => exact ⟨(nomatch ·), (nomatch ·)⟩
    | cons b s =>
      rw [readWord, List.cons_append, List.cons.injEq]
      split
      · rename_i hbc
        rw [ih]
        exact ⟨fun h => ⟨hbc, h⟩, fun h => h.2⟩
      · rename_i hbc
        exact ⟨(nomatch ·), fun h => absurd h.1 hbc⟩

/-! ## Escapes -/

theorem shortEscape?_eq_some_iff {c : Char} : shortEscape? b = some c ↔ (b, c) ∈ shortEscapes := by
  unfold shortEscape?
  simp only [shortEscapes, List.mem_cons, List.not_mem_nil, or_false, Prod.mk.injEq]
  constructor
  · intro h
    split_ifs at h <;> cases h <;> simp_all
  · rintro (⟨rfl, rfl⟩ | ⟨rfl, rfl⟩ | ⟨rfl, rfl⟩ | ⟨rfl, rfl⟩ | ⟨rfl, rfl⟩ | ⟨rfl, rfl⟩ | ⟨rfl, rfl⟩ |
      ⟨rfl, rfl⟩)
    all_goals decide

theorem shortEscape?_u : shortEscape? (Ascii.byte 'u') = none := by decide

theorem readFourDigits_ok_iff {n : ℕ} : readFourDigits s = .ok (n, s') ↔ FourDigits n s s' := by
  constructor
  · intro h
    unfold readFourDigits at h
    split at h
    · rename_i a b c d s
      split at h
      · rename_i m hm
        simp only [fourDigits?, Option.bind_eq_bind, Option.bind_eq_some_iff] at hm
        obtain ⟨i, hi, j, hj, k, hk, l, hl, hm⟩ := hm
        simp only [Except.ok.injEq, Prod.mk.injEq] at h
        obtain ⟨rfl, rfl⟩ := h
        obtain rfl := Option.some.inj hm
        exact .mk hi hj hk hl
      · cases h
    · cases h
  · rintro ⟨ha, hb, hc, hd⟩
    simp only [readFourDigits, fourDigits?, ha, hb, hc, hd, Option.bind_eq_bind, Option.bind_some]
    rfl

theorem FourDigits.length_lt {n : ℕ} (h : FourDigits n s s') : s'.length < s.length :=
  length_readFourDigits (readFourDigits_ok_iff.2 h)

theorem isLowSurrogate_iff {n : ℕ} : isLowSurrogate n = true ↔ 0xDC00 ≤ n ∧ n ≤ 0xDFFF := by
  simp only [isLowSurrogate, Bool.and_eq_true, decide_eq_true_eq]

theorem isHighSurrogate_iff {n : ℕ} : isHighSurrogate n = true ↔ 0xD800 ≤ n ∧ n ≤ 0xDBFF := by
  simp only [isHighSurrogate, Bool.and_eq_true, decide_eq_true_eq]

theorem readLowSurrogate_ok_iff {high : ℕ} {c : Char} : readLowSurrogate high s = .ok (c, s') ↔
    ∃ low t, s = Ascii.backslash :: Ascii.byte 'u' :: t ∧ FourDigits low t s' ∧
      (0xDC00 ≤ low ∧ low ≤ 0xDFFF) ∧ c = Char.ofNat ((high - 0xD800) * 0x400 + (low - 0xDC00) + 0x10000) := by
  constructor
  · intro h
    unfold readLowSurrogate at h
    split at h
    · cases h
    · cases h
    rename_i b v t
    split at h
    · cases h
    rename_i hb
    split at h
    · cases h
    rename_i hv
    split at h
    · cases h
    rename_i low rest hlow
    split at h
    · rename_i hbounds
      simp only [Except.ok.injEq, Prod.mk.injEq] at h
      obtain ⟨rfl, rfl⟩ := h
      refine ⟨low, t, ?_, readFourDigits_ok_iff.1 hlow, isLowSurrogate_iff.1 hbounds, by rw [pairedSurrogates]⟩
      rw [not_not.1 hb, not_not.1 hv]
    · cases h
  · rintro ⟨low, t, rfl, hlow, hbounds, hc⟩
    simp only [readLowSurrogate, ne_eq, not_true, if_false, readFourDigits_ok_iff.2 hlow,
      isLowSurrogate_iff.2 hbounds, if_true, pairedSurrogates, hc]

theorem escape_of_readEscape {c : Char} (h : readEscape s = .ok (c, s')) : Escape c s s' := by
  unfold readEscape at h
  split at h
  · cases h
  rename_i b t
  split at h
  · rename_i c' hc'
    simp only [Except.ok.injEq, Prod.mk.injEq] at h
    obtain ⟨rfl, rfl⟩ := h
    exact .short (shortEscape?_eq_some_iff.1 hc')
  split at h
  · cases h
  rename_i hb
  obtain rfl : b = Ascii.byte 'u' := not_not.1 hb
  split at h
  · cases h
  rename_i n rest hn
  rw [readFourDigits_ok_iff] at hn
  split at h
  · cases h
  rename_i hlow
  split at h
  · rename_i hhigh
    obtain ⟨low, t, rfl, hlow, hbounds, hc⟩ := readLowSurrogate_ok_iff.1 h
    rw [hc]
    exact .paired hn hlow (isHighSurrogate_iff.1 hhigh) hbounds
  · rename_i hhigh
    simp only [Except.ok.injEq, Prod.mk.injEq] at h
    obtain ⟨rfl, rfl⟩ := h
    rw [isLowSurrogate_iff] at hlow
    rw [isHighSurrogate_iff] at hhigh
    exact .numbered hn (by omega)

theorem Escape.readEscape {c : Char} (h : Escape c s s') : Json.readEscape s = .ok (c, s') := by
  cases h with
  | short hc => simp only [Json.readEscape, shortEscape?_eq_some_iff.2 hc]
  | @numbered n _ _ hn hbounds =>
    have hlow : ¬ isLowSurrogate n = true := by
      rw [isLowSurrogate_iff]
      omega
    have hhigh : ¬ isHighSurrogate n = true := by
      rw [isHighSurrogate_iff]
      omega
    simp only [Json.readEscape, shortEscape?_u, ne_eq, not_true, if_false, readFourDigits_ok_iff.2 hn, hlow, hhigh,
      Bool.false_eq_true]
  | @paired high low _ t _ hhigh hlow hbounds hbounds' =>
    have hnotLow : ¬ isLowSurrogate high = true := by
      rw [isLowSurrogate_iff]
      omega
    have hpair : readLowSurrogate high (Ascii.backslash :: Ascii.byte 'u' :: t) = .ok (_, s') :=
      readLowSurrogate_ok_iff.2 ⟨low, t, rfl, hlow, hbounds', rfl⟩
    simp only [Json.readEscape, shortEscape?_u, ne_eq, not_true, if_false, readFourDigits_ok_iff.2 hhigh, hnotLow,
      isHighSurrogate_iff.2 hbounds, if_true, Bool.false_eq_true, hpair]

/-- **An escape is read as the character it stands for.** -/
theorem readEscape_ok_iff {c : Char} : readEscape s = .ok (c, s') ↔ Escape c s s' :=
  ⟨escape_of_readEscape, Escape.readEscape⟩

/-! ## Strings -/

section

variable {content : Bytes}

theorem spells_quote_iff : Spells content (Ascii.quote :: s) s' ↔ content = [] ∧ s = s' := by
  constructor
  · intro h
    generalize hs : Ascii.quote :: s = v at h
    cases h with
    | close => exact ⟨rfl, (List.cons.inj hs).2⟩
    | byte hb => exact absurd (List.cons.inj hs).1.symm hb.1
    | escape => exact absurd (List.cons.inj hs).1 (by decide)
  · rintro ⟨rfl, rfl⟩
    exact .close s

theorem spells_backslash_iff : Spells content (Ascii.backslash :: s) s' ↔
    ∃ c t rest, Escape c s t ∧ Spells rest t s' ∧ content = utf8EncodeChar c ++ rest := by
  constructor
  · intro h
    generalize hs : Ascii.backslash :: s = v at h
    cases h with
    | close => exact absurd (List.cons.inj hs).1 (by decide)
    | byte hb => exact absurd (List.cons.inj hs).1.symm hb.2.1
    | escape hc h =>
      obtain rfl := (List.cons.inj hs).2
      exact ⟨_, _, _, hc, h, rfl⟩
  · rintro ⟨c, t, rest, hc, h, rfl⟩
    exact .escape hc h

theorem spells_byte_iff (hb : IsPlain b) :
    Spells content (b :: s) s' ↔ ∃ rest, Spells rest s s' ∧ content = b :: rest := by
  constructor
  · intro h
    generalize hs : b :: s = v at h
    cases h with
    | close => exact absurd (List.cons.inj hs).1 hb.1
    | byte _ h =>
      obtain ⟨rfl, rfl⟩ := List.cons.inj hs
      exact ⟨_, h, rfl⟩
    | escape => exact absurd (List.cons.inj hs).1 hb.2.1
  · rintro ⟨rest, h, rfl⟩
    exact .byte hb h

theorem not_spells_control (hb : b < Ascii.space) : ¬ Spells content (b :: s) s' := by
  intro h
  generalize hs : b :: s = v at h
  cases h with
  | close =>
    rw [(List.cons.inj hs).1] at hb
    exact absurd hb (by decide)
  | byte hb' => exact hb'.2.2 ((List.cons.inj hs).1 ▸ hb)
  | escape =>
    rw [(List.cons.inj hs).1] at hb
    exact absurd hb (by decide)

section

variable {start read : Bytes} {text : String}

/-- The closing quote ends a string. -/
theorem readTextOnto_quote_ok_iff : readTextOnto start read (Ascii.quote :: s) = .ok (text, s') ↔
    Bytes.toString? read.reverse = some text ∧ s = s' := by
  rw [readTextOnto, if_pos rfl]
  constructor
  · intro h
    split at h
    · rename_i found hfound
      simp only [Except.ok.injEq, Prod.mk.injEq] at h
      obtain ⟨rfl, rfl⟩ := h
      exact ⟨hfound, rfl⟩
    · cases h
  · rintro ⟨h, rfl⟩
    rw [h]

/-- Behind a backslash stands an escape. -/
theorem readTextOnto_backslash_ok_iff : readTextOnto start read (Ascii.backslash :: s) = .ok (text, s') ↔
    ∃ c t, Escape c s t ∧ readTextOnto start ((utf8EncodeChar c).reverse ++ read) t = .ok (text, s') := by
  constructor
  · intro h
    rw [readTextOnto, if_neg (by decide), if_pos rfl] at h
    split at h
    · rename_i c t hc
      exact ⟨c, t, readEscape_ok_iff.1 hc, h⟩
    · cases h
  · rintro ⟨c, t, hc, h⟩
    have hread := readEscape_ok_iff.2 hc
    rw [readTextOnto, if_neg (by decide), if_pos rfl]
    split
    · rename_i c' t' hc'
      obtain ⟨rfl, rfl⟩ := Prod.mk.inj (Except.ok.inj (hread.symm.trans hc'))
      exact h
    · rename_i e he
      cases hread.symm.trans he

/-- A plain byte is read as it is. -/
theorem readTextOnto_of_isPlain (hb : IsPlain b) :
    readTextOnto start read (b :: s) = readTextOnto start (b :: read) s := by
  rw [readTextOnto, if_neg hb.1, if_neg hb.2.1, if_neg hb.2.2]

theorem readTextOnto_ne_ok_of_control (hb : b < Ascii.space) :
    readTextOnto start read (b :: s) ≠ .ok (text, s') := by
  have hquote : b ≠ Ascii.quote := by
    rintro rfl
    exact absurd hb (by decide)
  have hbackslash : b ≠ Ascii.backslash := by
    rintro rfl
    exact absurd hb (by decide)
  rw [readTextOnto, if_neg hquote, if_neg hbackslash, if_pos hb]
  intro h
  cases h

/-- Reading a string onto some bytes adds what the rest of it spells. -/
theorem readTextOnto_ok_iff : readTextOnto start read s = .ok (text, s') ↔
    ∃ content, Spells content s s' ∧ Bytes.toString? (read.reverse ++ content) = some text := by
  -- on the length, since an escape takes several bytes at a time
  induction hlength : s.length using Nat.strong_induction_on generalizing s read with
  | _ n ih =>
    cases s with
    | nil =>
      rw [readTextOnto]
      constructor
      · intro h
        cases h
      · rintro ⟨_, h, _⟩
        cases h
    | cons b s =>
      rw [List.length_cons] at hlength
      by_cases hquote : b = Ascii.quote
      · subst hquote
        rw [readTextOnto_quote_ok_iff, and_comm]
        simp only [spells_quote_iff, and_assoc, exists_eq_left, List.append_nil]
      by_cases hbackslash : b = Ascii.backslash
      · -- an escape adds the bytes of its character
        subst hbackslash
        rw [readTextOnto_backslash_ok_iff]
        simp only [spells_backslash_iff]
        constructor
        · rintro ⟨c, t, hc, h⟩
          have hshorter := length_readEscape (readEscape_ok_iff.2 hc)
          obtain ⟨rest, hrest, htext⟩ := (ih _ (by omega) rfl).1 h
          rw [List.reverse_append, List.reverse_reverse, List.append_assoc] at htext
          exact ⟨_, ⟨c, t, rest, hc, hrest, rfl⟩, htext⟩
        · rintro ⟨_, ⟨c, t, rest, hc, hrest, rfl⟩, htext⟩
          have hshorter := length_readEscape (readEscape_ok_iff.2 hc)
          refine ⟨c, t, hc, (ih _ (by omega) rfl).2 ⟨rest, hrest, ?_⟩⟩
          rw [List.reverse_append, List.reverse_reverse, List.append_assoc]
          exact htext
      by_cases hcontrol : b < Ascii.space
      · refine iff_of_false (readTextOnto_ne_ok_of_control hcontrol) ?_
        rintro ⟨_, h, _⟩
        exact not_spells_control hcontrol h
      · have hplain : IsPlain b := ⟨hquote, hbackslash, hcontrol⟩
        rw [readTextOnto_of_isPlain hplain, ih s.length (by omega) rfl]
        simp only [spells_byte_iff hplain, List.reverse_cons, List.append_assoc, List.singleton_append]
        constructor
        · rintro ⟨rest, h, htext⟩
          exact ⟨_, ⟨rest, h, rfl⟩, htext⟩
        · rintro ⟨_, ⟨rest, h, rfl⟩, htext⟩
          exact ⟨rest, h, htext⟩

end

/-- **A string is read as the content that its inside spells.** -/
theorem readText_ok_iff {text : String} : readText s = .ok (text, s') ↔ Spells (Bytes.ofString text) s s' := by
  rw [readText, readTextOnto_ok_iff]
  simp only [List.reverse_nil, List.nil_append]
  constructor
  · rintro ⟨content, h, htext⟩
    rwa [Bytes.ofString_of_toString? htext]
  · exact fun h => ⟨_, h, Bytes.toString?_ofString text⟩

end

/-! ## Strings that are passed over -/

/-- An escape is passed over by its form. -/
theorem skipEscape_ok_iff : skipEscape s = .ok s' ↔
    (∃ b c, (b, c) ∈ shortEscapes ∧ s = b :: s') ∨ ∃ n t, FourDigits n t s' ∧ s = Ascii.byte 'u' :: t := by
  cases s with
  | nil => simp [skipEscape]
  | cons b s =>
    rw [skipEscape]
    cases hb : shortEscape? b with
    | some c =>
      have hmem := shortEscape?_eq_some_iff.1 hb
      simp only [Option.isSome_some, if_true, Except.ok.injEq, List.cons.injEq]
      constructor
      · rintro rfl
        exact .inl ⟨b, c, hmem, rfl, rfl⟩
      · rintro (⟨_, _, _, rfl, h⟩ | ⟨n, t, _, rfl, _⟩)
        · exact h
        · cases hb.symm.trans shortEscape?_u
    | none =>
      simp only [Option.isSome_none, Bool.false_eq_true, if_false]
      -- no short escape, so only the form with digits is left
      have hnot : ¬ ∃ b' c, (b', c) ∈ shortEscapes ∧ b :: s = b' :: s' := by
        rintro ⟨b', c, hmem, he⟩
        rw [(List.cons.inj he).1, shortEscape?_eq_some_iff.2 hmem] at hb
        cases hb
      rw [or_iff_right hnot]
      by_cases hu : b = Ascii.byte 'u'
      · subst hu
        simp only [ne_eq, not_true, if_false, List.cons.injEq, true_and, exists_eq_right']
        cases hd : readFourDigits s with
        | ok r =>
          obtain ⟨n, t⟩ := r
          simp only [Except.ok.injEq]
          constructor
          · rintro rfl
            exact ⟨n, readFourDigits_ok_iff.1 hd⟩
          · rintro ⟨m, hm⟩
            rw [readFourDigits_ok_iff.2 hm, Except.ok.injEq, Prod.mk.injEq] at hd
            exact hd.2.symm
        | error e =>
          refine ⟨fun h => (by cases h), ?_⟩
          rintro ⟨m, hm⟩
          rw [readFourDigits_ok_iff.2 hm] at hd
          cases hd
      · simp only [ne_eq, hu, not_false_eq_true, if_true, List.cons.injEq, false_and, and_false, exists_false,
          reduceCtorEq]

theorem skipText_backslash_ok_iff :
    skipText (Ascii.backslash :: s) = .ok s' ↔ ∃ t, skipEscape s = .ok t ∧ skipText t = .ok s' := by
  constructor
  · intro h
    rw [skipText, if_neg (by decide), if_pos rfl] at h
    split at h
    · rename_i t ht
      exact ⟨t, ht, h⟩
    · cases h
  · rintro ⟨t, ht, h⟩
    rw [skipText, if_neg (by decide), if_pos rfl]
    split
    · rename_i t' ht'
      obtain rfl := Except.ok.inj (ht.symm.trans ht')
      exact h
    · rename_i e he
      cases ht.symm.trans he

theorem passes_of_skipText (h : skipText s = .ok s') : Passes s s' := by
  induction hlength : s.length using Nat.strong_induction_on generalizing s with
  | _ n ih =>
    cases s with
    | nil =>
      rw [skipText] at h
      cases h
    | cons b s =>
      rw [List.length_cons] at hlength
      by_cases hquote : b = Ascii.quote
      · subst hquote
        rw [skipText, if_pos rfl] at h
        obtain rfl := Except.ok.inj h
        exact .close s
      by_cases hbackslash : b = Ascii.backslash
      · subst hbackslash
        obtain ⟨t, ht, h⟩ := skipText_backslash_ok_iff.1 h
        have hshorter := length_skipEscape ht
        have hrest := ih _ (by omega) h rfl
        rcases skipEscape_ok_iff.1 ht with ⟨b, c, hc, rfl⟩ | ⟨n, t', hn, rfl⟩
        · exact .short hc hrest
        · exact .numbered hn hrest
      rw [skipText, if_neg hquote, if_neg hbackslash] at h
      split at h
      · cases h
      · rename_i hcontrol
        exact .byte ⟨hquote, hbackslash, hcontrol⟩ (ih _ (by omega) h rfl)

/-- **A string is passed over up to its closing quote.** -/
theorem skipText_ok_iff : skipText s = .ok s' ↔ Passes s s' := by
  refine ⟨passes_of_skipText, fun h => ?_⟩
  induction h with
  | close s => rw [skipText, if_pos rfl]
  | byte hb h ih => rw [skipText, if_neg hb.1, if_neg hb.2.1, if_neg hb.2.2, ih]
  | short hc h ih => exact skipText_backslash_ok_iff.2 ⟨_, skipEscape_ok_iff.2 (.inl ⟨_, _, hc, rfl⟩), ih⟩
  | numbered hn h ih => exact skipText_backslash_ok_iff.2 ⟨_, skipEscape_ok_iff.2 (.inr ⟨_, _, hn, rfl⟩), ih⟩

/-- A string ends in one place. -/
theorem Passes.unique (h : Passes s t) (h' : Passes s u) : t = u :=
  Except.ok.inj ((skipText_ok_iff.2 h).symm.trans (skipText_ok_iff.2 h'))

/-- What is a text may be passed over. -/
theorem Spells.passes {content : Bytes} (h : Spells content s s') : Passes s s' := by
  induction h with
  | close s => exact .close s
  | byte hb h ih => exact .byte hb ih
  | escape hc h ih =>
    cases hc with
    | short hc => exact .short hc ih
    | numbered hn => exact .numbered hn ih
    | paired hhigh hlow => exact .numbered hhigh (.numbered hlow ih)

theorem Passes.length_lt (h : Passes s s') : s'.length < s.length := by
  induction h with
  | close s => exact Nat.lt_succ_self _
  | byte hb h ih => exact Nat.lt_succ_of_lt ih
  | short hc h ih => exact Nat.lt_succ_of_lt (Nat.lt_succ_of_lt ih)
  | numbered hn h ih =>
    have := hn.length_lt
    simp only [List.length_cons]
    omega

/-- A string that can be passed over has a content or none. -/
theorem exists_literal (h : Passes s s') : ∃ content, Literal content (Ascii.quote :: s) s' := by
  by_cases hc : ∃ content : String, Spells (Bytes.ofString content) s s'
  · obtain ⟨content, hc⟩ := hc
    exact ⟨some content, .text hc⟩
  · exact ⟨none, .noText h fun content hs => hc ⟨content, hs⟩⟩

/-- A string is passed over behind its opening quote. -/
theorem Literal.exists_passes {content : Option String} (h : Literal content s s') :
    ∃ t, s = Ascii.quote :: t ∧ Passes t s' := by
  cases h with
  | text h => exact ⟨_, rfl, h.passes⟩
  | noText h => exact ⟨_, rfl, h⟩

theorem Literal.length_lt {content : Option String} (h : Literal content s s') : s'.length < s.length := by
  obtain ⟨t, rfl, hpasses⟩ := h.exists_passes
  exact Nat.lt_succ_of_lt hpasses.length_lt

/-- **A string is read as its content**, and refused if it has none. -/
theorem Literal.readText {content : Option String} (h : Literal content (Ascii.quote :: s) s') :
    (Json.readText s).toOption = content.map (·, s') := by
  generalize hs : Ascii.quote :: s = v at h
  cases h with
  | text h =>
    obtain rfl := (List.cons.inj hs).2
    rw [readText_ok_iff.2 h]
    rfl
  | noText h hno =>
    obtain rfl := (List.cons.inj hs).2
    cases hr : Json.readText s with
    | error e => rfl
    | ok r =>
      obtain ⟨text, t⟩ := r
      have hspells := readText_ok_iff.1 hr
      obtain rfl := hspells.passes.unique h
      exact absurd hspells (hno text)

end RunnerDispatch.Json
