import RunnerDispatch.Proofs.Json.Interpretation

/-!
# What readers of records make of documents

The members of a record are read in any order into what has been collected so far. A field that comes a second
time is refused, and a member that is no field is passed over. A list stands for the record if its items are the
fields.

* `Shape.collect`, `collectItems`: what is collected from the members of a record, or from the items of a list.
* `Shape.meaning`: what a document means as a record of a shape.
* `interprets_readRecord`: **a record is read by its members, or by its items.**
-/

namespace RunnerDispatch.Json

open Text

variable {σ α : Type} {s s' t u w rest : Bytes} {d : Document} {first : Bool} {fuel : ℕ}

section

variable (shape : Shape σ α) (change : String → Document → Option (σ → σ))

/-- What is collected from members. The value of a field **changes what has been collected**, unless the field
is set already. -/
def Shape.collect : σ → List (Option String × Document) → Option σ
  | st, [] => some st
  | _, (none, _) :: _ => none
  | st, (some name, d) :: ms =>
    match shape.fields.find? (·.name == name) with
    | some field => if field.isSet st then none else (change field.name d).bind fun f => collect (f st) ms
    | none => collect st ms

/-- What is collected from items, one for each field. -/
def collectItems : List (Field σ) → σ → List Document → Option σ
  | [], st, [] => some st
  | field :: fields, st, d :: ds => (change field.name d).bind fun f => collectItems fields (f st) ds
  | _, _, _ => none

/-- **What a document means as a record.** -/
def Shape.meaning : Document → Option α
  | .list ds => (collectItems change shape.fields shape.blank ds).bind fun st => (shape.complete st).toOption
  | .record ms => (shape.collect change shape.blank ms).bind fun st => (shape.complete st).toOption
  | _ => none

end

/-! ## Names and closing -/

theorem nextName_eq_none (h : Blanks s (Ascii.closeBrace :: rest)) : nextName first s = .ok none := by
  rw [nextName, skipBlank_eq_cons h (by decide)]
  rfl

/-- Behind a gap stands the name of a member. -/
theorem nextName_eq {name : Option String} (hgap : Gap first s t) (hname : Literal name t u) :
    (nextName first s).toOption = name.map fun n => some (n, u) := by
  obtain ⟨t, rfl, -⟩ := hname.exists_passes
  have hread := hname.readText
  have hsome : ((readText t).map some).toOption = name.map fun n => some (n, u) := by
    rcases error_or_ok hread with ⟨rfl, e, he⟩ | ⟨n, rfl, he⟩
    · rw [he]
      rfl
    · rw [he]
      rfl
  rw [← hsome]
  unfold nextName
  cases hgap with
  | first hs =>
    rw [skipBlank_eq_cons hs (by decide)]
    rfl
  | next hs ht =>
    rw [skipBlank_eq_cons hs (by decide)]
    dsimp only
    rw [if_neg (by decide), if_neg (by decide), if_pos rfl, skipBlank_eq_cons ht (by decide)]
    rfl

/-- Going to the next member finds the end of the record, or a name behind a gap. -/
theorem nextName_ok {next : Option (String × Bytes)} (h : nextName first s = .ok next) :
    (next = none ∧ ∃ rest, Blanks s (Ascii.closeBrace :: rest)) ∨
      ∃ name t u, next = some (name, u) ∧ Gap first s t ∧ Literal (some name) t u := by
  have hblanks := blanks_skipBlank s
  have named {x : Bytes} (h : (readText x).map some = .ok next) :
      ∃ name u, next = some (name, u) ∧ Literal (some name) (Ascii.quote :: x) u := by
    cases hr : readText x with
    | error e =>
      rw [hr] at h
      cases h
    | ok r =>
      rw [hr] at h
      exact ⟨r.1, r.2, (Except.ok.inj h).symm, .text (readText_ok_iff.1 hr)⟩
  unfold nextName at h
  dsimp only at h
  split at h
  · cases h
  rename_i b x hs
  rw [hs] at hblanks
  split at h
  · rename_i hb
    rw [hb] at hblanks
    exact .inl ⟨(Except.ok.inj h).symm, x, hblanks⟩
  split at h
  · rename_i hfirst
    split at h
    · rename_i hb
      obtain ⟨name, u, hnext, hname⟩ := named h
      rw [hb] at hblanks
      rw [hfirst]
      exact .inr ⟨name, _, u, hnext, .first hblanks, hname⟩
    · cases h
  rename_i hfirst
  -- every name but the first stands behind a comma
  split at h
  · rename_i hb
    rw [hb] at hblanks
    have hblanks' := blanks_skipBlank x
    split at h
    · cases h
    rename_i c y hx
    rw [hx] at hblanks'
    split at h
    · rename_i hc
      obtain ⟨name, u, hnext, hname⟩ := named h
      rw [hc] at hblanks'
      rw [Bool.eq_false_iff.2 hfirst]
      exact .inr ⟨name, _, u, hnext, .next hblanks hblanks', hname⟩
    · cases h
  · cases h

theorem closeRecord_iff : closeRecord s = (none, s') ↔ Blanks s (Ascii.closeBrace :: s') := by
  have hblanks := blanks_skipBlank s
  constructor
  · intro h
    unfold closeRecord at h
    split at h
    · cases h
    rename_i b t hs
    split at h
    · rename_i hb
      obtain ⟨-, rfl⟩ := Prod.mk.inj h
      rwa [hs, hb] at hblanks
    · cases h
  · intro h
    rw [closeRecord, skipBlank_eq_cons h (by decide)]
    rfl

theorem completed_ok_iff {shape : Shape σ α} {r : Except Fault (σ × Bytes)} {a : α} :
    completed shape r = .ok (a, s') ↔ ∃ st, r = .ok (st, s') ∧ shape.complete st = .ok a := by
  constructor
  · intro h
    unfold completed at h
    split at h
    · cases h
    rename_i st t
    split at h
    · rename_i c hc
      obtain ⟨rfl, rfl⟩ := Prod.mk.inj (Except.ok.inj h)
      exact ⟨st, rfl, hc⟩
    · cases h
  · rintro ⟨st, rfl, ha⟩
    rw [completed, ha]

/-- A record is concluded if it is complete and is closed. -/
theorem conclude_completed_eq {shape : Shape σ α} {close : Bytes → Option Fault × Bytes}
    {r : Except Fault (σ × Bytes)} {o : Option σ} (hr : r.toOption = o.map (·, t))
    (hclose : close t = (none, s')) :
    (conclude close (completed shape r)).toOption =
      (o.bind fun st => (shape.complete st).toOption).map (·, s') := by
  rcases error_or_ok hr with ⟨rfl, e, rfl⟩ | ⟨st, rfl, rfl⟩
  · exact congrArg Except.toOption (exists_conclude_eq_error e).choose_spec
  · rw [Option.bind_some]
    cases hcomplete : shape.complete st with
    | ok a =>
      rw [conclude_ok_iff.2 ⟨t, completed_ok_iff.2 ⟨st, rfl, hcomplete⟩, hclose⟩]
      rfl
    | error name =>
      rw [completed, hcomplete]
      exact congrArg Except.toOption (exists_conclude_eq_error (.loose (.missingMember name) t)).choose_spec

/-! ## Members -/

section

variable {shape : Shape σ α} {change : String → Document → Option (σ → σ)}
  (hfields : ∀ field ∈ shape.fields, ∀ st, Interprets (fun fuel => field.read fuel st) fun d =>
    (change field.name d).map (· st))

include hfields

/-- **Members are collected one by one.** -/
theorem readMembers_eq {ms : List (Option String × Document)} {st : σ} (h : Written (.members first ms) s s')
    (hclose : Blanks s' (Ascii.closeBrace :: rest)) (hfuel : 2 * s.length + 1 ≤ fuel + 2 * s'.length) :
    (readMembers shape fuel first st s).toOption = (shape.collect change st ms).map (·, s') := by
  induction ms generalizing fuel first st s with
  | nil =>
    cases h with
    | noMembers =>
      obtain ⟨fuel, rfl⟩ : ∃ n, fuel = n + 1 := ⟨fuel - 1, by omega⟩
      rw [readMembers, nextName_eq_none hclose]
      rfl
  | cons m ms ih =>
    cases h with
    | @member _ name d _ _ t u v w x _ hgap hname hcolon hblanks hd hms =>
      have hless := hd.length_lt
      have hle := hms.length_members_le
      have hle' : w.length ≤ s.length :=
        (hblanks.length_le.trans (Frame.Naming.record hname hcolon).length_le).trans hgap.length_le
      obtain ⟨fuel, rfl⟩ : ∃ n, fuel = n + 1 := ⟨fuel - 1, by omega⟩
      have hrest (st : σ) : (readMembers shape fuel false st x).toOption =
          (shape.collect change st ms).map (·, s') := ih hms (by omega)
      rcases error_or_ok (nextName_eq hgap hname) with ⟨rfl, e, he⟩ | ⟨name, rfl, hnext⟩
      · -- a name that spells no text
        rw [readMembers, he]
        rfl
      rw [readMembers, hnext, Shape.collect]
      dsimp only
      rw [readColon_ok_iff.2 hcolon]
      cases hfind : shape.fields.find? (·.name == name) with
      | none =>
        have hends := (Frame.Inside.record hms).ends hclose
        dsimp only
        rw [skipValue_of_written hd hblanks hends (by omega)]
        exact hrest st
      | some field =>
        have hread := (hfields field (List.mem_of_find?_eq_some hfind) st).complete hd hblanks (n := fuel)
          (by omega)
        by_cases hset : field.isSet st = true
        · -- given a second time, which is refused without a look at the value
          simp only [hset, if_true]
          rfl
        · simp only [hset, Bool.false_eq_true, if_false]
          rcases error_or_ok hread with ⟨hnone, e, he⟩ | ⟨st', hsome, he⟩
          · rw [he, Option.map_eq_none_iff.1 hnone]
            rfl
          · obtain ⟨f, hf, rfl⟩ := Option.map_eq_some_iff.1 hsome
            rw [he, hf]
            exact hrest (f st)

/-- Where members are read, either there is no other or one stands behind a gap. -/
theorem readMembers_cases {st st' : σ} (h : readMembers shape (fuel + 1) first st s = .ok (st', s')) :
    (s = s' ∧ ∃ rest, Blanks s (Ascii.closeBrace :: rest)) ∨
      ∃ name d t u v w x st'', Gap first s t ∧ Literal (some name) t u ∧ Blanks u (Ascii.colon :: v) ∧
        Blanks v w ∧ Written (.value d) w x ∧ readMembers shape fuel false st'' x = .ok (st', s') := by
  rw [readMembers] at h
  split at h
  · cases h
  · rename_i hnext
    obtain ⟨-, rfl⟩ := Prod.mk.inj (Except.ok.inj h)
    rcases nextName_ok hnext with ⟨-, hclose⟩ | ⟨_, _, _, hsome, -⟩
    · exact .inl ⟨rfl, hclose⟩
    · cases hsome
  rename_i name u hnext
  rcases nextName_ok hnext with ⟨hnone, -⟩ | ⟨name', t, u', hsome, hgap, hname⟩
  · cases hnone
  obtain ⟨rfl, rfl⟩ := Prod.mk.inj (Option.some.inj hsome)
  split at h
  · rename_i field hfind
    split at h
    · cases h
    split at h
    · cases h
    rename_i v hcolon
    split at h
    · rename_i st'' x hread
      obtain ⟨d, w, hw, hd⟩ := (hfields field (List.mem_of_find?_eq_some hfind) st).sound hread
      exact .inr ⟨name, d, t, u, v, w, x, st'', hgap, hname, readColon_ok_iff.1 hcolon, hw, hd, h⟩
    · cases h
  · split at h
    · cases h
    rename_i v hcolon
    split at h
    · rename_i x hskip
      obtain ⟨d, w, hw, hd⟩ := exists_written_of_skipValue hskip
      exact .inr ⟨name, d, t, u, v, w, x, st, hgap, hname, readColon_ok_iff.1 hcolon, hw, hd, h⟩
    · cases h

theorem exists_members_of_readMembers {st st' : σ} (h : readMembers shape fuel first st s = .ok (st', s')) :
    ∃ ms rest, Written (.members first ms) s s' ∧ Blanks s' (Ascii.closeBrace :: rest) := by
  induction fuel generalizing first st s with
  | zero => cases h
  | succ fuel ih =>
    rcases readMembers_cases hfields h with
      ⟨rfl, rest, hclose⟩ | ⟨name, d, t, u, v, w, x, st'', hgap, hname, hcolon, hw, hd, hrest⟩
    · exact ⟨[], rest, .noMembers first s, hclose⟩
    · obtain ⟨ms, rest, hms, hclose⟩ := ih hrest
      exact ⟨_, rest, .member hgap hname hcolon hw hd hms, hclose⟩

/-! ## Items -/

omit hfields in
/-- The item of a field is the first one if no field has been read. -/
theorem count_eq_zero_iff {done fields : List (Field σ)} {field : Field σ}
    (hsplit : shape.fields = done ++ field :: fields) :
    (shape.fields.length - fields.length - 1 == 0) = done.isEmpty := by
  have hlength : shape.fields.length - fields.length - 1 = done.length := by
    rw [hsplit, List.length_append, List.length_cons]
    omega
  rw [hlength]
  cases done <;> rfl

/-- **Items are collected one for each field.** -/
theorem readPositional_eq (done : List (Field σ)) {fields : List (Field σ)} {ds : List Document} {st : σ}
    (hsplit : shape.fields = done ++ fields) (h : Written (.items done.isEmpty ds) s s')
    (hclose : Blanks s' (Ascii.closeBracket :: rest)) (hfuel : 2 * s.length ≤ fuel + 2 * s'.length) :
    (conclude closeList (completed shape (readPositional shape fuel fields st s))).toOption =
      ((collectItems change fields st ds).bind fun st => (shape.complete st).toOption).map (·, rest) := by
  -- the fields that are done tell whether the next item is the first
  induction fields generalizing done st s ds with
  | nil =>
    rw [readPositional]
    cases h with
    | noItems =>
      exact conclude_completed_eq (o := some st) rfl (closeList_iff.2 hclose)
    | item hgap hd =>
      -- the list has more items than the record has fields
      refine (toOption_eq_map_iff (o := none)).2 fun a z => ⟨fun hread => ?_, (nomatch ·.1)⟩
      obtain ⟨x, hx, hclosed⟩ := conclude_ok_iff.1 hread
      obtain ⟨st', hst', -⟩ := completed_ok_iff.1 hx
      obtain ⟨-, rfl⟩ := Prod.mk.inj (Except.ok.inj hst')
      exact (nomatch (nextItem_eq_some hgap hd).symm.trans (nextItem_eq_none (closeList_iff.1 hclosed)))
  | cons field fields ih =>
    rw [readPositional, count_eq_zero_iff hsplit]
    cases h with
    | noItems =>
      rw [nextItem_eq_none hclose]
      exact congrArg Except.toOption (exists_conclude_eq_error _).choose_spec
    | item hgap hd hds =>
      have hless := hd.length_lt
      have hle := hds.length_items_le
      have hle' := hgap.length_le
      have hmem : field ∈ shape.fields := by
        rw [hsplit]
        exact List.mem_append_right _ (List.mem_cons_self ..)
      rw [nextItem_eq_some hgap hd]
      rcases error_or_ok ((hfields field hmem st).complete hd (.none _) (n := fuel) (by omega)) with
        ⟨hnone, e, he⟩ | ⟨st', hsome, he⟩
      · simp only [he, collectItems, Option.map_eq_none_iff.1 hnone]
        exact congrArg Except.toOption (exists_conclude_eq_error e).choose_spec
      · obtain ⟨f, hf, rfl⟩ := Option.map_eq_some_iff.1 hsome
        simp only [he, collectItems, hf]
        have hnot : (done ++ [field]).isEmpty = false := by cases done <;> rfl
        exact ih (done ++ [field]) (by rw [hsplit, List.append_assoc]; rfl) (by rwa [hnot]) (by omega)

theorem exists_items_of_readPositional (done : List (Field σ)) {fields : List (Field σ)} {st st' : σ}
    (hsplit : shape.fields = done ++ fields) (h : readPositional shape fuel fields st s = .ok (st', s')) :
    ∃ ds, Written (.items done.isEmpty ds) s s' := by
  induction fields generalizing done st s with
  | nil =>
    obtain ⟨-, rfl⟩ := Prod.mk.inj (Except.ok.inj h)
    exact ⟨[], .noItems _ s⟩
  | cons field fields ih =>
    rw [readPositional, count_eq_zero_iff hsplit] at h
    split at h
    · cases h
    · cases h
    rename_i t hnext
    rcases nextItem_ok hnext with ⟨hnone, -⟩ | ⟨t', ht, hgap⟩
    · cases hnone
    obtain rfl := Option.some.inj ht
    split at h
    · rename_i st'' u hread
      have hmem : field ∈ shape.fields := by
        rw [hsplit]
        exact List.mem_append_right _ (List.mem_cons_self ..)
      obtain ⟨d, w, hw, hd⟩ := (hfields field hmem st).sound hread
      obtain ⟨ds, hds⟩ := ih (done ++ [field]) (by rw [hsplit, List.append_assoc]; rfl) h
      have hnot : (done ++ [field]).isEmpty = false := by cases done <;> rfl
      rw [hnot] at hds
      exact ⟨d :: ds, .item (hgap.blanks hw) hd hds⟩
    · cases h

/-! ## Records -/

/-- **A record is read by its members, or by its items.** -/
theorem interprets_readRecord : Interprets (readRecord shape) (shape.meaning change) where
  complete {d s s' w fuel} hd hw hfuel := by
    have hskip := hd.skipBlank_eq hw
    obtain ⟨b, t, rfl, hb⟩ := hd.exists_head
    rw [readRecord, hskip]
    dsimp only
    by_cases hbracket : b = Ascii.openBracket
    · subst hbracket
      obtain ⟨ds, rfl⟩ := hb.of_openBracket
      rw [if_pos rfl]
      cases hd with
      | list hds hclose =>
        have hlength := hclose.length_le
        simp only [List.length_cons] at hlength hfuel
        exact readPositional_eq hfields [] rfl hds hclose (by omega)
    by_cases hbrace : b = Ascii.openBrace
    · subst hbrace
      obtain ⟨ms, rfl⟩ := hb.of_openBrace
      rw [if_neg hbracket, if_pos rfl]
      cases hd with
      | record hms hclose =>
        have hlength := hclose.length_le
        simp only [List.length_cons] at hlength hfuel
        exact conclude_completed_eq (readMembers_eq hfields hms hclose (by omega)) (closeRecord_iff.2 hclose)
    · rw [if_neg hbracket, if_neg hbrace]
      have hnone : shape.meaning change d = none := by
        unfold Shape.meaning
        split
        · exact absurd hb hbracket
        · exact absurd hb hbrace
        · rfl
      rw [hnone]
      rfl
  sound {a w s' fuel} h := by
    have hblanks := blanks_skipBlank w
    unfold readRecord at h
    split at h
    · cases h
    rename_i b t hs
    rw [hs] at hblanks
    split at h
    · rename_i hb
      rw [hb] at hblanks
      obtain ⟨u, hread, hclose⟩ := conclude_ok_iff.1 h
      obtain ⟨st, hread, -⟩ := completed_ok_iff.1 hread
      obtain ⟨ds, hds⟩ := exists_items_of_readPositional hfields [] rfl hread
      exact ⟨_, _, hblanks, .list hds (closeList_iff.1 hclose)⟩
    split at h
    · rename_i hb
      rw [hb] at hblanks
      obtain ⟨u, hread, hclose⟩ := conclude_ok_iff.1 h
      obtain ⟨st, hread, -⟩ := completed_ok_iff.1 hread
      obtain ⟨ms, rest, hms, -⟩ := exists_members_of_readMembers hfields hread
      exact ⟨_, _, hblanks, .record hms (closeRecord_iff.1 hclose)⟩
    · cases h

end

end RunnerDispatch.Json
