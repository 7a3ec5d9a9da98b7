import RunnerDispatch.Outcome
import RunnerDispatch.Proofs.Json.Values

/-!
# Outcomes are read from their members

An outcome is read from a record that names its kind in one of its members, and that member may stand anywhere. The
members before it are kept until the kind is known, and those that say nothing about an outcome of that kind are
left aside.

* `Sole`: what the one member of a name means, when something may have been found before.
* `readTaggedMembers_flat`: members without parts are gathered, and the tag is found among them.
* `exists_members_of_readTaggedMembers`: what is gathered is written.
* `decode_of_perm`: **an outcome is read from its members in any order, whatever stands among them.**
* `decode_body`: **the answer to a delivery says what became of its job**; a client that reads the text gets the
  outcome.
* `SaidBy`, `exists_members_of_decode`, `saidBy_of_ofTagged`: **a record that an outcome is read from says it.**
-/

namespace RunnerDispatch.Outcome

open Text Json

variable {α : Type} {name name' : String} {means : Value → α → Prop} {found : Option α} {a b : α} {v : Value}
  {members read : List (String × Value)} {fuel : ℕ} {first : Bool} {s s' rest : Bytes} {tag : Tag} {o : Outcome}

/-! ## One member of a name -/

/-- **What the one member of a name means.** If something has been found before, there is none any more. -/
def Sole (name : String) (means : Value → α → Prop) : Option α → List (String × Value) → α → Prop
  | some b, members, a => named name members = [] ∧ b = a
  | none, members, a => ∃ v, named name members = [(name, v)] ∧ means v a

theorem sole_cons_of_ne (h : name' ≠ name) :
    Sole name means found ((name', v) :: members) a ↔ Sole name means found members a := by
  cases found with
  | none | some b => simp only [Sole, named_cons_of_ne h]

theorem sole_cons_self :
    Sole name means none ((name, v) :: members) a ↔ ∃ b, means v b ∧ Sole name means (some b) members a := by
  simp only [Sole, named_cons_self, List.cons.injEq, Prod.mk.injEq, true_and]
  constructor
  · rintro ⟨_, ⟨rfl, hnone⟩, hmeans⟩
    exact ⟨a, hmeans, hnone, rfl⟩
  · rintro ⟨_, hmeans, hnone, rfl⟩
    exact ⟨v, ⟨rfl, hnone⟩, hmeans⟩

theorem not_sole_cons_self : ¬ Sole name means (some b) ((name, v) :: members) a := by
  simp [Sole, named_cons_self]

/-- The one member of the name is found in any order. -/
theorem sole_of_perm {others : List (String × Value)} (hperm : members.Perm ((name, v) :: others))
    (hothers : ∀ m ∈ others, m.1 ≠ name) (hmeans : means v a) : Sole name means none members a := by
  have hnone : named name others = [] := List.filter_eq_nil_iff.2 fun m hm => by simpa using hothers m hm
  have hone : (named name members).Perm (named name ((name, v) :: others)) := List.Perm.filter _ hperm
  rw [named_cons_self, hnone] at hone
  exact ⟨v, List.perm_singleton.1 hone, hmeans⟩

theorem soleMember_ok_iff {meaning : Value → Except Cause α} :
    soleMember name meaning found members = .ok a ↔ Sole name (fun v a => meaning v = .ok a) found members a := by
  induction members generalizing found with
  | nil =>
    cases found with
    | none => simp [soleMember, Sole, named]
    | some b => simp [soleMember, Sole, named]
  | cons m members ih =>
    obtain ⟨name', v⟩ := m
    by_cases hname : name' = name
    · subst hname
      cases found with
      | some b =>
        refine iff_of_false ?_ not_sole_cons_self
        simp [soleMember]
      | none =>
        rw [sole_cons_self, soleMember, if_neg (not_not.2 rfl), if_neg (by simp)]
        cases hmeans : meaning v with
        | error e => simp
        | ok b =>
          dsimp only
          rw [ih]
          constructor
          · intro h
            exact ⟨b, rfl, h⟩
          · rintro ⟨c, hc, h⟩
            rw [Except.ok.inj hc]
            exact h
    · rw [sole_cons_of_ne hname, ← ih]
      cases found with
      | none | some b => rw [soleMember, if_pos hname]

/-! ## Reading members -/

/-- The tag that a value names. -/
def Tags (v : Value) (tag : Tag) : Prop := ∃ name, v = .text name ∧ chosen tags name = .ok tag

/-- The members that are kept until the tag is known. -/
def kept (members : List (String × Value)) : List (String × Value) := members.filter (·.1 != "status")

theorem kept_cons_status : kept (("status", v) :: members) = kept members :=
  List.filter_cons_of_neg (by simp)

theorem kept_cons_of_ne (h : name ≠ "status") : kept ((name, v) :: members) = (name, v) :: kept members :=
  List.filter_cons_of_pos (by simpa using h)

theorem named_kept (h : name ≠ "status") : named name (kept members) = named name members := by
  rw [named, kept, List.filter_filter]
  refine List.filter_congr fun m _ => ?_
  by_cases hm : m.1 = name
  · simp [hm, h]
  · simp [hm]

theorem sole_kept (h : name ≠ "status") : Sole name means found (kept members) a ↔ Sole name means found members a := by
  cases found with
  | none | some b => simp only [Sole, named_kept h]

/-- **Members are gathered and the tag is found among them**, wherever it stands. -/
theorem readTaggedMembers_flat (read : List (String × Value)) {found : Option Tag} (h : Flat first members s s')
    (hclose : Blanks s' (Ascii.closeBrace :: rest)) (htag : Sole "status" Tags found members tag)
    (hfuel : members.length + 1 < fuel) : readTaggedMembers fuel first found read s =
      .ok ((tag, .record (read.reverse ++ kept members)), s') := by
  induction members generalizing fuel first found read s with
  | nil =>
    obtain ⟨fuel, rfl⟩ : ∃ n, fuel = n + 1 := ⟨fuel - 1, by omega⟩
    cases h with
    | nil =>
      cases found with
      | none =>
        obtain ⟨v, hv, -⟩ := htag
        cases hv
      | some t =>
        obtain ⟨-, rfl⟩ := htag
        rw [readTaggedMembers, nextName_eq_none hclose]
        simp [kept]
  | cons m members ih =>
    obtain ⟨fuel, rfl⟩ : ∃ n, fuel = n + 2 := ⟨fuel - 2, by omega⟩
    rw [List.length_cons] at hfuel
    cases h with
    | @cons _ name v _ _ t u w x y _ hgap hname hcolon hblanks hv hms =>
      have hnext : nextName first s = .ok (some (name, u)) := by
        rcases error_or_ok (nextName_eq hgap hname) with ⟨hnone, -⟩ | ⟨n, hn, hnext⟩
        · cases hnone
        · rw [hnext, Option.some.inj hn]
      by_cases hstatus : name = "status"
      · -- the tag itself, which is not kept
        subst hstatus
        cases found with
        | some t => exact absurd htag not_sole_cons_self
        | none =>
          obtain ⟨t, ⟨n, rfl, hn⟩, hrest⟩ := sole_cons_self.1 htag
          cases hv with
          | text hliteral =>
            have hread : readTag w = .ok (t, y) := readTextAs_ok_iff.2 ⟨n, x, hblanks, hliteral, hn⟩
            rw [readTaggedMembers, hnext]
            simp only [readColon_ok_iff.2 hcolon, hread, Option.isSome_none, Bool.false_eq_true, and_false, if_false,
              if_true]
            rw [ih _ hms hrest (by omega), kept_cons_status]
      · have hread : readValue (fuel + 1) (depthLimit - 1) w = .ok (v, y) := hv.readValue hblanks (hms.ends hclose)
        unfold readTaggedMembers
        simp only [hnext, hstatus, false_and, readColon_ok_iff.2 hcolon, hread, if_false]
        rw [ih _ hms ((sole_cons_of_ne hstatus).1 htag) (by omega), kept_cons_of_ne hstatus, List.reverse_cons,
          List.append_assoc, List.singleton_append]

/-- **What is gathered is written**, and so is the tag. -/
theorem exists_members_of_readTaggedMembers {found : Option Tag}
    (h : readTaggedMembers fuel first found read s = .ok ((tag, v), s')) :
    ∃ members, Written (.members first (memberParts members)) s s' ∧ Sole "status" Tags found members tag ∧
      v = .record (read.reverse ++ kept members) := by
  induction fuel generalizing first found read s with
  | zero => cases h
  | succ fuel ih =>
    unfold readTaggedMembers at h
    split at h
    · cases h
    · -- the end of the record
      split at h
      · obtain ⟨hpair, rfl⟩ := Prod.mk.inj (Except.ok.inj h)
        obtain ⟨rfl, rfl⟩ := Prod.mk.inj hpair
        exact ⟨[], .noMembers first s, ⟨rfl, rfl⟩, by simp [kept]⟩
      · cases h
    rename_i name u hnext
    rcases nextName_ok hnext with ⟨hnone, -⟩ | ⟨name, t, u, hsome, hgap, hname⟩
    · cases hnone
    obtain ⟨rfl, rfl⟩ := Prod.mk.inj (Option.some.inj hsome)
    split at h
    · cases h
    rename_i hfree
    split at h
    · cases h
    rename_i w hcolon
    rw [readColon_ok_iff] at hcolon
    split at h
    · -- a tag where there has been none
      rename_i hstatus
      split at h
      · rename_i t' y hread
        obtain ⟨n, x, hx, hliteral, hn⟩ := readTextAs_ok_iff.1 hread
        obtain ⟨members, hmembers, htag, rfl⟩ := ih h
        cases found with
        | some t => exact absurd ⟨hstatus, rfl⟩ hfree
        | none =>
          subst hstatus
          refine ⟨("status", .text n) :: members, .member hgap hname hcolon hx (.text hliteral) hmembers,
            sole_cons_self.2 ⟨t', ⟨n, rfl, hn⟩, htag⟩, ?_⟩
          rw [kept_cons_status]
      · cases h
    · rename_i hstatus
      split at h
      · rename_i v' y hread
        obtain ⟨x, hx, hv⟩ := exists_written_of_readValue hread
        obtain ⟨members, hmembers, htag, rfl⟩ := ih h
        refine ⟨(name, v') :: members, .member hgap hname hcolon hx hv hmembers, (sole_cons_of_ne hstatus).2 htag, ?_⟩
        rw [kept_cons_of_ne hstatus, List.reverse_cons, List.append_assoc, List.singleton_append]
      · cases h

/-! ## Outcomes from members -/

theorem readOutcome_ok_iff : readOutcome fuel s = .ok (o, s') ↔
    ∃ tag v, readTagged fuel s = .ok ((tag, v), s') ∧ ofTagged tag v = .ok o := by
  unfold readOutcome
  cases hread : readTagged fuel s with
  | error e => simp [bind, Except.bind]
  | ok r =>
    obtain ⟨⟨tag, v⟩, t⟩ := r
    simp only [bind, Except.bind]
    constructor
    · intro h
      split at h
      · rename_i o' ho
        obtain ⟨rfl, rfl⟩ := Prod.mk.inj (Except.ok.inj h)
        exact ⟨tag, v, rfl, ho⟩
      · cases h
    · rintro ⟨tag', v', hsame, ho⟩
      obtain ⟨hpair, rfl⟩ := Prod.mk.inj (Except.ok.inj hsame)
      obtain ⟨rfl, rfl⟩ := Prod.mk.inj hpair
      rw [ho]
      rfl

/-- What the members of a record come to, with the tag. -/
theorem ofTagged_record_iff : ofTagged tag (.record members) = .ok o ↔
    (∃ f, tag = .forwarded ∧ o = .forwarded f ∧ Sole "flavor" (fun v f => flavorOf v = .ok f) none members f) ∨
      ∃ s, tag = .ignored ∧ o = .skipped s ∧ Sole "job_status" (fun v s => statusOf v = .ok s) none members s := by
  simp only [← soleMember_ok_iff]
  cases tag with
  | forwarded =>
    simp only [ofTagged, content, true_and, reduceCtorEq, false_and, exists_false, or_false]
    cases soleMember "flavor" flavorOf none members <;> simp [Except.map, eq_comm]
  | ignored =>
    simp only [ofTagged, content, true_and, reduceCtorEq, false_and, exists_false, false_or]
    cases soleMember "job_status" statusOf none members <;> simp [Except.map, eq_comm]

section

variable {text : Bytes}

/-- An outcome is read from members without parts. -/
theorem decode_of_flatIn (hflat : FlatIn members text) (htag : Sole "status" Tags none members tag)
    (ho : ofTagged tag (.record (kept members)) = .ok o) : decode text = .ok o := by
  obtain ⟨s, t, u, hopen, hmembers, hclose, hend⟩ := hflat
  have hlength := hmembers.length_le
  have hshorter := hopen.length_le
  rw [List.length_cons] at hshorter
  have hfuel : members.length + 1 < fuelFor text := by
    rw [fuelFor]
    omega
  have hread := readTaggedMembers_flat [] hmembers hclose htag hfuel
  refine readWhole_eq_ok_iff.2 ⟨u, readOutcome_ok_iff.2 ⟨tag, _, ?_, ho⟩, hend⟩
  rw [readTagged, skipBlank_eq_cons hopen (by decide)]
  exact conclude_ok_iff.2 ⟨t, hread, closeRecord_iff.2 hclose⟩

/-- **A record that an outcome is read from is written there**, and the outcome is what its members come to. -/
theorem exists_members_of_decode (hopen : Blanks text (Ascii.openBrace :: s)) (h : decode text = .ok o) :
    ∃ members tag, (Document.object (memberDocuments members)).WrittenIn text ∧
      Sole "status" Tags none members tag ∧ ofTagged tag (.record (kept members)) = .ok o := by
  obtain ⟨u, hread, hend⟩ := readWhole_eq_ok_iff.1 h
  obtain ⟨tag, v, hread, ho⟩ := readOutcome_ok_iff.1 hread
  rw [readTagged, skipBlank_eq_cons hopen (by decide)] at hread
  obtain ⟨t, hread, hclose⟩ := conclude_ok_iff.1 hread
  obtain ⟨members, hmembers, htag, rfl⟩ := exists_members_of_readTaggedMembers hread
  exact ⟨members, tag, ⟨_, u, hopen, .record hmembers (closeRecord_iff.1 hclose), hend⟩, htag, ho⟩

end

/-! ## What members say -/

/-- A value names a state: by a text, or by a record of that name that holds nothing. -/
def Names (d : Document) (status : JobStatus) : Prop :=
  d = .string status.name ∨ d = .object [(status.name, .null)] ∨ d = .object [(status.name, .object [])]

/-- **What a record says about a job**: the kind of the outcome is the one value of `status`, and the rest of it is
that of one other member. -/
def SaidBy : Outcome → List (String × Document) → Prop
  | .forwarded f, members =>
    valuesOf "status" members = [.string "forwarded"] ∧ valuesOf "flavor" members = [.string f.name]
  | .skipped status, members =>
    valuesOf "status" members = [.string "ignored"] ∧ ∃ d, valuesOf "job_status" members = [d] ∧ Names d status

theorem mem_of_chosen {choices : List (String × α)} (h : chosen choices name = .ok a) : (name, a) ∈ choices := by
  unfold chosen at h
  split at h
  · rename_i n b hfind
    obtain rfl := Except.ok.inj h
    obtain rfl : n = name := by simpa using List.find?_some hfind
    exact List.mem_of_find?_eq_some hfind
  · cases h

theorem name_of_flavorOf {f : Flavor} (h : flavorOf v = .ok f) : v = .text f.name := by
  unfold flavorOf flavorNamed at h
  split at h
  · split at h
    · rename_i hname
      rw [← Except.ok.inj h, Flavor.ofName?_eq_some_iff.1 hname]
    · cases h
  · cases h

theorem names_of_statusOf {status : JobStatus} (h : statusOf v = .ok status) : Names v.document status := by
  have hname {n : String} {status : JobStatus} (h : chosen (JobStatus.all.map fun s => (s.name, s)) n = .ok status) :
      n = status.name := by
    obtain ⟨s, -, hs⟩ := List.mem_map.1 (mem_of_chosen h)
    obtain ⟨rfl, rfl⟩ := Prod.mk.inj hs
    rfl
  unfold statusOf at h
  dsimp only at h
  split at h
  · rw [hname h]
    exact .inl rfl
  · rename_i n inside
    cases hn : chosen (JobStatus.all.map fun s => (s.name, s)) n with
    | error e => rw [hn] at h; cases h
    | ok status' =>
      simp only [hn, bind, Except.bind] at h
      split at h
      · obtain rfl := Except.ok.inj h
        rw [hname hn]
        exact .inr (.inl rfl)
      · obtain rfl := Except.ok.inj h
        rw [hname hn]
        exact .inr (.inr rfl)
      · cases h
  · cases h
  · cases h

/-- What an outcome is read from says it. -/
theorem saidBy_of_ofTagged (htag : Sole "status" Tags none members tag)
    (ho : ofTagged tag (.record (kept members)) = .ok o) : o.SaidBy (memberDocuments members) := by
  obtain ⟨v, hstatus, n, rfl, hn⟩ := htag
  have hkind : valuesOf "status" (memberDocuments members) = [.string n] := by
    rw [valuesOf_memberDocuments, hstatus]
    rfl
  have hmem := mem_of_chosen hn
  simp only [tags, List.mem_cons, Prod.mk.injEq, List.not_mem_nil, or_false] at hmem
  rcases ofTagged_record_iff.1 ho with ⟨f, rfl, rfl, hsole⟩ | ⟨status, rfl, rfl, hsole⟩
  · obtain ⟨v, hflavor, hv⟩ := (sole_kept (by decide)).1 hsole
    have hname : n = "forwarded" := by simpa using hmem
    refine ⟨by rw [hkind, hname], ?_⟩
    rw [valuesOf_memberDocuments, hflavor, name_of_flavorOf hv]
    rfl
  · obtain ⟨v, hjob, hv⟩ := (sole_kept (by decide)).1 hsole
    have hname : n = "ignored" := by simpa using hmem
    refine ⟨by rw [hkind, hname], v.document, ?_, names_of_statusOf hv⟩
    rw [valuesOf_memberDocuments, hjob]
    rfl

/-! ## What is answered -/

/-- The members of an outcome's record. -/
def ownMembers : Outcome → List (String × Value)
  | .forwarded f => [("status", .text "forwarded"), ("flavor", .text f.name)]
  | .skipped s => [("status", .text "ignored"), ("job_status", .text s.name)]

theorem body_eq (o : Outcome) : Bytes.ofString o.body = (Value.record o.ownMembers).bytes := by
  cases o with
  | forwarded f | skipped s => rfl

/-- The tag and the other member are found wherever they stand. -/
theorem sole_of_own {n : String} {extra : List (String × Value)}
    (hperm : members.Perm ([("status", .text n), (name, v)] ++ extra)) (hname : name ≠ "status")
    (hextra : ∀ m ∈ extra, m.1 ≠ "status" ∧ m.1 ≠ name) (htag : chosen tags n = .ok tag) (hmeans : means v a) :
    Sole "status" Tags none members tag ∧ Sole name means none (kept members) a := by
  have hswap : members.Perm ((name, v) :: ("status", .text n) :: extra) := hperm.trans (.swap _ _ _)
  refine ⟨sole_of_perm hperm ?_ ⟨n, rfl, htag⟩, (sole_kept hname).2 (sole_of_perm hswap ?_ hmeans)⟩
  · exact List.forall_mem_cons.2 ⟨hname, fun m hm => (hextra m hm).1⟩
  · exact List.forall_mem_cons.2 ⟨hname.symm, fun m hm => (hextra m hm).2⟩

/-- **An outcome is read from its members in any order, whatever stands among them** under other names. -/
theorem decode_of_perm {extra : List (String × Value)} {text : Bytes} (hperm : members.Perm (o.ownMembers ++ extra))
    (hextra : ∀ m ∈ extra, ∀ m' ∈ o.ownMembers, m.1 ≠ m'.1) (hflat : FlatIn members text) : decode text = .ok o := by
  cases o with
  | forwarded f =>
    have hmeans : flavorOf (.text f.name) = .ok f := by simp [flavorOf, flavorNamed, Flavor.ofName?_name]
    have hother : ∀ m ∈ extra, m.1 ≠ "status" ∧ m.1 ≠ "flavor" := by
      intro m hm
      simpa [ownMembers] using hextra m hm
    obtain ⟨htag, hflavor⟩ : Sole "status" Tags none members .forwarded ∧
        Sole "flavor" (fun v f => flavorOf v = .ok f) none (kept members) f :=
      sole_of_own hperm (by decide) hother rfl hmeans
    exact decode_of_flatIn hflat htag (ofTagged_record_iff.2 (.inl ⟨f, rfl, rfl, hflavor⟩))
  | skipped s =>
    have hmeans : statusOf (.text s.name) = .ok s := by cases s <;> rfl
    have hother : ∀ m ∈ extra, m.1 ≠ "status" ∧ m.1 ≠ "job_status" := by
      intro m hm
      simpa [ownMembers] using hextra m hm
    obtain ⟨htag, hstatus⟩ : Sole "status" Tags none members .ignored ∧
        Sole "job_status" (fun v s => statusOf v = .ok s) none (kept members) s :=
      sole_of_own hperm (by decide) hother rfl hmeans
    exact decode_of_flatIn hflat htag (ofTagged_record_iff.2 (.inr ⟨s, rfl, rfl, hstatus⟩))

/-- **The answer to a delivery says what became of its job.** -/
theorem decode_body (o : Outcome) : decode (Bytes.ofString o.body) = .ok o := by
  have hscalar : ∀ m ∈ o.ownMembers, m.2.IsScalar := by
    cases o with
    | forwarded f | skipped s => simp [ownMembers, Value.IsScalar]
  rw [body_eq]
  exact decode_of_perm (.of_eq (List.append_nil _).symm) nofun (flatIn_bytes hscalar)

end RunnerDispatch.Outcome
