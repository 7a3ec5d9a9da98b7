import RunnerDispatch.Proofs.Json.Fields

/-!
# Records of two fields

A record of two fields is understood field by field: each has to be given once, and what stands under other
names does not matter.

* `Pairing`: two fields, each with its reader, and what is built of them.
* `valuesOf`: the values under a name.
* `Document.Pairs`: **a document gives two values under two names**, or in order.
* `Pairing.interprets`, `Pairing.meaning_eq_some_iff`: **a record of two fields is read as what its two values
  mean.**
-/

namespace RunnerDispatch.Json

variable {σ α β γ : Type} {d d₁ d₂ : Document}

/-! ## Values under a name -/

/-- The values of the members of a name. -/
def valuesOf (name : String) (members : List (String × Document)) : List Document :=
  members.filterMap fun m => if m.1 = name then some m.2 else none

theorem valuesOf_cons_self (name : String) (d : Document) (members : List (String × Document)) :
    valuesOf name ((name, d) :: members) = d :: valuesOf name members :=
  List.filterMap_cons_some (if_pos (rfl : name = name))

theorem valuesOf_cons_of_ne {name name' : String} (h : name' ≠ name) (d : Document)
    (members : List (String × Document)) : valuesOf name ((name', d) :: members) = valuesOf name members :=
  List.filterMap_cons_none (if_neg h)

/-- **Two values are given**, each under its name and only once there, or in order. -/
def Document.Pairs (name₁ name₂ : String) (d₁ d₂ d : Document) : Prop :=
  d = .list [d₁, d₂] ∨
    ∃ members, d = .object members ∧ valuesOf name₁ members = [d₁] ∧ valuesOf name₂ members = [d₂]

theorem Document.pairs_object {name₁ name₂ : String} {members : List (String × Document)} :
    Document.Pairs name₁ name₂ d₁ d₂ (.object members) ↔
      valuesOf name₁ members = [d₁] ∧ valuesOf name₂ members = [d₂] := by
  constructor
  · rintro (h | ⟨members', h, h'⟩)
    · cases h
    · rwa [Document.object_inj.1 h]
  · exact fun h => .inr ⟨members, rfl, h⟩

/-! ## Filling -/

/-- What a field holds after its values. -/
def fill (meaning : Document → Option β) : Option β → List Document → Option (Option β)
  | held, [] => some held
  | some _, _ :: _ => none
  | none, d :: ds => (meaning d).bind fun v => fill meaning (some v) ds

/-- A field that is not set yet is filled by one value. -/
theorem fill_none_eq_some_iff {meaning : Document → Option β} {ds : List Document} {v : β} :
    fill meaning none ds = some (some v) ↔ ∃ d, ds = [d] ∧ meaning d = some v := by
  cases ds with
  | nil => exact ⟨(nomatch ·), fun ⟨_, h, _⟩ => (nomatch h)⟩
  | cons d ds =>
    cases hd : meaning d with
    | none => simp [fill, hd]
    | some w => cases ds <;> simp [fill, hd]

/-- Two fields that are collected together. -/
structure Pairing (σ β γ α : Type) where
  title : String
  first : String
  second : String
  first_ne_second : first ≠ second
  /-- What has been collected, from what the fields hold. -/
  holding : Option β → Option γ → σ
  fst : σ → Option β
  snd : σ → Option γ
  fst_holding : ∀ a b, fst (holding a b) = a
  snd_holding : ∀ a b, snd (holding a b) = b
  readFirst : (fuel : ℕ) → Reader β
  readSecond : (fuel : ℕ) → Reader γ
  /-- The record of two values. -/
  build : β → γ → α

namespace Pairing

variable (P : Pairing σ β γ α)

/-- The record with the two fields. -/
def shape : Shape σ α where
  title := P.title
  fields :=
    [{ name := P.first, isSet := fun p => (P.fst p).isSome,
       read := fun fuel p s => (P.readFirst fuel s).map fun (v, s) => (P.holding (some v) (P.snd p), s) },
      { name := P.second, isSet := fun p => (P.snd p).isSome,
        read := fun fuel p s => (P.readSecond fuel s).map fun (v, s) => (P.holding (P.fst p) (some v), s) }]
  blank := P.holding none none
  complete := fun p =>
    match P.fst p, P.snd p with
    | some a, some b => .ok (P.build a b)
    | none, _ => .error P.first
    | _, none => .error P.second

variable (meaning₁ : Document → Option β) (meaning₂ : Document → Option γ)

/-- What a value changes. -/
def change (name : String) (d : Document) : Option (σ → σ) :=
  if name = P.first then (meaning₁ d).map fun v p => P.holding (some v) (P.snd p)
  else (meaning₂ d).map fun v p => P.holding (P.fst p) (some v)

variable {meaning₁ meaning₂}

/-- **A record of two fields is interpreted** if its fields are. -/
theorem interprets (h₁ : Interprets P.readFirst meaning₁) (h₂ : Interprets P.readSecond meaning₂) :
    Interprets (readRecord P.shape) (P.shape.meaning (P.change meaning₁ meaning₂)) := by
  refine interprets_readRecord fun field hfield st => ?_
  rw [shape, List.mem_pair] at hfield
  rcases hfield with rfl | rfl
  · have h := h₁.map fun v => P.holding (some v) (P.snd st)
    simpa only [change, if_true, Option.map_map, Function.comp_def] using h
  · have h := h₂.map fun v => P.holding (P.fst st) (some v)
    simpa only [change, if_neg P.first_ne_second.symm, Option.map_map, Function.comp_def] using h

/-- What is collected from members, field by field. -/
theorem collect_eq (a : Option β) (b : Option γ) (members : List (String × Document)) :
    P.shape.collect (P.change meaning₁ meaning₂) (P.holding a b) (members.map fun m => (some m.1, m.2)) =
      (fill meaning₁ a (valuesOf P.first members)).bind fun a' =>
        (fill meaning₂ b (valuesOf P.second members)).map (P.holding a') := by
  induction members generalizing a b with
  | nil => rfl
  | cons m members ih =>
    obtain ⟨name, d⟩ := m
    rw [List.map_cons, Shape.collect]
    by_cases h₁ : name = P.first
    · subst h₁
      simp only [shape, List.find?_cons, beq_self_eq_true, P.fst_holding, change, if_true, valuesOf_cons_self,
        valuesOf_cons_of_ne P.first_ne_second]
      cases a with
      | some a => rfl -- a second value, which fills nothing
      | none =>
        cases hd : meaning₁ d with
        | none => simp [fill, hd]
        | some v =>
          simp only [Option.isSome_none, Bool.false_eq_true, if_false, Option.map_some, Option.bind_some,
            P.snd_holding, fill, hd]
          exact ih (some v) b
    by_cases h₂ : name = P.second
    · subst h₂
      simp only [shape, List.find?_cons, beq_eq_false_iff_ne.2 P.first_ne_second, beq_self_eq_true,
        P.snd_holding, change, if_neg h₁, valuesOf_cons_self, valuesOf_cons_of_ne h₁]
      cases b with
      | some b => cases fill meaning₁ a (valuesOf P.first members) <;> rfl
      | none =>
        cases hd : meaning₂ d with
        | none => simp [fill, hd]
        | some v =>
          simp only [Option.isSome_none, Bool.false_eq_true, if_false, Option.map_some, Option.bind_some,
            P.fst_holding, fill, hd]
          exact ih a (some v)
    · have hfind : P.shape.fields.find? (·.name == name) = none := by simp [shape, Ne.symm h₁, Ne.symm h₂]
      rw [hfind, valuesOf_cons_of_ne h₁, valuesOf_cons_of_ne h₂]
      exact ih a b

/-- Members without a content for a name are refused. -/
theorem exists_members_of_collect {ms : List (Option String × Document)} {st st' : σ}
    (h : P.shape.collect (P.change meaning₁ meaning₂) st ms = some st') :
    ∃ members : List (String × Document), ms = members.map fun m => (some m.1, m.2) := by
  induction ms generalizing st with
  | nil => exact ⟨[], rfl⟩
  | cons m ms ih =>
    obtain ⟨name, d⟩ := m
    cases name with
    | none => cases h
    | some name =>
      have hrest : ∃ st, P.shape.collect (P.change meaning₁ meaning₂) st ms = some st' := by
        rw [Shape.collect] at h
        split at h
        · split at h
          · cases h
          · obtain ⟨f, -, hf⟩ := Option.bind_eq_some_iff.1 h
            exact ⟨_, hf⟩
        · exact ⟨_, h⟩
      obtain ⟨st, hst⟩ := hrest
      obtain ⟨members, rfl⟩ := ih hst
      exact ⟨(name, d) :: members, rfl⟩

/-- What is collected from items: there are two. -/
theorem collectItems_eq_some_iff {ds : List Document} {st : σ} :
    collectItems (P.change meaning₁ meaning₂) P.shape.fields P.shape.blank ds = some st ↔
      ∃ d₁ d₂ v w, ds = [d₁, d₂] ∧ meaning₁ d₁ = some v ∧ meaning₂ d₂ = some w ∧
        P.holding (some v) (some w) = st := by
  match ds with
  | [] | [_] | _ :: _ :: _ :: _ => simp [shape, collectItems]
  | [d₁, d₂] =>
    cases h₁ : meaning₁ d₁ <;> cases h₂ : meaning₂ d₂ <;>
      simp [shape, collectItems, change, P.first_ne_second.symm, P.fst_holding, h₁, h₂]

theorem complete_ok_iff {a : Option β} {b : Option γ} {r : α} :
    (P.shape.complete (P.holding a b)).toOption = some r ↔
      ∃ v w, a = some v ∧ b = some w ∧ P.build v w = r := by
  simp only [shape, P.fst_holding, P.snd_holding]
  cases a <;> cases b <;> simp [Except.toOption]

/-- **A record of two fields means what its two values mean.** -/
theorem meaning_eq_some_iff {r : α} : P.shape.meaning (P.change meaning₁ meaning₂) d = some r ↔
    ∃ d₁ d₂ v w, Document.Pairs P.first P.second d₁ d₂ d ∧ meaning₁ d₁ = some v ∧ meaning₂ d₂ = some w ∧
      P.build v w = r := by
  constructor
  · intro h
    unfold Shape.meaning at h
    split at h
    · obtain ⟨st, hst, hcomplete⟩ := Option.bind_eq_some_iff.1 h
      obtain ⟨d₁, d₂, v, w, rfl, hv, hw, rfl⟩ := P.collectItems_eq_some_iff.1 hst
      obtain ⟨v', w', hv', hw', hr⟩ := P.complete_ok_iff.1 hcomplete
      obtain rfl := Option.some.inj hv'
      obtain rfl := Option.some.inj hw'
      exact ⟨d₁, d₂, v, w, .inl rfl, hv, hw, hr⟩
    · rename_i ms
      obtain ⟨st, hst, hcomplete⟩ := Option.bind_eq_some_iff.1 h
      obtain ⟨members, rfl⟩ := P.exists_members_of_collect hst
      rw [show P.shape.blank = P.holding none none from rfl, collect_eq, Option.bind_eq_some_iff] at hst
      obtain ⟨a, ha, hst⟩ := hst
      obtain ⟨b, hb, rfl⟩ := Option.map_eq_some_iff.1 hst
      obtain ⟨v, w, rfl, rfl, hr⟩ := P.complete_ok_iff.1 hcomplete
      obtain ⟨d₁, hd₁, hv⟩ := fill_none_eq_some_iff.1 ha
      obtain ⟨d₂, hd₂, hw⟩ := fill_none_eq_some_iff.1 hb
      exact ⟨d₁, d₂, v, w, .inr ⟨members, rfl, hd₁, hd₂⟩, hv, hw, hr⟩
    · cases h
  · rintro ⟨d₁, d₂, v, w, rfl | ⟨members, rfl, hd₁, hd₂⟩, hv, hw, hr⟩
    · rw [Shape.meaning, P.collectItems_eq_some_iff.2 ⟨d₁, d₂, v, w, rfl, hv, hw, rfl⟩]
      exact P.complete_ok_iff.2 ⟨v, w, rfl, rfl, hr⟩
    · have hcollect : P.shape.collect (P.change meaning₁ meaning₂) P.shape.blank
          (members.map fun m => (some m.1, m.2)) = some (P.holding (some v) (some w)) := by
        rw [show P.shape.blank = P.holding none none from rfl, collect_eq,
          fill_none_eq_some_iff.2 ⟨d₁, hd₁, hv⟩, fill_none_eq_some_iff.2 ⟨d₂, hd₂, hw⟩]
        rfl
      rw [Document.object, Shape.meaning, hcollect]
      exact P.complete_ok_iff.2 ⟨v, w, rfl, rfl, hr⟩

end Pairing

end RunnerDispatch.Json
