import RunnerDispatch.Proofs.Routing.Coverage

/-!
# Compiling, step by step

* `declare_ok_iff`: a declaration is taken up exactly if its name is well formed and new and its labels
  are few enough.
* `declareAll_induction`: **what holds of the empty draft, and is kept by taking up one declaration,
  holds of the draft of all declarations.**
* `compile_ok_iff`: what a table is made of.
* `Draft.Represents`: **a draft sends every key to the first declaration that covers it.**
* `exists_table_iff`: **sound rules, and only they, make a table.**
-/

namespace RunnerDispatch

/-- A flavor is known by its name. -/
theorem Flavor.name_inj {f g : Flavor} : f.name = g.name ↔ f = g := by
  rw [← Flavor.ofName?_eq_some_iff, Flavor.ofName?_name, Option.some.injEq, eq_comm]

theorem Flavor.name_mem_map {f : Flavor} {fs : List Flavor} :
    f.name ∈ fs.map Flavor.name ↔ f ∈ fs := by
  simp only [List.mem_map, Flavor.name_inj, exists_eq_right]

namespace Routing

theorem namedFlavor_ok_iff {name : String} {flavor : Flavor} :
    namedFlavor name = .ok flavor ↔ flavor.name = name := by
  rw [← Flavor.ofName?_eq_some_iff, namedFlavor]
  cases Flavor.ofName? name <;> simp

namespace Rules

variable {r : Rules}

/-- A draft with one more declaration, under its flavor. -/
def extend (r : Rules) (draft : Draft) (flavor : Flavor) (d : Declaration) : Draft :=
  let labels := r.offered d
  let routes := claim draft.routes flavor (nonEmptySublists labels.toList)
  let claimed := routes.size - draft.routes.size
  { routes
    flavors := draft.flavors ++ [flavor]
    expansions := draft.expansions ++ [⟨flavor, labels.size, claimed, Nat.pow 2 labels.size - 1 - claimed⟩] }

theorem nodup_extend {draft : Draft} {flavor : Flavor} {d : Declaration} (h : draft.flavors.Nodup)
    (hnew : flavor ∉ draft.flavors) : (r.extend draft flavor d).flavors.Nodup := by
  simp only [extend, List.nodup_append, List.mem_singleton]
  refine ⟨h, by simp, ?_⟩
  rintro f hf _ rfl rfl
  exact hnew hf

/-- The checks of a declaration in their order. -/
theorem declare_eq (r : Rules) (draft : Draft) (d : Declaration) :
    r.declare draft d =
      match namedFlavor d.name with
      | .error e => .error e
      | .ok flavor =>
        if flavor ∈ draft.flavors then .error (.duplicateFlavor d.name)
        else if (r.offered d).size > r.limit then
          .error (.tooManyLabels d.name (r.offered d).size r.limit)
        else .ok (r.extend draft flavor d) := by
  unfold declare
  cases namedFlavor d.name with
  | error e => rfl
  | ok flavor =>
    by_cases hmem : flavor ∈ draft.flavors
    · simp only [bind, Except.bind, hmem, if_true]
      rfl
    · by_cases hmany : (r.offered d).size > r.limit <;>
        simp only [bind, Except.bind, pure, Except.pure, hmem, hmany, if_true, if_false] <;> rfl

/-- **When a declaration is taken up**, and what it adds. -/
theorem declare_ok_iff {draft draft' : Draft} {d : Declaration} :
    r.declare draft d = .ok draft' ↔
      ∃ flavor : Flavor, flavor.name = d.name ∧ flavor ∉ draft.flavors ∧
        (r.offered d).size ≤ r.limit ∧ draft' = r.extend draft flavor d := by
  rw [declare_eq]
  cases hf : namedFlavor d.name with
  | error e =>
    constructor
    · intro h
      cases h
    · rintro ⟨flavor, hname, -⟩
      rw [namedFlavor_ok_iff.2 hname] at hf
      cases hf
  | ok flavor =>
    have hname := namedFlavor_ok_iff.1 hf
    constructor
    · intro h
      simp only at h
      split at h
      · cases h
      rename_i hmem
      split at h
      · cases h
      rename_i hmany
      exact ⟨flavor, hname, hmem, Nat.le_of_not_lt hmany, (Except.ok.inj h).symm⟩
    · rintro ⟨f, hf', hmem, hfew, rfl⟩
      -- a name has one flavor only
      rw [← namedFlavor_ok_iff, hf] at hf'
      obtain rfl := Except.ok.inj hf'
      simp only
      rw [if_neg hmem, if_neg (Nat.not_lt_of_le hfew)]

/-- What holds of a draft, and is kept by taking up one declaration more, holds when all are taken up. -/
theorem declareAll_induction {P : List Declaration → Draft → Prop}
    (step : ∀ done d draft draft', P done draft → r.declare draft d = .ok draft' →
      P (done ++ [d]) draft')
    {done ds : List Declaration} {draft draft' : Draft} (start : P done draft)
    (h : r.declareAll draft ds = (draft', .ok ())) : P (done ++ ds) draft' := by
  induction ds generalizing done draft with
  | nil =>
    obtain ⟨rfl, -⟩ := Prod.mk.inj h
    rw [List.append_nil]
    exact start
  | cons d ds ih =>
    rw [declareAll] at h
    cases hd : r.declare draft d with
    | error e =>
      rw [hd] at h
      cases (Prod.mk.inj h).2
    | ok next =>
      rw [hd] at h
      have := ih (step done d draft next start hd) h
      rwa [List.append_assoc, List.singleton_append] at this

/-- **What a table is made of.** -/
theorem compile_ok_iff {t : Table} :
    r.compile.result = .ok t ↔
      r.limit ≤ labelCeiling ∧ r.declarations ≠ [] ∧
        ∃ draft default, r.declareAll {} r.declarations = (draft, .ok ()) ∧
          r.defaultAmong draft.flavors = .ok default ∧
          t = ⟨draft.routes, default, draft.flavors, r.ignoredSet⟩ := by
  unfold compile
  by_cases hlimit : r.limit > labelCeiling
  · simp [hlimit, Nat.not_le_of_lt hlimit]
  by_cases hnone : r.declarations = []
  · simp [hlimit, hnone]
  rw [if_neg hlimit, if_neg (by simpa using hnone)]
  cases hall : r.declareAll {} r.declarations with
  | mk draft outcome =>
    cases outcome with
    | error e => simp [bind, Except.bind]
    | ok _ =>
      cases hdefault : r.defaultAmong draft.flavors with
      | error e => simp [bind, Except.bind, hdefault]
      | ok default =>
        simp [bind, Except.bind, pure, Except.pure, hdefault, Nat.le_of_not_lt hlimit, hnone, eq_comm]

end Rules

/-- **A draft represents declarations** if it lists their flavors, each once, and sends a key to the first
of them that covers it. -/
structure Draft.Represents (r : Rules) (ds : List Declaration) (draft : Draft) : Prop where
  names : draft.flavors.map Flavor.name = ds.map Declaration.name
  nodup : draft.flavors.Nodup
  lookup : ∀ key, (draft.routes[key]?).map Flavor.name =
    (ds.find? fun d => decide (r.Covers d key)).map Declaration.name

theorem Draft.represents_empty (r : Rules) : Draft.Represents r [] {} where
  names := rfl
  nodup := .nil
  lookup key := by simp

/-- **Taking up a declaration keeps what the draft represents**, and adds the declaration at the end. -/
theorem Draft.Represents.declare {r : Rules} {ds : List Declaration} {d : Declaration}
    {draft draft' : Draft} (h : draft.Represents r ds) (hd : r.declare draft d = .ok draft') :
    draft'.Represents r (ds ++ [d]) := by
  obtain ⟨flavor, hname, hnew, -, rfl⟩ := Rules.declare_ok_iff.1 hd
  refine ⟨?_, ?_, ?_⟩
  · simp [Rules.extend, h.names, hname]
  · exact Rules.nodup_extend h.nodup hnew
  · intro key
    have hkeys : key ∈ nonEmptySublists (r.offered d).toList ↔ r.Covers d key := mem_nonEmptySublists
    rw [List.find?_append, Option.map_or, ← h.lookup key]
    show ((claim _ _ _)[key]?).map _ = _
    rw [getElem?_claim, Option.map_or]
    by_cases hc : r.Covers d key <;> simp [hkeys, hc, hname]

/-- The draft of all declarations represents them. -/
theorem represents_declareAll {r : Rules} {ds : List Declaration} {draft : Draft}
    (h : r.declareAll {} ds = (draft, .ok ())) : draft.Represents r ds :=
  Rules.declareAll_induction (P := fun done draft => draft.Represents r done)
    (fun _ _ _ _ hrep hd => hrep.declare hd) (Draft.represents_empty r) h

namespace Rules

variable {r : Rules}

/-- The declarations that are taken up onto a draft: those with well-formed names and few labels, if no name
repeats one of them or one of the draft's. -/
theorem declareAll_ok_iff {ds : List Declaration} {draft : Draft} (hnodup : draft.flavors.Nodup) :
    (∃ draft', r.declareAll draft ds = (draft', .ok ())) ↔
      (∀ d ∈ ds, Flavor.IsWellFormed d.name ∧ (r.offered d).size ≤ r.limit) ∧
        (ds.map Declaration.name).Nodup ∧
        ∀ d ∈ ds, d.name ∉ draft.flavors.map Flavor.name := by
  induction ds generalizing draft with
  | nil => simp [declareAll]
  | cons d ds ih =>
    rw [declareAll]
    constructor
    · rintro ⟨draft', h⟩
      cases hd : r.declare draft d with
      | error e =>
        rw [hd] at h
        cases (Prod.mk.inj h).2
      | ok next =>
        rw [hd] at h
        obtain ⟨flavor, hname, hnew, hfew, rfl⟩ := declare_ok_iff.1 hd
        obtain ⟨hok, hdistinct, hfresh⟩ := (ih (nodup_extend hnodup hnew)).1 ⟨draft', h⟩
        simp only [extend, List.map_append, List.map_singleton, List.mem_append, not_or,
          List.mem_singleton, hname] at hfresh
        refine ⟨?_, ?_, ?_⟩
        · rintro c (_ | ⟨_, hc⟩)
          · exact ⟨hname ▸ flavor.isWellFormed, hfew⟩
          · exact hok c hc
        · rw [List.map_cons, List.nodup_cons, List.mem_map]
          exact ⟨fun ⟨c, hc, hcd⟩ => (hfresh c hc).2 hcd, hdistinct⟩
        · rintro c (_ | ⟨_, hc⟩)
          · rw [← hname, Flavor.name_mem_map]
            exact hnew
          · exact (hfresh c hc).1
    · rintro ⟨hok, hdistinct, hfresh⟩
      rw [List.map_cons, List.nodup_cons, List.mem_map] at hdistinct
      obtain ⟨hwell, hfew⟩ := hok d List.mem_cons_self
      have hnew : (⟨d.name, hwell⟩ : Flavor) ∉ draft.flavors := by
        rw [← Flavor.name_mem_map]
        exact hfresh d List.mem_cons_self
      have hd : r.declare draft d = .ok (r.extend draft ⟨d.name, hwell⟩ d) :=
        declare_ok_iff.2 ⟨⟨d.name, hwell⟩, rfl, hnew, hfew, rfl⟩
      rw [hd]
      refine (ih (nodup_extend hnodup hnew)).2
        ⟨fun c hc => hok c (List.mem_cons_of_mem _ hc), hdistinct.2, fun c hc => ?_⟩
      simp only [extend, List.map_append, List.map_singleton, List.mem_append, not_or,
        List.mem_singleton]
      exact ⟨hfresh c (List.mem_cons_of_mem _ hc), fun hcd => hdistinct.1 ⟨c, hc, hcd⟩⟩

/-- The default flavor is a declared one: the one that is named, or else the first. -/
theorem defaultAmong_ok_iff {flavors : List Flavor} {flavor : Flavor} :
    r.defaultAmong flavors = .ok flavor ↔
      flavor ∈ flavors ∧ r.default.or (flavors.head?.map Flavor.name) = some flavor.name := by
  unfold defaultAmong
  cases hd : r.default with
  | some name =>
    simp only
    cases hf : namedFlavor name with
    | error e =>
      constructor
      · intro h
        cases h
      · rintro ⟨-, h⟩
        rw [Option.some_or, Option.some.injEq] at h
        rw [namedFlavor_ok_iff.2 h.symm] at hf
        cases hf
    | ok f =>
      have hname := namedFlavor_ok_iff.1 hf
      have hone : name = flavor.name ↔ f = flavor := by
        rw [eq_comm, ← namedFlavor_ok_iff, hf, Except.ok.injEq]
      rw [Option.some_or, Option.some.injEq, hone]
      by_cases hmem : f ∈ flavors
      · simp only [bind, Except.bind, pure, Except.pure, hmem, if_true, Except.ok.injEq]
        constructor
        · rintro rfl
          exact ⟨hmem, rfl⟩
        · exact fun h => h.2
      · simp only [bind, Except.bind, hmem, if_false]
        constructor
        · intro h
          cases h
        · rintro ⟨h, rfl⟩
          exact absurd h hmem
  | none =>
    cases flavors with
    | nil => simp
    | cons first rest =>
      have hone : first.name = flavor.name ↔ first = flavor :=
        ⟨fun h => by cases first; cases flavor; simpa using h, congrArg _⟩
      simp only [Except.ok.injEq, Option.none_or, List.head?_cons, Option.map_some,
        Option.some.injEq, hone]
      constructor
      · rintro rfl
        exact ⟨List.mem_cons_self, rfl⟩
      · exact fun h => h.2

/-- **Rules that make a table**: some flavors with well-formed names, all different, each with few labels,
and a default among them. -/
structure Sound (r : Rules) : Prop where
  limit_le : r.limit ≤ labelCeiling
  nonempty : r.declarations ≠ []
  declared : ∀ d ∈ r.declarations, Flavor.IsWellFormed d.name ∧ (r.offered d).size ≤ r.limit
  distinct : (r.declarations.map Declaration.name).Nodup
  default_mem : ∀ name, r.default = some name → name ∈ r.declarations.map Declaration.name

/-- **Sound rules, and only they, make a table.** -/
theorem exists_table_iff : (∃ t, r.compile.result = .ok t) ↔ r.Sound := by
  have hall : (∃ draft, r.declareAll {} r.declarations = (draft, .ok ())) ↔ _ := declareAll_ok_iff .nil
  constructor
  · rintro ⟨t, h⟩
    obtain ⟨hlimit, hnonempty, draft, default, hdraft, hdefault, -⟩ := compile_ok_iff.1 h
    obtain ⟨hok, hdistinct, -⟩ := hall.1 ⟨draft, hdraft⟩
    refine ⟨hlimit, hnonempty, hok, hdistinct, fun name hname => ?_⟩
    obtain ⟨hmem, hchosen⟩ := defaultAmong_ok_iff.1 hdefault
    rw [hname, Option.some_or, Option.some.injEq] at hchosen
    rw [hchosen, ← (represents_declareAll hdraft).names, Flavor.name_mem_map]
    exact hmem
  · rintro ⟨hlimit, hnonempty, hok, hdistinct, hmem⟩
    obtain ⟨draft, hdraft⟩ := hall.2 ⟨hok, hdistinct, fun _ _ => List.not_mem_nil⟩
    have hnames := (represents_declareAll hdraft).names
    suffices ∃ default, r.defaultAmong draft.flavors = .ok default by
      obtain ⟨default, hdefault⟩ := this
      exact ⟨_, compile_ok_iff.2 ⟨hlimit, hnonempty, draft, default, hdraft, hdefault, rfl⟩⟩
    cases hd : r.default with
    | some name =>
      have hname := hmem name hd
      rw [← hnames, List.mem_map] at hname
      obtain ⟨flavor, hflavor, rfl⟩ := hname
      exact ⟨flavor, defaultAmong_ok_iff.2 ⟨hflavor, by rw [hd, Option.some_or]⟩⟩
    | none =>
      cases hf : draft.flavors with
      | nil =>
        rw [hf, List.map_nil] at hnames
        exact absurd (List.map_eq_nil_iff.1 hnames.symm) hnonempty
      | cons first rest =>
        exact ⟨first, defaultAmong_ok_iff.2 ⟨List.mem_cons_self, by rw [hd]; rfl⟩⟩

end Rules

/-- **Labels resolve to declared flavors only**, whatever is asked. -/
theorem name_mem_of_resolve {r : Rules} {t : Table} (h : r.compile.result = .ok t) {asked : List String}
    {flavor : Flavor} (hresolve : t.resolve asked = .ok flavor) :
    flavor.name ∈ r.declarations.map Declaration.name := by
  obtain ⟨-, -, draft, default, hall, hdefault, rfl⟩ := Rules.compile_ok_iff.1 h
  have hrep := represents_declareAll hall
  unfold Table.resolve at hresolve
  simp only at hresolve
  split at hresolve
  · -- nothing is asked for, and the default flavor is declared
    obtain rfl := Except.ok.inj hresolve
    rw [← hrep.names, Flavor.name_mem_map]
    exact (Rules.defaultAmong_ok_iff.1 hdefault).1
  split at hresolve
  · exact (nomatch hresolve)
  split at hresolve
  · rename_i found hfound
    obtain rfl := Except.ok.inj hresolve
    have hfind := hrep.lookup (LabelSet.normalize asked \ r.ignoredSet).toList
    rw [show draft.routes[_]? = some found from hfound, Option.map_some] at hfind
    obtain ⟨d, hd, hname⟩ := Option.map_eq_some_iff.1 hfind.symm
    rw [← hname]
    exact List.mem_map_of_mem (List.mem_of_find?_eq_some hd)
  · exact (nomatch hresolve)

/-- Rules with a flavor that offers no label. -/
def loneFlavor : Rules := { declarations := [⟨"lone", []⟩] }

/-- A table that has nothing but a default. -/
def loneTable : Table where
  routes := ∅
  default := ⟨"lone", by decide⟩
  flavors := [⟨"lone", by decide⟩]
  ignored := ∅

theorem compile_loneFlavor : loneFlavor.compile.result = .ok loneTable := by cbv

end Routing

end RunnerDispatch
