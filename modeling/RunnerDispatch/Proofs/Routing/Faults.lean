import RunnerDispatch.Proofs.Routing.Compilation

/-!
# The first fault

Rules that make no table have a fault, and an operator is told the first one. The limit comes before the
declarations, the declarations come in their order, and the default flavor comes last.

* `Rules.faultAfter?`: what is wrong with a declaration after others, **its name before its labels**.
* `Rules.Faultless`, `Rules.Faulty`: none of some declarations is wrong, or this is what is wrong with the first
  that is.
* `declareAll_faults`: declarations are taken up as far as they are faultless.
* `compile_first_fault`: **rules make a table if they have no fault, and else the first one is given.**
-/

namespace RunnerDispatch.Routing

/-- A name that is not well formed names no flavor. -/
theorem namedFlavor_malformed {name : String} (h : ¬ Flavor.IsWellFormed name) :
    namedFlavor name = .error (.malformedName name) := by
  rw [namedFlavor, Flavor.ofName?, dif_neg h]

theorem namedFlavor_wellFormed {name : String} (h : Flavor.IsWellFormed name) :
    namedFlavor name = .ok ⟨name, h⟩ :=
  namedFlavor_ok_iff.2 rfl

namespace Rules

variable {r : Rules} {earlier ds : List Declaration} {d : Declaration} {draft : Draft} {fault : Fault}

/-- How many different labels a declaration has, the ignored ones aside. -/
def labelCount (r : Rules) (d : Declaration) : ℕ :=
  ((d.labels.map Label.ofString).toFinset \ (r.ignored.map Label.ofString).toFinset).card

/-- What is wrong with a declaration, if others precede it. -/
def faultAfter? (r : Rules) (earlier : List Declaration) (d : Declaration) : Option Fault :=
  if ¬ Flavor.IsWellFormed d.name then some (.malformedName d.name)
  else if d.name ∈ earlier.map Declaration.name then some (.duplicateFlavor d.name)
  else if r.limit < r.labelCount d then some (.tooManyLabels d.name (r.labelCount d) r.limit)
  else none

/-- What is wrong with the name of the default flavor. -/
def defaultFault? (r : Rules) (name : String) : Option Fault :=
  if ¬ Flavor.IsWellFormed name then some (.malformedName name)
  else if name ∉ r.declarations.map Declaration.name then some (.undeclaredDefault name)
  else none

/-- Nothing is wrong with any of these declarations, if others precede them. -/
def Faultless (r : Rules) (earlier ds : List Declaration) : Prop :=
  ∀ before d after, ds = before ++ d :: after → r.faultAfter? (earlier ++ before) d = none

/-- This is wrong with **the first of these declarations that anything is wrong with**, if others precede them. -/
def Faulty (r : Rules) (earlier ds : List Declaration) (fault : Fault) : Prop :=
  ∃ before d after, ds = before ++ d :: after ∧ r.Faultless earlier before ∧
    r.faultAfter? (earlier ++ before) d = some fault

/-- **The first fault of rules**: the limit comes first, then that nothing is declared, then the first faulty
declaration, and then the default flavor. -/
def FirstFault (r : Rules) (fault : Fault) : Prop :=
  if labelCeiling < r.limit then fault = .limitTooHigh r.limit
  else if r.declarations = [] then fault = .noFlavors
  else r.Faulty [] r.declarations fault ∨
    r.Faultless [] r.declarations ∧ ∃ name, r.default = some name ∧ r.defaultFault? name = some fault

/-! ## One declaration -/

theorem mem_offered {label : Label} : label ∈ r.offered d ↔
    label ∈ d.labels.map Label.ofString ∧ label ∉ r.ignored.map Label.ofString := by
  rw [offered, SortedSet.mem_sdiff, ignoredSet, LabelSet.normalize, LabelSet.normalize, SortedSet.mem_ofList,
    SortedSet.mem_ofList]

/-- The labels that count are counted without repetition, whatever their letter case. -/
theorem size_offered (r : Rules) (d : Declaration) : (r.offered d).size = r.labelCount d := by
  rw [SortedSet.size_eq_card, labelCount]
  congr 1
  ext label
  rw [List.mem_toFinset, SortedSet.mem_toList, mem_offered, Finset.mem_sdiff, List.mem_toFinset, List.mem_toFinset]

/-- No more labels are offered than are written down. -/
theorem size_offered_le (r : Rules) (d : Declaration) : (r.offered d).size ≤ d.labels.length := by
  calc (r.offered d).size
      ≤ (d.labels.map Label.ofString).toFinset.card := by
        rw [size_offered]
        exact Finset.card_le_card Finset.sdiff_subset
    _ ≤ (d.labels.map Label.ofString).length := List.toFinset_card_le _
    _ = d.labels.length := List.length_map _

/-- **Rules are sound if they write down few labels**, well-formed names, all different, and a default among them. -/
theorem Sound.of_short (hlimit : r.limit ≤ labelCeiling) (hnonempty : r.declarations ≠ [])
    (hdeclared : ∀ d ∈ r.declarations, Flavor.IsWellFormed d.name ∧ d.labels.length ≤ r.limit)
    (hdistinct : (r.declarations.map Declaration.name).Nodup)
    (hdefault : ∀ name ∈ r.default, name ∈ r.declarations.map Declaration.name) : r.Sound where
  limit_le := hlimit
  nonempty := hnonempty
  declared d hd := ⟨(hdeclared d hd).1, (size_offered_le r d).trans (hdeclared d hd).2⟩
  distinct := hdistinct
  default_mem := hdefault

/-- **What is wrong with a declaration is what it is refused for.** -/
theorem declare_eq_faultAfter? (hnames : draft.flavors.map Flavor.name = earlier.map Declaration.name) :
    (∀ fault, r.declare draft d = .error fault ↔ r.faultAfter? earlier d = some fault) ∧
      (r.faultAfter? earlier d = none → ∃ next, r.declare draft d = .ok next ∧
        next.flavors.map Flavor.name = (earlier ++ [d]).map Declaration.name) := by
  rw [declare_eq, faultAfter?, ← hnames]
  by_cases hwell : Flavor.IsWellFormed d.name
  · have hmem : (⟨d.name, hwell⟩ : Flavor) ∈ draft.flavors ↔ d.name ∈ draft.flavors.map Flavor.name :=
      Flavor.name_mem_map.symm
    simp only [namedFlavor_wellFormed hwell, hwell, not_true_eq_false, if_false, hmem, size_offered, gt_iff_lt]
    by_cases hdouble : d.name ∈ draft.flavors.map Flavor.name
    · simp [hdouble]
    by_cases hmany : r.limit < r.labelCount d
    · simp [hdouble, hmany]
    · rw [if_neg hdouble, if_neg hmany, if_neg hdouble, if_neg hmany]
      refine ⟨fun fault => iff_of_false (by simp) (by simp), fun _ => ⟨_, rfl, ?_⟩⟩
      rw [extend, List.map_append, hnames, List.map_append]
      rfl
  · simp [namedFlavor_malformed hwell, hwell]

/-! ## All declarations -/

theorem faultless_nil (r : Rules) (earlier : List Declaration) : r.Faultless earlier [] := by
  intro before d after h
  exact absurd h.symm (List.append_ne_nil_of_right_ne_nil before (List.cons_ne_nil d after))

theorem faultless_cons : r.Faultless earlier (d :: ds) ↔
    r.faultAfter? earlier d = none ∧ r.Faultless (earlier ++ [d]) ds := by
  constructor
  · intro h
    refine ⟨?_, fun before c after hds => ?_⟩
    · simpa using h [] d ds rfl
    · simpa using h (d :: before) c after (by rw [hds, List.cons_append])
  · rintro ⟨hd, hds⟩ before c after h
    rcases List.cons_eq_append_iff.1 h with ⟨rfl, hhead⟩ | ⟨before, rfl, htail⟩
    · obtain ⟨rfl, -⟩ := List.cons.inj hhead
      simpa using hd
    · simpa using hds before c after htail

theorem faulty_cons : r.Faulty earlier (d :: ds) fault ↔ r.faultAfter? earlier d = some fault ∨
    r.faultAfter? earlier d = none ∧ r.Faulty (earlier ++ [d]) ds fault := by
  constructor
  · rintro ⟨before, c, after, h, hbefore, hc⟩
    rcases List.cons_eq_append_iff.1 h with ⟨rfl, hhead⟩ | ⟨before, rfl, htail⟩
    · obtain ⟨rfl, -⟩ := List.cons.inj hhead
      exact .inl (by simpa using hc)
    · obtain ⟨hd, hbefore⟩ := faultless_cons.1 hbefore
      exact .inr ⟨hd, before, c, after, htail, hbefore, by simpa using hc⟩
  · rintro (hd | ⟨hd, before, c, after, rfl, hbefore, hc⟩)
    · exact ⟨[], d, ds, rfl, faultless_nil r earlier, by simpa using hd⟩
    · exact ⟨d :: before, c, after, rfl, faultless_cons.2 ⟨hd, hbefore⟩, by simpa using hc⟩

/-- **Declarations are taken up until one is faulty**, and then its fault is given. -/
theorem declareAll_faults (hnames : draft.flavors.map Flavor.name = earlier.map Declaration.name) :
    (∀ fault, (r.declareAll draft ds).2 = .error fault ↔ r.Faulty earlier ds fault) ∧
      ((r.declareAll draft ds).2 = .ok () ↔ r.Faultless earlier ds) := by
  induction ds generalizing draft earlier with
  | nil =>
    refine ⟨fun fault => ⟨(nomatch ·), ?_⟩, fun _ => faultless_nil r earlier, fun _ => rfl⟩
    rintro ⟨before, d, after, h, -⟩
    exact absurd h.symm (List.append_ne_nil_of_right_ne_nil before (List.cons_ne_nil d after))
  | cons d ds ih =>
    obtain ⟨herror, hok⟩ := declare_eq_faultAfter? (r := r) (d := d) hnames
    simp only [faulty_cons, faultless_cons]
    rw [declareAll]
    cases hfault : r.faultAfter? earlier d with
    | some found =>
      rw [(herror found).2 hfault]
      simp
    | none =>
      obtain ⟨next, hnext, hnames'⟩ := hok hfault
      rw [hnext]
      simpa using ih hnames'

/-! ## The default flavor, and all of it -/

/-- **What is wrong with the default flavor**, if there are flavors. -/
theorem defaultAmong_error_iff {flavors : List Flavor} (hnonempty : r.declarations ≠ [])
    (hnames : flavors.map Flavor.name = r.declarations.map Declaration.name) :
    r.defaultAmong flavors = .error fault ↔
      ∃ name, r.default = some name ∧ r.defaultFault? name = some fault := by
  unfold defaultAmong
  cases hdefault : r.default with
  | none =>
    cases flavors with
    | nil => exact absurd (List.map_eq_nil_iff.1 hnames.symm) hnonempty
    | cons first rest => simp
  | some name =>
    simp only [Option.some.injEq, exists_eq_left', defaultFault?, ← hnames]
    by_cases hwell : Flavor.IsWellFormed name
    · have hmem : (⟨name, hwell⟩ : Flavor) ∈ flavors ↔ name ∈ flavors.map Flavor.name :=
        Flavor.name_mem_map.symm
      simp only [namedFlavor_wellFormed hwell, hwell, bind, Except.bind, hmem, not_true_eq_false, if_false]
      by_cases hdeclared : name ∈ flavors.map Flavor.name
      · simp [hdeclared, pure, Except.pure]
      · simp [hdeclared, throw, throwThe, MonadExceptOf.throw]
    · simp [namedFlavor_malformed hwell, hwell, bind, Except.bind]

/-- What compiling comes to, once the limit is low enough and something is declared. -/
theorem result_compile {outcome : Except Fault Unit} (hlow : ¬ labelCeiling < r.limit)
    (hnonempty : r.declarations ≠ []) (hall : r.declareAll {} r.declarations = (draft, outcome)) :
    r.compile.result = outcome.bind fun _ => (r.defaultAmong draft.flavors).map fun default =>
      ⟨draft.routes, default, draft.flavors, r.ignoredSet⟩ := by
  have hsome : ¬ r.declarations.isEmpty = true := by
    rw [List.isEmpty_iff]
    exact hnonempty
  rw [compile, if_neg hlow, if_neg hsome, hall]
  cases outcome with
  | error fault => rfl
  | ok u => cases h : r.defaultAmong draft.flavors <;> simp [bind, Except.bind, pure, Except.pure, Except.map, h]

/-- **The fault that is given is the first one.** -/
theorem compile_error_iff : r.compile.result = .error fault ↔ r.FirstFault fault := by
  unfold FirstFault
  split
  · rename_i hhigh
    rw [compile, if_pos hhigh, Except.error.injEq, eq_comm]
  rename_i hlow
  split
  · rename_i hempty
    rw [compile, if_neg hlow, if_pos (List.isEmpty_iff.2 hempty), Except.error.injEq, eq_comm]
  rename_i hnonempty
  obtain ⟨herror, hok⟩ :
      (∀ fault, (r.declareAll {} r.declarations).2 = .error fault ↔ r.Faulty [] r.declarations fault) ∧
        ((r.declareAll {} r.declarations).2 = .ok () ↔ r.Faultless [] r.declarations) :=
    declareAll_faults rfl
  cases hall : r.declareAll {} r.declarations with
  | mk draft outcome =>
  rw [result_compile hlow hnonempty hall, ← hok, ← herror fault, hall]
  cases outcome with
  | error found => simp [Except.bind]
  | ok u =>
    -- all declarations are taken up, so that the default flavor is looked for among them
    rw [← defaultAmong_error_iff hnonempty (represents_declareAll hall).names]
    cases r.defaultAmong draft.flavors <;> simp [Except.bind, Except.map]

end Rules

/-- **Rules make a table if they have no fault, and else the first one is given.** -/
theorem compile_first_fault (r : Rules) :
    (∀ fault, r.compile.result = .error fault ↔ r.FirstFault fault) ∧
      ((∃ t, r.compile.result = .ok t) ↔ ∀ fault, ¬ r.FirstFault fault) := by
  refine ⟨fun fault => Rules.compile_error_iff, ?_⟩
  simp only [← Rules.compile_error_iff]
  cases r.compile.result with
  | error fault => simp
  | ok t => simp

/-- The second declaration is faulty, so that neither the third nor the default flavor is looked at. -/
example : ({ declarations := [⟨"a", []⟩, ⟨"a", []⟩, ⟨"b c", []⟩], default := some "d" } : Rules).compile.result =
    .error (.duplicateFlavor "a") := by cbv

end RunnerDispatch.Routing
