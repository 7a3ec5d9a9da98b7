import RunnerDispatch.Proofs.Routing.Faults
import RunnerDispatch.Proofs.Routing.Normalization
import RunnerDispatch.Proofs.Routing.Search

/-!
# The shape of a table

What is in a compiled table can be told from the declarations, and a look-up under anything that is no key of
theirs finds nothing.

* `Rules.wanted`: the labels of a job that count.
* `Rules.FirstCovers`: a declaration covers a key, and none before it does.
* `lookup_eq_some_iff`: **a key goes to the first declaration that covers it.**
* `resolve_ok_iff`: an answer is the default flavor, or what is found under the labels that count.
* `toOption_resolve`: these labels are all that is looked at, if there are any.
* `appears_iff`: **a flavor is in the table unless a single earlier one offers all that it offers.**
* `wellShaped_compiled`: the shape of every compiled table.
-/

namespace RunnerDispatch.Routing

open LabelSet (normalize)

variable {r : Rules} {t : Table} {key : Key} {f : Flavor} {asked : List String}
  {before after : List Declaration} {d : Declaration}

/-! ## What is not found under keys -/

theorem ignored_compiled (h : r.compile.result = .ok t) : t.ignored = r.ignoredSet := by
  obtain ⟨-, -, draft, default, -, -, rfl⟩ := Rules.compile_ok_iff.1 h
  rfl

/-- The flavors of a table are those that are declared, in order, each once. -/
theorem flavors_compiled (h : r.compile.result = .ok t) :
    t.flavors.map Flavor.name = r.declarations.map Declaration.name ∧ t.flavors.Nodup := by
  obtain ⟨-, -, draft, default, hall, -, rfl⟩ := Rules.compile_ok_iff.1 h
  have hrep := represents_declareAll hall
  exact ⟨hrep.names, hrep.nodup⟩

/-- The default flavor is the one that is named, or else the first, and is declared. -/
theorem default_compiled (h : r.compile.result = .ok t) :
    r.defaultName? = some t.default.name ∧ t.default ∈ t.flavors := by
  have hhead : t.flavors.head?.map Flavor.name = r.declarations.head?.map Declaration.name := by
    rw [← List.head?_map, (flavors_compiled h).1, List.head?_map]
  obtain ⟨-, -, draft, default, -, hdefault, rfl⟩ := Rules.compile_ok_iff.1 h
  obtain ⟨hmem, hname⟩ := Rules.defaultAmong_ok_iff.1 hdefault
  exact ⟨by rw [Rules.defaultName?, ← hhead]; exact hname, hmem⟩

/-! ## What is found under keys -/

theorem map_name_eq_some_iff {found : Option Flavor} : found.map Flavor.name = some f.name ↔ found = some f := by
  simp only [Option.map_eq_some_iff, Flavor.name_inj, exists_eq_right]

/-- A declaration covers a key, and none of those before it does. -/
def Rules.FirstCovers (r : Rules) (before : List Declaration) (d : Declaration) (key : Key) : Prop :=
  r.Covers d key ∧ ∀ c ∈ before, ¬ r.Covers c key

instance : Decidable (r.FirstCovers before d key) := inferInstanceAs (Decidable (_ ∧ _))

/-- **A key goes to the first declaration that covers it.** -/
theorem lookup_eq_some_iff (h : r.compile.result = .ok t) : t.lookup key = some f ↔
    ∃ before d after, r.declarations = before ++ d :: after ∧ d.name = f.name ∧ r.FirstCovers before d key := by
  rw [← map_name_eq_some_iff, lookup_compiled h, Option.map_eq_some_iff]
  simp only [List.find?_eq_some_iff_append, decide_eq_true_eq, Bool.not_eq_true', decide_eq_false_iff_not]
  constructor
  · rintro ⟨d, ⟨hcovers, before, after, hsplit, hfirst⟩, hd⟩
    exact ⟨before, d, after, hsplit, hd, hcovers, hfirst⟩
  · rintro ⟨before, d, after, hsplit, hd, hcovers, hfirst⟩
    exact ⟨d, ⟨hcovers, before, after, hsplit, hfirst⟩, hd⟩

/-- **A flavor is found under the keys that its declaration is the first to cover.** -/
theorem found_iff (h : r.compile.result = .ok t) (hsplit : r.declarations = before ++ d :: after) :
    (∃ f, t.lookup key = some f ∧ f.name = d.name) ↔ r.FirstCovers before d key := by
  simp only [lookup_eq_some_iff h]
  constructor
  · rintro ⟨f, ⟨before', d', after', hsplit', hd', hfirst⟩, hf⟩
    -- no two declarations have one name, so that both ways to split the list are the same
    have hdistinct := (Rules.exists_table_iff.1 ⟨t, h⟩).distinct
    rw [hsplit, List.map_append, List.map_cons, List.nodup_append, List.nodup_cons] at hdistinct
    obtain ⟨-, ⟨hafter, -⟩, hbefore⟩ := hdistinct
    have hname : d'.name = d.name := hd'.trans hf
    obtain ⟨rfl, rfl, -⟩ := (List.append_cons_inj_of_notMem
      (fun hmem => hbefore _ (List.mem_map_of_mem hmem) _ List.mem_cons_self hname)
      (fun hmem => hafter (hname ▸ List.mem_map_of_mem hmem))).1 (hsplit.symm.trans hsplit')
    exact hfirst
  · intro hfirst
    have hmem : d ∈ r.declarations := hsplit ▸ List.mem_append_right _ List.mem_cons_self
    have hwell := ((Rules.exists_table_iff.1 ⟨t, h⟩).declared d hmem).1
    exact ⟨⟨d.name, hwell⟩, ⟨before, d, after, hsplit, rfl, hfirst⟩, rfl⟩

/-- There is nothing under the empty key. -/
theorem lookup_nil (h : r.compile.result = .ok t) : t.lookup [] = none := by
  rw [Option.eq_none_iff_forall_ne_some]
  intro f hf
  obtain ⟨-, d, -, -, -, ⟨hne, -⟩, -⟩ := (lookup_eq_some_iff h).1 hf
  exact hne rfl

/-- The labels that a job asks for and that count. -/
def Rules.wanted (r : Rules) (asked : List String) : LabelSet := normalize asked \ r.ignoredSet

/-- **An answer is the default flavor or what is found under the labels that count.** -/
theorem resolve_ok_iff (h : r.compile.result = .ok t) : t.resolve asked = .ok f ↔
    normalize asked = ∅ ∧ t.default = f ∨
      normalize asked ≠ ∅ ∧ t.lookup (r.wanted asked).toList = some f := by
  rw [Rules.wanted, ← ignored_compiled h]
  unfold Table.resolve
  simp only
  by_cases hnone : normalize asked = ∅
  · simp [hnone, SortedSet.isEmpty_iff]
  rw [if_neg fun he => hnone (SortedSet.isEmpty_iff.1 he)]
  by_cases hwanted : (normalize asked \ t.ignored).toList = []
  · simp [hnone, hwanted, lookup_nil h]
  rw [if_neg fun he => hwanted (List.isEmpty_iff.1 he)]
  cases t.lookup (normalize asked \ t.ignored).toList <;> simp [hnone]

theorem toOption_eq_some_iff {ε α : Type} {answer : Except ε α} {a : α} :
    answer.toOption = some a ↔ answer = .ok a := by
  cases answer <;> simp [Except.toOption]

/-- **The labels that count are all that is looked at**, if there are any. -/
theorem toOption_resolve (h : r.compile.result = .ok t) (hsome : r.wanted asked ≠ ∅) :
    (t.resolve asked).toOption = t.lookup (r.wanted asked).toList := by
  have hasked : normalize asked ≠ ∅ := fun hnone =>
    hsome (SortedSet.eq_empty_iff.2 fun l hl => SortedSet.eq_empty_iff.1 hnone l (SortedSet.mem_sdiff.1 hl).1)
  refine Option.ext fun f => ?_
  rw [toOption_eq_some_iff, resolve_ok_iff h]
  simp only [hasked, false_and, false_or, ne_eq, not_false_eq_true, true_and]

/-- **A job goes to the first declaration that covers all it wants.** -/
theorem exists_resolve (h : r.compile.result = .ok t) (hsplit : r.declarations = before ++ d :: after)
    (hfirst : r.FirstCovers before d (r.wanted asked).toList) : ∃ f, t.resolve asked = .ok f ∧ f.name = d.name := by
  have hsome : r.wanted asked ≠ ∅ := fun hnone => hfirst.1.1 (SortedSet.toList_eq_nil.2 hnone)
  obtain ⟨f, hf, hname⟩ := (found_iff h hsplit).2 hfirst
  rw [← toOption_resolve h hsome, toOption_eq_some_iff] at hf
  exact ⟨f, hf, hname⟩

/-- **A flavor is in the table unless a single earlier one offers all that it offers.** -/
theorem appears_iff (h : r.compile.result = .ok t) (hsplit : r.declarations = before ++ d :: after)
    (hoffers : r.offered d ≠ ∅) :
    (∃ key f, t.lookup key = some f ∧ f.name = d.name) ↔ ¬ ∃ c ∈ before, r.offered d ⊆ r.offered c := by
  simp only [found_iff h hsplit]
  constructor
  · rintro ⟨key, ⟨hne, hsub⟩, hfirst⟩ ⟨c, hc, hle⟩
    exact hfirst c hc ⟨hne, hsub.trans (SortedSet.toList_sublist.2 hle)⟩
  · intro hfree
    -- all that is offered is a key, and whoever covers it offers as much
    refine ⟨(r.offered d).toList, Rules.covers_toList.2 ⟨hoffers, fun _ => id⟩, fun c hc hcovers => ?_⟩
    exact hfree ⟨c, hc, (Rules.covers_toList.1 hcovers).2⟩

/-- **The shape of a table** that is made from rules. -/
structure Table.WellShaped (r : Rules) (t : Table) : Prop where
  /-- Keys are ascending lists of labels in lower case, without ignored ones. -/
  keys : ∀ key f, t.lookup key = some f →
    key ≠ [] ∧ key.Pairwise (· < ·) ∧ ∀ l ∈ key, l.Canonical ∧ l ∉ r.ignoredSet
  /-- Nothing is found under other lists. -/
  others : ∀ key, key = [] ∨ ¬ key.Pairwise (· ≤ ·) ∨ ¬ key.Nodup ∨ (∃ l ∈ key, l ∈ r.ignoredSet) →
    t.lookup key = none
  values : ∀ key f, t.lookup key = some f → f ∈ t.flavors
  default_mem : t.default ∈ t.flavors
  names : t.flavors.map Flavor.name = r.declarations.map Declaration.name
  distinct : t.flavors.Nodup
  /-- A flavor with labels is found somewhere unless an earlier one offers them all. -/
  appears : ∀ before d after, r.declarations = before ++ d :: after → r.offered d ≠ ∅ →
    ((∃ key f, t.lookup key = some f ∧ f.name = d.name) ↔ ¬ ∃ c ∈ before, r.offered d ⊆ r.offered c)

/-- **Every compiled table is well shaped.** -/
theorem wellShaped_compiled (h : r.compile.result = .ok t) : t.WellShaped r := by
  have hkeys (key : Key) (f : Flavor) (hkey : t.lookup key = some f) :
      key ≠ [] ∧ key.Pairwise (· < ·) ∧ ∀ l ∈ key, l.Canonical ∧ l ∉ r.ignoredSet := by
    obtain ⟨s, rfl, hne, hcanonical, hignored⟩ := canonical_key h hkey
    refine ⟨fun he => hne (SortedSet.toList_eq_nil.1 he), s.ascending, fun l hl => ⟨hcanonical l hl, ?_⟩⟩
    rw [SortedSet.mem_toList, ← hignored, SortedSet.mem_sdiff, ignored_compiled h] at hl
    exact hl.2
  refine ⟨hkeys, fun key hother => ?_, fun key f hkey => ?_, (default_compiled h).2, (flavors_compiled h).1,
    (flavors_compiled h).2, fun before d after => appears_iff h⟩
  · rw [Option.eq_none_iff_forall_ne_some]
    intro f hkey
    obtain ⟨hne, hascending, hlabels⟩ := hkeys key f hkey
    rcases hother with rfl | hunsorted | hrepeated | ⟨l, hl, hignored⟩
    · exact hne rfl
    · exact hunsorted (hascending.imp Std.le_of_lt)
    · exact hrepeated (SortedSet.nodup_toList ⟨key, hascending⟩)
    · exact (hlabels l hl).2 hignored
  · obtain ⟨before, d, after, hsplit, hd, -⟩ := (lookup_eq_some_iff h).1 hkey
    rw [← Flavor.name_mem_map, (flavors_compiled h).1, hsplit, ← hd]
    exact List.mem_map_of_mem (List.mem_append_right _ List.mem_cons_self)

/-- Three flavors, the second of which offers only what the first one does, the ignored label aside. -/
def coveredFlavor : Rules :=
  { declarations := [⟨"a", ["x", "y"]⟩, ⟨"b", ["Y", "os"]⟩, ⟨"c", ["z", "y"]⟩], ignored := ["OS"] }

theorem coveredFlavor_sound : coveredFlavor.Sound :=
  .of_short (by decide) (by decide) (by decide) (by decide) (by decide)

/-- The second flavor is found nowhere, and the third is. -/
theorem wellShaped_compiled_coveredFlavor :
    ∃ t, coveredFlavor.compile.result = .ok t ∧ t.WellShaped coveredFlavor ∧
      (¬ ∃ key f, t.lookup key = some f ∧ f.name = "b") ∧ ∃ key f, t.lookup key = some f ∧ f.name = "c" := by
  obtain ⟨t, ht⟩ := Rules.exists_table_iff.2 coveredFlavor_sound
  have hshape := wellShaped_compiled ht
  refine ⟨t, ht, hshape, ?_, ?_⟩
  · rw [hshape.appears [⟨"a", ["x", "y"]⟩] ⟨"b", ["Y", "os"]⟩ [⟨"c", ["z", "y"]⟩] rfl
      (of_decide_eq_true (by cbv)), not_not]
    exact ⟨_, List.mem_singleton_self _, of_decide_eq_true (by cbv)⟩
  · rw [hshape.appears [⟨"a", ["x", "y"]⟩, ⟨"b", ["Y", "os"]⟩] ⟨"c", ["z", "y"]⟩ [] rfl
      (of_decide_eq_true (by cbv))]
    exact of_decide_eq_true (by cbv)

end RunnerDispatch.Routing
