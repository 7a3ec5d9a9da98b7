import RunnerDispatch.Proofs.Routing.Compilation

/-!
# A table answers like a search

A table holds an entry for every key of every declaration. What it answers can be said without it: go
through the declarations in order, and take the first that offers all that is asked.

* `Rules.search`: that search, on the declarations as they are written.
* `resolve_eq_search`: **a compiled table answers what the search answers**, whatever is asked.
-/

namespace RunnerDispatch.Routing

namespace Rules

/-- The name of the flavor for jobs that ask for nothing. -/
def defaultName? (r : Rules) : Option String :=
  r.default.or (r.declarations.head?.map Declaration.name)

/-- The first declaration that offers all labels of a set. -/
def firstOffering? (r : Rules) (wanted : LabelSet) : Option Declaration :=
  r.declarations.find? fun d => decide (wanted ⊆ r.offered d)

/-- **The answer of a search.** Who asks for nothing gets the default flavor; who asks for ignored labels
only, or for what no single declaration offers, gets none. -/
def search (r : Rules) (asked : List String) : Except NoMatch String :=
  let labels := LabelSet.normalize asked
  let wanted := labels \ r.ignoredSet
  let found :=
    if labels = ∅ then r.defaultName?
    else if wanted = ∅ then none
    else (r.firstOffering? wanted).map Declaration.name
  match found with
  | some name => .ok name
  | none => .error ⟨labels⟩

end Rules

/-- **A compiled table answers what the search answers**: the same flavor, or the same labels that no
flavor offers. -/
theorem resolve_eq_search {r : Rules} {t : Table} (h : r.compile.result = .ok t)
    (asked : List String) : (t.resolve asked).map Flavor.name = r.search asked := by
  obtain ⟨-, -, draft, default, hall, hdefault, rfl⟩ := Rules.compile_ok_iff.1 h
  have hrep := represents_declareAll hall
  have hhead : draft.flavors.head?.map Flavor.name = r.declarations.head?.map Declaration.name := by
    rw [← List.head?_map, hrep.names, List.head?_map]
  have hname : r.defaultName? = some default.name := by
    rw [Rules.defaultName?, ← hhead]
    exact (Rules.defaultAmong_ok_iff.1 hdefault).2
  unfold Table.resolve Rules.search
  simp only
  generalize LabelSet.normalize asked = labels
  by_cases hnone : labels = ∅
  · rw [if_pos (SortedSet.isEmpty_iff.2 hnone), if_pos hnone, hname]
    rfl
  rw [if_neg (fun he => hnone (SortedSet.isEmpty_iff.1 he)), if_neg hnone]
  by_cases hwanted : labels \ r.ignoredSet = ∅
  · rw [if_pos (by rw [SortedSet.toList_eq_nil.2 hwanted]; rfl), if_pos hwanted]
    rfl
  rw [if_neg (by rw [List.isEmpty_iff, SortedSet.toList_eq_nil]; exact hwanted), if_neg hwanted]
  -- on a set that is not empty, covering is offering
  have hfind : r.firstOffering? (labels \ r.ignoredSet) =
      r.declarations.find? fun d => decide (r.Covers d (labels \ r.ignoredSet).toList) := by
    simp only [Rules.firstOffering?, Rules.covers_toList, ne_eq, hwanted, not_false_eq_true, true_and]
  rw [hfind, ← hrep.lookup, Table.lookup]
  cases draft.routes[(labels \ r.ignoredSet).toList]? <;> rfl

/-- Two flavors that share a label, and a label that carries no meaning. -/
def twoFlavors : Rules :=
  { declarations := [⟨"a", ["X", "y"]⟩, ⟨"b", ["Z", "y", "os"]⟩], ignored := ["OS"] }

theorem twoFlavors_sound : twoFlavors.Sound where
  limit_le := by decide
  nonempty := by decide
  declared := by
    rintro d hd
    simp only [twoFlavors, List.mem_cons, List.not_mem_nil, or_false] at hd
    rcases hd with rfl | rfl <;> exact ⟨by decide, by cbv⟩
  distinct := by decide
  default_mem := by simp [twoFlavors]

/-- The shared label goes to the first of the two flavors, more of the second's labels go to the second,
and labels of both have no route, the ignored one being named among them. -/
theorem resolve_eq_search_twoFlavors :
    ∃ t, twoFlavors.compile.result = .ok t ∧
      (t.resolve ["Y", "Os"]).map Flavor.name = .ok "a" ∧
      (t.resolve ["Y", "Os", "z", "y"]).map Flavor.name = .ok "b" ∧
      (t.resolve ["x", "OS", "z"]).map Flavor.name =
        .error ⟨LabelSet.normalize ["os", "x", "z"]⟩ := by
  obtain ⟨t, ht⟩ := Rules.exists_table_iff.2 twoFlavors_sound
  refine ⟨t, ht, ?_, ?_, ?_⟩ <;> rw [resolve_eq_search ht] <;> cbv

end RunnerDispatch.Routing
