import RunnerDispatch.Proofs.Routing.Search
import RunnerDispatch.Proofs.Routing.Words

/-!
# How many combinations a declaration gets

A declaration stands for every combination of its labels, and gets those that no earlier one stands for. What is
reported on it says how many it got and how many were taken.

* `Rules.combinations`: the combinations that any of some declarations stands for.
* `Draft.Represents.size_eq`: **a draft holds as many keys as there are combinations.**
* `Rules.Accounts`: what a report says of a declaration, told from the declarations before it.
* `Draft.Accounted`: a draft with its reports; kept by every declaration that is taken up.
* `expansion_exact`: **the reports of a table are exact**, and nothing that is counted for them is out of range.
-/

namespace RunnerDispatch.Routing

variable {r : Rules} {t : Table} {draft draft' : Draft} {ds earlier : List Declaration} {c d : Declaration}
  {key key' : Key} {s : Finset Label} {l : Label} {e : Expansion}

/-! ## Combinations -/

namespace Rules

/-- The different labels of a declaration, the ignored ones aside. -/
def labelSet (r : Rules) (d : Declaration) : Finset Label :=
  (d.labels.map Label.ofString).toFinset \ (r.ignored.map Label.ofString).toFinset

/-- **The combinations that a declaration stands for**: the non-empty sets of its labels. -/
def parts (r : Rules) (d : Declaration) : Finset (Finset Label) := (r.labelSet d).powerset.erase ∅

/-- **The combinations that any of some declarations stands for.** -/
def combinations (r : Rules) (ds : List Declaration) : Finset (Finset Label) := ds.toFinset.biUnion r.parts

theorem mem_labelSet : l ∈ r.labelSet d ↔ l ∈ r.offered d := by
  rw [labelSet, Finset.mem_sdiff, List.mem_toFinset, List.mem_toFinset, mem_offered]

theorem mem_parts : s ∈ r.parts d ↔ s ≠ ∅ ∧ s ⊆ r.labelSet d := by
  rw [parts, Finset.mem_erase, Finset.mem_powerset]

theorem mem_combinations : s ∈ r.combinations ds ↔ ∃ d ∈ ds, s ∈ r.parts d := by
  simp only [combinations, Finset.mem_biUnion, List.mem_toFinset]

theorem card_parts (r : Rules) (d : Declaration) : (r.parts d).card = 2 ^ (r.labelSet d).card - 1 := by
  rw [parts, Finset.card_erase_of_mem (Finset.empty_mem_powerset _), Finset.card_powerset]

theorem combinations_concat : r.combinations (ds ++ [d]) = r.combinations ds ∪ r.parts d := by
  ext s
  simp only [mem_combinations, Finset.mem_union, List.mem_append, List.mem_singleton, or_and_right, exists_or,
    exists_eq_left]

/-- A declaration adds the combinations that were not there. -/
theorem card_combinations_concat (r : Rules) (ds : List Declaration) (d : Declaration) :
    (r.combinations (ds ++ [d])).card = (r.combinations ds).card + (r.parts d \ r.combinations ds).card := by
  rw [combinations_concat, Finset.union_comm, ← Finset.card_sdiff_add_card, add_comm]

/-- **A declaration shares a combination with others if it shares a label with one of them.** -/
theorem inter_combinations_nonempty_iff :
    (r.parts d ∩ r.combinations ds).Nonempty ↔ ∃ c ∈ ds, ∃ l ∈ r.labelSet d, l ∈ r.labelSet c := by
  simp only [Finset.Nonempty, Finset.mem_inter, mem_combinations, mem_parts]
  constructor
  · rintro ⟨s, ⟨hne, hd⟩, c, hc, -, hsub⟩
    obtain ⟨l, hl⟩ := Finset.nonempty_iff_ne_empty.2 hne
    exact ⟨c, hc, l, hd hl, hsub hl⟩
  · rintro ⟨c, hc, l, hd, hl⟩
    have hne : ({l} : Finset Label) ≠ ∅ := Finset.singleton_ne_empty l
    exact ⟨{l}, ⟨hne, Finset.singleton_subset_iff.2 hd⟩, c, hc, hne, Finset.singleton_subset_iff.2 hl⟩

/-! ## Keys and combinations -/

/-- The labels of a key are a combination. -/
theorem Covers.toFinset_mem (h : r.Covers d key) : key.toFinset ∈ r.parts d := by
  rw [mem_parts]
  refine ⟨fun hnone => h.1 ((List.toFinset_eq_empty_iff key).1 hnone), fun l hl => ?_⟩
  rw [mem_labelSet]
  exact h.2.subset (List.mem_toFinset.1 hl)

/-- Every combination is that of a key. -/
theorem exists_covers (h : s ∈ r.parts d) : ∃ key, r.Covers d key ∧ key.toFinset = s := by
  obtain ⟨hne, hsub⟩ := mem_parts.1 h
  have hlabels : ((r.offered d).toList.filter (· ∈ s)).toFinset = s := by
    ext l
    rw [List.mem_toFinset, List.mem_filter, decide_eq_true_eq, SortedSet.mem_toList]
    exact ⟨And.right, fun hl => ⟨mem_labelSet.1 (hsub hl), hl⟩⟩
  refine ⟨_, ⟨fun hnone => hne ?_, List.filter_sublist⟩, hlabels⟩
  rw [← hlabels, hnone, List.toFinset_nil]

/-- **A key is known by its labels**, since they are in order. -/
theorem Covers.eq_of_toFinset_eq (h : r.Covers c key) (h' : r.Covers d key') (hsame : key.toFinset = key'.toFinset) :
    key = key' := by
  refine SortedSet.eq_of_ascending ((r.offered c).ascending.sublist h.2)
    ((r.offered d).ascending.sublist h'.2) fun l => ?_
  rw [← List.mem_toFinset, hsame, List.mem_toFinset]

end Rules

/-- The keys of a draft are those that are covered. -/
theorem Draft.Represents.mem_routes_iff (h : draft.Represents r ds) :
    key ∈ draft.routes ↔ ∃ d ∈ ds, r.Covers d key := by
  have hfound := congrArg Option.isSome (h.lookup key)
  rw [Option.isSome_map, Option.isSome_map] at hfound
  rw [Std.HashMap.mem_iff_isSome_getElem?, hfound, List.find?_isSome]
  simp only [decide_eq_true_eq]

/-- **A draft holds as many keys as there are combinations.** -/
theorem Draft.Represents.size_eq (h : draft.Represents r ds) : draft.routes.size = (r.combinations ds).card := by
  have himage : draft.routes.keys.toFinset.image List.toFinset = r.combinations ds := by
    ext s
    simp only [Finset.mem_image, List.mem_toFinset, Std.HashMap.mem_keys, h.mem_routes_iff, Rules.mem_combinations]
    constructor
    · rintro ⟨key, ⟨d, hd, hcovers⟩, rfl⟩
      exact ⟨d, hd, hcovers.toFinset_mem⟩
    · rintro ⟨d, hd, hs⟩
      obtain ⟨key, hcovers, rfl⟩ := Rules.exists_covers hs
      exact ⟨key, ⟨d, hd, hcovers⟩, rfl⟩
  have hinj : Set.InjOn List.toFinset (draft.routes.keys.toFinset : Set Key) := by
    intro key hkey key' hkey' hsame
    simp only [Finset.mem_coe, List.mem_toFinset, Std.HashMap.mem_keys, h.mem_routes_iff] at hkey hkey'
    obtain ⟨c, -, hc⟩ := hkey
    obtain ⟨d, -, hd⟩ := hkey'
    exact hc.eq_of_toFinset_eq hd hsame
  calc draft.routes.size
      = draft.routes.keys.length := Std.HashMap.length_keys.symm
    _ = draft.routes.keys.toFinset.card := (List.toFinset_card_of_nodup Std.HashMap.nodup_keys).symm
    _ = (draft.routes.keys.toFinset.image List.toFinset).card := (Finset.card_image_of_injOn hinj).symm
    _ = (r.combinations ds).card := by rw [himage]

/-! ## Reports -/

/-- **What a report says of a declaration**, if others precede it: it got the combinations that none of them stands
for, and the rest were taken. -/
structure Rules.Accounts (r : Rules) (earlier : List Declaration) (d : Declaration) (e : Expansion) : Prop where
  flavor : e.flavor.name = d.name
  labels : e.labels = (r.labelSet d).card
  claimed : e.claimed = (r.parts d \ r.combinations earlier).card
  shadowed : e.shadowed = (r.parts d ∩ r.combinations earlier).card

/-- **No combination is lost.** -/
theorem Rules.Accounts.claimed_add_shadowed (h : r.Accounts earlier d e) :
    e.claimed + e.shadowed = 2 ^ (r.labelSet d).card - 1 := by
  rw [h.claimed, h.shadowed, Finset.card_sdiff_add_card_inter, card_parts]

/-- **A draft with its reports**: one on each declaration, in order, and together they account for all its keys. -/
structure Draft.Accounted (r : Rules) (ds : List Declaration) (draft : Draft) : Prop extends draft.Represents r ds where
  length : draft.expansions.length = ds.length
  accounts : ∀ i d, ds[i]? = some d → ∃ e, draft.expansions[i]? = some e ∧ r.Accounts (ds.take i) d e
  sum : draft.routes.size = (draft.expansions.map Expansion.claimed).sum

theorem Draft.accounted_empty (r : Rules) : Draft.Accounted r [] {} where
  toRepresents := Draft.represents_empty r
  length := rfl
  accounts i d h := by simp at h
  sum := rfl

/-- **The report on a declaration accounts for it**, if the draft before it represents those before it. -/
theorem Draft.Represents.exists_report (h : draft.Represents r ds) (hd : r.declare draft d = .ok draft') :
    ∃ e, draft'.expansions = draft.expansions ++ [e] ∧ draft'.routes.size = draft.routes.size + e.claimed ∧
      r.Accounts ds d e := by
  have hafter := (h.declare hd).size_eq
  rw [Rules.card_combinations_concat, ← h.size_eq] at hafter
  obtain ⟨flavor, hname, -, -, rfl⟩ := Rules.declare_ok_iff.1 hd
  have hlabels : (r.offered d).size = (r.labelSet d).card := Rules.size_offered r d
  have hclaimed : (r.extend draft flavor d).routes.size - draft.routes.size =
      (r.parts d \ r.combinations ds).card := by omega
  have hall : (r.parts d \ r.combinations ds).card + (r.parts d ∩ r.combinations ds).card =
      2 ^ (r.labelSet d).card - 1 := by
    rw [Finset.card_sdiff_add_card_inter, Rules.card_parts]
  refine ⟨_, rfl, ?_, hname, hlabels, hclaimed, ?_⟩
  · rw [hafter]
    exact congrArg _ hclaimed.symm
  · show Nat.pow 2 (r.offered d).size - 1 - ((r.extend draft flavor d).routes.size - draft.routes.size) = _
    rw [hclaimed, hlabels, Nat.pow_eq]
    omega

/-- **Taking up a declaration adds a report that accounts for it.** -/
theorem Draft.Accounted.declare (h : draft.Accounted r ds) (hd : r.declare draft d = .ok draft') :
    draft'.Accounted r (ds ++ [d]) := by
  obtain ⟨e, hexpansions, hsize, he⟩ := h.toRepresents.exists_report hd
  refine ⟨h.toRepresents.declare hd, ?_, fun i c hc => ?_, ?_⟩
  · rw [hexpansions, List.length_append, List.length_append, h.length]
    rfl
  · rw [hexpansions]
    by_cases hi : i < ds.length
    · -- a declaration that was there before keeps its report and those before it
      rw [List.getElem?_append_left hi] at hc
      rw [List.getElem?_append_left (h.length ▸ hi), List.take_append_of_le_length hi.le]
      exact h.accounts i c hc
    · have hlast : i = ds.length := by
        obtain ⟨hlt, -⟩ := List.getElem?_eq_some_iff.1 hc
        rw [List.length_append, List.length_singleton] at hlt
        omega
      subst hlast
      rw [List.getElem?_concat_length, Option.some.injEq] at hc
      subst hc
      refine ⟨e, ?_, ?_⟩
      · rw [← h.length, List.getElem?_concat_length]
      · rw [List.take_left]
        exact he
  · rw [hsize, hexpansions, List.map_append, List.sum_append, ← h.sum, List.map_singleton, List.sum_singleton]

/-- The draft of all declarations accounts for them. -/
theorem accounted_declareAll (h : r.declareAll {} ds = (draft, .ok ())) : draft.Accounted r ds :=
  Rules.declareAll_induction (P := fun done draft => draft.Accounted r done) (fun _ _ _ _ hdone hd => hdone.declare hd)
    (Draft.accounted_empty r) h

/-- What is reported on a table, and its keys, are those of the draft of all declarations. -/
theorem exists_accounted (h : r.compile.result = .ok t) :
    ∃ draft : Draft, draft.Accounted r r.declarations ∧
      r.compile.expansions = draft.expansions ∧ t.routes = draft.routes := by
  obtain ⟨hlimit, hnonempty, draft, default, hall, -, rfl⟩ := Rules.compile_ok_iff.1 h
  refine ⟨draft, accounted_declareAll hall, ?_, rfl⟩
  rw [Rules.compile, if_neg (Nat.not_lt_of_le hlimit), if_neg (fun he => hnonempty (List.isEmpty_iff.1 he)), hall]

/-- The report that some combinations of a flavor were taken. -/
def shadowingReport (name : String) (shadowed : ℕ) : Log.Record :=
  ⟨.debug, .routingTable, "Label combinations already claimed by an earlier flavor",
    [("flavor", .text name), ("shadowed", .number shadowed)]⟩

/-- **That combinations were taken is reported only if there are any.** -/
theorem shadowingReport_mem_iff {name : String} {n : ℕ} :
    shadowingReport name n ∈ e.records ↔ e.flavor.name = name ∧ n = e.shadowed ∧ 0 < e.shadowed := by
  have hother (flavor labels claimed) : shadowingReport name n ≠ ⟨.debug, .routingTable, "Expanded flavor",
      [flavor, labels, claimed]⟩ := by
    simp [shadowingReport]
  rw [Expansion.records, List.mem_append, List.mem_singleton, or_iff_left (hother _ _ _)]
  by_cases hsome : 0 < e.shadowed
  · rw [if_pos hsome, List.mem_singleton]
    simp only [shadowingReport, Log.Record.mk.injEq, List.cons.injEq, Prod.mk.injEq, Log.FieldValue.text.injEq,
      Log.FieldValue.number.injEq, true_and, and_true, hsome]
    rw [eq_comm]
  · rw [if_neg hsome]
    exact iff_of_false List.not_mem_nil fun h => hsome h.2.2

/-- **Combinations of a declaration are reported as taken exactly if an earlier one offers a label of it.** -/
theorem shadowingReport_compiled_iff (h : r.compile.result = .ok t) {i : ℕ} (hd : r.declarations[i]? = some d)
    (he : r.compile.expansions[i]? = some e) (haccounts : r.Accounts (r.declarations.take i) d e) {n : ℕ} :
    shadowingReport d.name n ∈ r.compile.records ↔
      n = e.shadowed ∧ ∃ c ∈ r.declarations.take i, ∃ l ∈ r.labelSet d, l ∈ r.labelSet c := by
  rw [← Rules.inter_combinations_nonempty_iff, ← Finset.card_pos, ← haccounts.shadowed, Compilation.records,
    List.mem_flatMap]
  simp only [shadowingReport_mem_iff]
  constructor
  · rintro ⟨other, hother, hname, rfl, hsome⟩
    -- a report of that name is on that declaration, since names are not repeated
    obtain ⟨draft, hdraft, hexpansions, -⟩ := exists_accounted h
    obtain ⟨j, hj⟩ := List.mem_iff_getElem?.1 hother
    obtain ⟨hjlt, -⟩ := List.getElem?_eq_some_iff.1 hj
    rw [hexpansions, hdraft.length] at hjlt
    obtain ⟨e', he', haccounts'⟩ := hdraft.accounts j _ (List.getElem?_eq_getElem hjlt)
    rw [← hexpansions, hj] at he'
    obtain rfl := Option.some.inj he'
    have hdistinct := (Rules.exists_table_iff.1 ⟨t, h⟩).distinct
    have hsame : (r.declarations.map Declaration.name)[j]? = (r.declarations.map Declaration.name)[i]? := by
      rw [List.getElem?_map, List.getElem?_map, hd, List.getElem?_eq_getElem hjlt, Option.map_some, Option.map_some,
        ← haccounts'.flavor, hname]
    obtain rfl := (List.getElem?_inj (by rw [List.length_map]; exact hjlt) hdistinct).1 hsame
    rw [he] at hj
    obtain rfl := Option.some.inj hj
    exact ⟨rfl, hsome⟩
  · rintro ⟨rfl, hsome⟩
    exact ⟨e, List.mem_of_getElem? he, haccounts.flavor, rfl, hsome⟩

/-- **The reports of a table are exact, and nothing in them is out of range.** Whatever the rules, words compile them
to what numbers do: masks of 32 bits, and counts of more bits than a flavor may have labels. If they make a table,
there is one report on each declaration, in order. It tells how many combinations of the declaration's labels were
new and how many of them an earlier declaration stands for, together all of them; and that some were taken is said
exactly if an earlier declaration offers a label of this one. The new ones of all declarations add up to the size of
the table, which is the number of different combinations that any declaration stands for. -/
theorem expansion_exact {width : ℕ} (hwidth : labelCeiling < width) (r : Rules) :
    r.compileChecked? width = some r.compile ∧
    ∀ t, r.compile.result = .ok t →
      r.compile.expansions.length = r.declarations.length ∧
      (∀ i d, r.declarations[i]? = some d → ∃ e, r.compile.expansions[i]? = some e ∧
        r.Accounts (r.declarations.take i) d e ∧
        e.claimed + e.shadowed = 2 ^ (r.labelSet d).card - 1 ∧
        ∀ n, shadowingReport d.name n ∈ r.compile.records ↔
          n = e.shadowed ∧ ∃ c ∈ r.declarations.take i, ∃ l ∈ r.labelSet d, l ∈ r.labelSet c) ∧
      t.size = (r.compile.expansions.map Expansion.claimed).sum ∧
      t.size = (r.combinations r.declarations).card := by
  refine ⟨Rules.compileChecked?_eq hwidth r, fun t h => ?_⟩
  obtain ⟨draft, hdraft, hexpansions, hroutes⟩ := exists_accounted h
  have hsize : t.size = draft.routes.size := congrArg Std.HashMap.size hroutes
  refine ⟨by rw [hexpansions, hdraft.length], fun i d hd => ?_, ?_, ?_⟩
  · obtain ⟨e, he, haccounts⟩ := hdraft.accounts i d hd
    rw [← hexpansions] at he
    exact ⟨e, he, haccounts, haccounts.claimed_add_shadowed, fun n =>
      shadowingReport_compiled_iff h hd he haccounts⟩
  · rw [hsize, hexpansions, hdraft.sum]
  · rw [hsize, hdraft.size_eq]

/-- Of the second flavor's three combinations the first flavor has one, which is reported; of its own it has all
three. -/
theorem expansion_exact_twoFlavors :
    twoFlavors.compileChecked? 64 = some twoFlavors.compile ∧
    ∃ t, twoFlavors.compile.result = .ok t ∧ t.size = 5 ∧
      (∃ e, twoFlavors.compile.expansions[1]? = some e ∧ e.claimed = 2 ∧ e.shadowed = 1) ∧
      shadowingReport "b" 1 ∈ twoFlavors.compile.records ∧
      ∀ n, shadowingReport "a" n ∉ twoFlavors.compile.records := by
  obtain ⟨t, ht⟩ := Rules.exists_table_iff.2 twoFlavors_sound
  obtain ⟨hwords, htables⟩ := expansion_exact (show labelCeiling < 64 by decide) twoFlavors
  obtain ⟨-, hreports, -, hsize⟩ := htables t ht
  obtain ⟨first, -, -, -, hfirst⟩ := hreports 0 ⟨"a", ["X", "y"]⟩ rfl
  obtain ⟨second, he, haccounts, hall, hsecond⟩ := hreports 1 ⟨"b", ["Z", "y", "os"]⟩ rfl
  have hshadowed : second.shadowed = 1 := haccounts.shadowed.trans (by decide +kernel)
  have hlabels : (twoFlavors.labelSet ⟨"b", ["Z", "y", "os"]⟩).card = 2 := by decide +kernel
  rw [hlabels] at hall
  refine ⟨hwords, t, ht, hsize.trans (by decide +kernel), ⟨second, he, by omega, hshadowed⟩,
    (hsecond 1).2 ⟨hshadowed.symm, by decide +kernel⟩, fun n hn => ?_⟩
  obtain ⟨-, c, hc, -⟩ := (hfirst n).1 hn
  exact absurd hc List.not_mem_nil

end RunnerDispatch.Routing
