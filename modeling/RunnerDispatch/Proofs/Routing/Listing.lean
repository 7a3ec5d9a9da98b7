import RunnerDispatch.Proofs.Routing.Shape

/-!
# The listing of a table

A table is kept by keys, in no order that means anything, and is listed for people in an order that does: the
flavors as they are declared, and for each of them the combinations of few labels first.

* `Rules.Before`: the order of the listing, as a relation between entries.
* `Table.arrange`: the listing of entries that are met in some order.
* `arrange_pairwise`: **listed entries are in strictly increasing order**, since no two of them have one key.
* `listing_complete`: a listing holds what is found by look-up and nothing else, each key once, in an order that
  does not depend on how the table is kept.
-/

namespace RunnerDispatch.Routing

variable {r : Rules} {t : Table} {key : Key} {f : Flavor} {entries : List (Key × Flavor)}

/-- The place of a flavor among the declarations. -/
def Rules.rank (r : Rules) (f : Flavor) : ℕ := (r.declarations.map Declaration.name).idxOf f.name

/-- **The order of the listing**: the flavor that is declared first, then the fewest labels, then the labels. -/
def Rules.Before (r : Rules) (a b : Key × Flavor) : Prop :=
  r.rank a.2 < r.rank b.2 ∨ r.rank a.2 = r.rank b.2 ∧
    (a.1.length < b.1.length ∨ a.1.length = b.1.length ∧ a.1 < b.1)

theorem Rules.Before.asymm {a b : Key × Flavor} (h : r.Before a b) : ¬ r.Before b a := by
  rintro (hrank | ⟨hrank, hlength | ⟨hlength, hkey⟩⟩)
  all_goals rcases h with hrank' | ⟨hrank', hlength' | ⟨hlength', hkey'⟩⟩
  case inr.inr.inr.inr => exact List.lt_asymm hkey hkey'
  all_goals omega

/-! ## Entries in order -/

namespace Table

theorem Entry.precedes_iff {a b : Entry} : a.precedes b = true ↔ a.rank < b.rank ∨ a.rank = b.rank ∧
    (a.key.length < b.key.length ∨ a.key.length = b.key.length ∧ a.key ≤ b.key) := by
  simp [Entry.precedes]

theorem Entry.precedes_trans (a b c : Entry) (hab : a.precedes b = true) (hbc : b.precedes c = true) :
    a.precedes c = true := by
  rw [precedes_iff] at hab hbc ⊢
  rcases hab with hrank | ⟨hrank, hlength | ⟨hlength, hkey⟩⟩
  all_goals rcases hbc with hrank' | ⟨hrank', hlength' | ⟨hlength', hkey'⟩⟩
  case inr.inr.inr.inr =>
    exact .inr ⟨hrank.trans hrank', .inr ⟨hlength.trans hlength', Std.le_trans hkey hkey'⟩⟩
  all_goals omega

theorem Entry.precedes_total (a b : Entry) : (a.precedes b || b.precedes a) = true := by
  rw [Bool.or_eq_true, precedes_iff, precedes_iff]
  rcases Std.le_total (a := a.key) (b := b.key) with hkey | hkey
  all_goals simp only [hkey, and_true]; omega

/-- The entry of a key with its flavor. -/
def entryOf (t : Table) (e : Key × Flavor) : Entry := ⟨t.flavors.idxOf e.2, e.1, e.2⟩

/-- The listing of entries that are met in some order. -/
def arrange (t : Table) (entries : List (Key × Flavor)) : List (Key × Flavor) :=
  ((entries.map t.entryOf).mergeSort Entry.precedes).map fun e => (e.key, e.flavor)

theorem listing_eq_arrange (t : Table) : t.listing = t.arrange t.routes.toList := rfl

/-- Nothing is added to the entries, and nothing left out. -/
theorem arrange_perm (t : Table) (entries : List (Key × Flavor)) : (t.arrange entries).Perm entries := by
  have hback : ((entries.map t.entryOf).map fun e => (e.key, e.flavor)) = entries := by
    rw [List.map_map]
    exact List.map_id entries
  exact ((List.mergeSort_perm _ _).map _).trans (.of_eq hback)

/-- An entry is listed exactly if it is found by look-up. -/
theorem mem_listing : (key, f) ∈ t.listing ↔ t.lookup key = some f := by
  rw [listing_eq_arrange, (t.arrange_perm _).mem_iff, Std.HashMap.mem_toList_iff_getElem?_eq_some]
  rfl

/-- However the table is met, no key is met twice. -/
theorem nodup_keys_of_perm (h : entries.Perm t.routes.toList) : (entries.map Prod.fst).Nodup := by
  rw [(h.map Prod.fst).nodup_iff, Std.HashMap.map_fst_toList_eq_keys]
  exact Std.HashMap.nodup_keys

end Table

/-- A flavor has the place of its name. -/
theorem idxOf_map_name (fs : List Flavor) (f : Flavor) : (fs.map Flavor.name).idxOf f.name = fs.idxOf f := by
  induction fs with
  | nil => rfl
  | cons g fs ih =>
    have hsame : (g.name == f.name) = (g == f) := by
      rw [Bool.eq_iff_iff, beq_iff_eq, beq_iff_eq, Flavor.name_inj]
    rw [List.map_cons, List.idxOf_cons, List.idxOf_cons, ih, hsame]

/-- A flavor has the same place in the table as among the declarations. -/
theorem idxOf_flavors (h : r.compile.result = .ok t) (f : Flavor) : t.flavors.idxOf f = r.rank f := by
  rw [Rules.rank, ← (flavors_compiled h).1, idxOf_map_name]

/-- **Listed entries are in strictly increasing order**: those of one flavor and one length differ in their keys. -/
theorem arrange_pairwise (h : r.compile.result = .ok t) (hentries : entries.Perm t.routes.toList) :
    (t.arrange entries).Pairwise r.Before := by
  have hdistinct : ((t.arrange entries).map Prod.fst).Nodup :=
    Table.nodup_keys_of_perm ((t.arrange_perm entries).trans hentries)
  rw [Table.arrange, List.map_map, List.Nodup, List.pairwise_map] at hdistinct
  have hsorted := List.pairwise_mergeSort Table.Entry.precedes_trans Table.Entry.precedes_total (entries.map t.entryOf)
  rw [Table.arrange, List.pairwise_map]
  refine (hsorted.and hdistinct).imp_of_mem fun {a b} ha hb hab => ?_
  obtain ⟨hprecedes, hkey⟩ := hab
  -- the rank that an entry is sorted by is that of its flavor
  have hrank {e : Table.Entry} (he : e ∈ (entries.map t.entryOf).mergeSort Table.Entry.precedes) :
      e.rank = r.rank e.flavor := by
    rw [List.mem_mergeSort, List.mem_map] at he
    obtain ⟨pair, -, rfl⟩ := he
    exact idxOf_flavors h pair.2
  rw [Table.Entry.precedes_iff, hrank ha, hrank hb] at hprecedes
  refine hprecedes.imp_right fun ⟨hsame, hrest⟩ => ⟨hsame, hrest.imp_right fun ⟨hlength, hle⟩ => ⟨hlength, ?_⟩⟩
  exact Std.lt_of_le_of_ne hle hkey

/-- **A listing is complete, in order, and true.** It holds the entries that are found by look-up and no others, no
key twice, in strictly increasing order of the flavor's place among the declarations, the number of labels and the
labels; so that it is the same in whatever order the table yields its entries. What is listed under a key is the
answer to a job that asks for just these labels. And if a job that asks for anything that counts has an answer, then
that is listed under the labels that count. -/
theorem listing_complete (h : r.compile.result = .ok t) :
    (∀ key f, (key, f) ∈ t.listing ↔ t.lookup key = some f) ∧
    (t.listing.map Prod.fst).Nodup ∧
    t.listing.Pairwise r.Before ∧
    (∀ entries, entries.Perm t.routes.toList → t.arrange entries = t.listing) ∧
    (∀ key f, (key, f) ∈ t.listing → t.resolve (key.map Label.text) = .ok f) ∧
    ∀ asked f, r.wanted asked ≠ ∅ → t.resolve asked = .ok f → ((r.wanted asked).toList, f) ∈ t.listing := by
  have hlisting : t.listing.Perm t.routes.toList := t.arrange_perm _
  have hpairwise : t.listing.Pairwise r.Before := arrange_pairwise h (List.Perm.refl _)
  refine ⟨fun _ _ => Table.mem_listing, Table.nodup_keys_of_perm hlisting, hpairwise, fun entries hentries => ?_,
    fun key f hlisted => (resolve_key h (Table.mem_listing.1 hlisted)).2, fun asked f hsome hf => ?_⟩
  · -- two arrangements of the same entries in one strict order are equal
    have hperm : (t.arrange entries).Perm t.listing := (t.arrange_perm entries).trans (hentries.trans hlisting.symm)
    exact hperm.eq_of_pairwise (fun a b _ _ hab hba => absurd hba hab.asymm) (arrange_pairwise h hentries) hpairwise
  · rw [Table.mem_listing, ← toOption_resolve h hsome, hf]
    rfl

/-- The shared label is listed under the first flavor, and under that only; with a label of its own it is listed
under the second. -/
theorem listing_complete_twoFlavors :
    ∃ t a b, twoFlavors.compile.result = .ok t ∧ a.name = "a" ∧ b.name = "b" ∧ t.listing.Pairwise twoFlavors.Before ∧
      ([⟨"y"⟩], a) ∈ t.listing ∧ ([⟨"y"⟩], b) ∉ t.listing ∧ ([⟨"y"⟩, ⟨"z"⟩], b) ∈ t.listing := by
  obtain ⟨t, ht⟩ := Rules.exists_table_iff.2 twoFlavors_sound
  obtain ⟨hfound, -, hordered, -, -, hlisted⟩ := listing_complete ht
  have hone : (twoFlavors.wanted ["Y", "Os"]).toList = [⟨"y"⟩] := by cbv
  have hboth : (twoFlavors.wanted ["z", "Y"]).toList = [⟨"y"⟩, ⟨"z"⟩] := by cbv
  have hfirst : twoFlavors.FirstCovers [] ⟨"a", ["X", "y"]⟩ (twoFlavors.wanted ["Y", "Os"]).toList :=
    of_decide_eq_true (by cbv)
  have hsecond : twoFlavors.FirstCovers [⟨"a", ["X", "y"]⟩] ⟨"b", ["Z", "y", "os"]⟩
      (twoFlavors.wanted ["z", "Y"]).toList := of_decide_eq_true (by cbv)
  obtain ⟨a, ha, hnameA⟩ := exists_resolve ht rfl hfirst
  obtain ⟨b, hb, hnameB⟩ := exists_resolve ht rfl hsecond
  have hlistedA := hlisted _ a (of_decide_eq_true (by cbv)) ha
  have hlistedB := hlisted _ b (of_decide_eq_true (by cbv)) hb
  rw [hone] at hlistedA
  rw [hboth] at hlistedB
  refine ⟨t, a, b, ht, hnameA, hnameB, hordered, hlistedA, fun hother => ?_, hlistedB⟩
  -- one key has one flavor, and the two flavors have two names
  have hsame : some a = some b := ((hfound _ a).1 hlistedA).symm.trans ((hfound _ b).1 hother)
  obtain rfl := Option.some.inj hsame
  exact absurd (hnameA.symm.trans hnameB) (by decide)

end RunnerDispatch.Routing
