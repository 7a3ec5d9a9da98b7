import RunnerDispatch.Proofs.Routing.Shape

/-!
# Asking for less

Who offers all that a job asks for also offers a part of it. So a job that asks for less is not refused where it
was not refused before, though an earlier flavor may take it. Ignored labels are no part of what is asked for.

* `Rules.NoLater`: two flavors in the order of their declarations.
* `exists_noLater`: **what a declaration covers is found**, under its own flavor or under an earlier one.
* `resolve_fewer`: asking for less loses no route, and ignored labels change none.
-/

namespace RunnerDispatch.Routing

variable {r : Rules} {t : Table} {key : Key} {f : Flavor} {asked fewer : List String}
  {before after : List Declaration} {d : Declaration}

/-- Two flavors are declared, the first of them no later than the second. -/
def Rules.NoLater (r : Rules) (f g : Flavor) : Prop :=
  ∃ i j : ℕ, i ≤ j ∧ r.declarations[i]?.map Declaration.name = some f.name ∧
    r.declarations[j]?.map Declaration.name = some g.name

/-- **What a declaration covers is found**, under its own flavor or under an earlier one. -/
theorem exists_noLater (h : r.compile.result = .ok t) (hsplit : r.declarations = before ++ d :: after)
    (hname : d.name = f.name) (hcovers : r.Covers d key) : ∃ g, t.lookup key = some g ∧ r.NoLater g f := by
  have hd : d ∈ before ++ [d] := List.mem_append_right _ (List.mem_singleton_self d)
  -- the key goes to the first that covers it, and that is found without looking past this declaration
  cases hfind : (before ++ [d]).find? fun c => decide (r.Covers c key) with
  | none => exact absurd (decide_eq_true hcovers) (List.find?_eq_none.1 hfind d hd)
  | some c =>
    obtain ⟨hc, earlier, between, hfirst, hnone⟩ := List.find?_eq_some_iff_append.1 hfind
    have hall : r.declarations = earlier ++ c :: (between ++ after) := by
      rw [← List.cons_append, ← List.append_assoc, ← hfirst, hsplit, List.append_assoc, List.singleton_append]
    obtain ⟨g, hg, hgc⟩ := (found_iff h hall).2 ⟨of_decide_eq_true hc, fun b hb => by simpa using hnone b hb⟩
    have hle : earlier.length ≤ before.length := by
      have hlength := congrArg List.length hfirst
      simp only [List.length_append, List.length_cons, List.length_nil] at hlength
      omega
    refine ⟨g, hg, earlier.length, before.length, hle, ?_, ?_⟩
    · simp [hall, hgc]
    · simp [hsplit, hname]

/-- Ignored labels do not count, wherever they stand. -/
theorem wanted_append_ignored {idle : List String} (hidle : ∀ text ∈ idle, Label.ofString text ∈ r.ignoredSet) :
    r.wanted (asked ++ idle) = r.wanted asked := by
  refine SortedSet.ext fun l => ?_
  simp only [Rules.wanted, SortedSet.mem_sdiff, LabelSet.mem_normalize, List.mem_append]
  constructor
  · rintro ⟨⟨text, htext | htext, rfl⟩, hcounts⟩
    · exact ⟨⟨text, htext, rfl⟩, hcounts⟩
    · exact absurd (hidle text htext) hcounts
  · rintro ⟨⟨text, htext, rfl⟩, hcounts⟩
    exact ⟨⟨text, .inl htext, rfl⟩, hcounts⟩

/-- **Asking for less loses no route.** If a job asks for something that counts, and another one for all of that
and more, then the first resolves if the second does, to a flavor that is declared no later. If what counts is the
same, both resolve to one flavor or neither does; and ignored labels do not count. -/
theorem resolve_fewer (h : r.compile.result = .ok t) (hsome : r.wanted fewer ≠ ∅)
    (hfewer : r.wanted fewer ⊆ r.wanted asked) :
    (∀ f, t.resolve asked = .ok f → ∃ g, t.resolve fewer = .ok g ∧ r.NoLater g f) ∧
    (r.wanted fewer = r.wanted asked → (t.resolve fewer).toOption = (t.resolve asked).toOption) ∧
    (∀ idle : List String, (∀ text ∈ idle, Label.ofString text ∈ r.ignoredSet) →
      (t.resolve (fewer ++ idle)).toOption = (t.resolve fewer).toOption) := by
  have hall : r.wanted asked ≠ ∅ := fun hnone =>
    hsome (SortedSet.eq_empty_iff.2 fun l hl => SortedSet.eq_empty_iff.1 hnone l (hfewer l hl))
  refine ⟨fun f hf => ?_, fun hsame => ?_, fun idle hidle => ?_⟩
  · have hlookup : t.lookup (r.wanted asked).toList = some f := by
      rw [← toOption_resolve h hall, hf]
      rfl
    obtain ⟨before, d, after, hsplit, hd, hcovers, -⟩ := (lookup_eq_some_iff h).1 hlookup
    have hpart : r.Covers d (r.wanted fewer).toList :=
      Rules.covers_toList.2 ⟨hsome, fun l hl => (Rules.covers_toList.1 hcovers).2 l (hfewer l hl)⟩
    obtain ⟨g, hg, horder⟩ := exists_noLater h hsplit hd hpart
    rw [← toOption_resolve h hsome, toOption_eq_some_iff] at hg
    exact ⟨g, hg, horder⟩
  · rw [toOption_resolve h hsome, toOption_resolve h hall, hsame]
  · have hsame : r.wanted (fewer ++ idle) = r.wanted fewer := wanted_append_ignored hidle
    rw [toOption_resolve h (hsame ▸ hsome), toOption_resolve h hsome, hsame]

/-- A job of the second flavor drops the label that only this flavor has, and then the ignored one too. -/
theorem resolve_fewer_twoFlavors :
    ∃ t f, twoFlavors.compile.result = .ok t ∧ t.resolve ["Y", "Os", "z", "y"] = .ok f ∧ f.name = "b" ∧
      (∃ g, t.resolve ["Y", "Os"] = .ok g ∧ twoFlavors.NoLater g f) ∧
      (t.resolve ["Y", "Os"]).toOption = (t.resolve ["y"]).toOption ∧
      (t.resolve ["Y", "Os", "OS"]).toOption = (t.resolve ["Y", "Os"]).toOption := by
  obtain ⟨t, ht⟩ := Rules.exists_table_iff.2 twoFlavors_sound
  have hfirst : twoFlavors.FirstCovers [⟨"a", ["X", "y"]⟩] ⟨"b", ["Z", "y", "os"]⟩
      (twoFlavors.wanted ["Y", "Os", "z", "y"]).toList := of_decide_eq_true (by cbv)
  obtain ⟨f, hf, hname⟩ := exists_resolve ht rfl hfirst
  have hsome : twoFlavors.wanted ["Y", "Os"] ≠ ∅ := of_decide_eq_true (by cbv)
  have hpart : twoFlavors.wanted ["Y", "Os"] ⊆ twoFlavors.wanted ["Y", "Os", "z", "y"] := of_decide_eq_true (by cbv)
  have hsame : twoFlavors.wanted ["Y", "Os"] = twoFlavors.wanted ["y"] := of_decide_eq_true (by cbv)
  obtain ⟨hfewer, -, hidle⟩ := resolve_fewer ht hsome hpart
  obtain ⟨-, hequal, -⟩ := resolve_fewer ht hsome fun l hl => hsame ▸ hl
  exact ⟨t, f, ht, hf, hname, hfewer f hf, hequal hsame, hidle ["OS"] (of_decide_eq_true (by cbv))⟩

end RunnerDispatch.Routing
