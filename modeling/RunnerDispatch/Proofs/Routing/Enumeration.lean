import RunnerDispatch.Proofs.Routing.Words

/-!
# The combinations of a list, each once

A mask stands for the elements at the places of its bits. Where no element is repeated, the elements tell the
mask, so that no combination is enumerated twice.

* `select_inj`: **different masks select different combinations.**
* `nodup_nonEmptySublists`: so the enumeration repeats nothing.
* `enumeration_exact`: **the non-empty parts of an ascending list, each once, and nothing else**, all with masks
  that fit into a word.
-/

namespace RunnerDispatch.Routing

section

variable {α : Type} {a : α} {as : List α}

/-- An element that stands in front only is selected by the lowest bit. -/
theorem mem_select_cons_iff (hfresh : a ∉ as) (mask : ℕ) : a ∈ select mask (a :: as).zipIdx ↔ mask % 2 = 1 := by
  have hnot : a ∉ select (mask / 2) as.zipIdx := fun h => hfresh ((select_sublist _ as).subset h)
  rw [select_cons]
  by_cases hlow : mask % 2 = 1
  · simp [hlow]
  · simp [hlow, hnot]

/-- **Different masks select different combinations**, if no element is repeated. -/
theorem select_inj (hnodup : as.Nodup) {m m' : ℕ} (hm : m < 2 ^ as.length) (hm' : m' < 2 ^ as.length)
    (hsame : select m as.zipIdx = select m' as.zipIdx) : m = m' := by
  induction as generalizing m m' with
  | nil =>
    rw [List.length_nil] at hm hm'
    omega
  | cons a as ih =>
    obtain ⟨hfresh, hnodup⟩ := List.nodup_cons.1 hnodup
    rw [List.length_cons, Nat.pow_succ] at hm hm'
    -- the first element tells the lowest bit
    have hlow : m % 2 = 1 ↔ m' % 2 = 1 := by
      rw [← mem_select_cons_iff hfresh m, hsame, mem_select_cons_iff hfresh m']
    -- and what is selected of the rest tells the other bits
    have hrest : select (m / 2) as.zipIdx = select (m' / 2) as.zipIdx := by
      rw [select_cons, select_cons] at hsame
      by_cases h : m % 2 = 1
      · rw [if_pos h, if_pos (hlow.1 h)] at hsame
        exact (List.cons.inj hsame).2
      · rw [if_neg h, if_neg fun h' => h (hlow.2 h')] at hsame
        exact hsame
    have hhalf : m / 2 = m' / 2 := ih hnodup (by omega) (by omega) hrest
    omega

/-- **No combination is enumerated twice.** -/
theorem nodup_nonEmptySublists (hnodup : as.Nodup) : (nonEmptySublists as).Nodup := by
  have hpos : 0 < 2 ^ as.length := Nat.two_pow_pos as.length
  unfold nonEmptySublists
  apply List.Nodup.map_on
  · intro m hm m' hm' hsame
    rw [List.mem_range'_1, Nat.pow_eq] at hm hm'
    exact select_inj hnodup (by omega) (by omega) hsame
  · exact List.nodup_range'

end

/-- **The non-empty parts of an ascending list of labels, each once, and nothing else.** If the list is no longer
than a flavor may have labels, all masks and their bits fit into 32 bits; with `n` labels there are `2 ^ n - 1`
keys, no two of them equal; each is ascending itself and a part of the list that is not empty; and every such part
is there. -/
theorem enumeration_exact {labels : List Label} (hascending : labels.Pairwise (· < ·))
    (hfew : labels.length ≤ labelCeiling) :
    ∃ keys, sublistsChecked? labels = some keys ∧ nonEmptySublists labels = keys ∧
      keys.length = 2 ^ labels.length - 1 ∧ keys.Nodup ∧
      (∀ key ∈ keys, key ≠ [] ∧ key.Sublist labels ∧ key.Pairwise (· < ·)) ∧
      ∀ key : List Label, key ≠ [] → key.Sublist labels → key ∈ keys := by
  have hword : labels.length < 32 := hfew.trans_lt (by decide)
  have hnodup : labels.Nodup := SortedSet.nodup_toList ⟨labels, hascending⟩
  refine ⟨nonEmptySublists labels, sublistsChecked?_eq hword, rfl, length_nonEmptySublists labels,
    nodup_nonEmptySublists hnodup, ?_, ?_⟩
  · intro key hkey
    obtain ⟨hne, hsub⟩ := mem_nonEmptySublists.1 hkey
    exact ⟨hne, hsub, hascending.sublist hsub⟩
  · intro key hne hsub
    exact mem_nonEmptySublists.2 ⟨hne, hsub⟩

/-- Two labels have three combinations, among them the second alone. -/
theorem enumeration_exact_twoLabels :
    let labels : List Label := [⟨"arm64"⟩, ⟨"large"⟩]
    labels.Pairwise (· < ·) ∧ labels.length ≤ labelCeiling ∧
      ∃ keys, sublistsChecked? labels = some keys ∧ keys.length = 3 ∧ keys.Nodup ∧ [⟨"large"⟩] ∈ keys := by
  intro labels
  have hascending : labels.Pairwise (· < ·) := by decide
  have hfew : labels.length ≤ labelCeiling := by decide
  obtain ⟨keys, hwords, -, hlength, hnodup, -, hall⟩ := enumeration_exact hascending hfew
  exact ⟨hascending, hfew, keys, hwords, hlength, hnodup, hall _ (by decide) (by decide)⟩

end RunnerDispatch.Routing
