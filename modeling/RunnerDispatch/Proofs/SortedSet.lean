import Mathlib
import RunnerDispatch.SortedSet

/-!
# Sorted sets by inclusion

* `toList_sublist`: **a set is included in another exactly if its list is a sublist of the other's.**
* `size_eq_card`: a set has as many elements as its list has different ones.
-/

namespace RunnerDispatch.SortedSet

variable {α : Type} [LT α]

instance : HasSubset (SortedSet α) := ⟨fun s t => ∀ a, a ∈ s → a ∈ t⟩

instance [DecidableEq α] (s t : SortedSet α) : Decidable (s ⊆ t) :=
  inferInstanceAs (Decidable (∀ a, a ∈ s.toList → a ∈ t.toList))

theorem isEmpty_iff {s : SortedSet α} : s.isEmpty = true ↔ s = ∅ := by
  obtain ⟨as, h⟩ := s
  show as.isEmpty = true ↔ (⟨as, h⟩ : SortedSet α) = ⟨[], .nil⟩
  rw [List.isEmpty_iff, SortedSet.mk.injEq]

theorem toList_eq_nil {s : SortedSet α} : s.toList = [] ↔ s = ∅ := by
  rw [← isEmpty_iff, isEmpty, List.isEmpty_iff]

theorem eq_empty_iff {s : SortedSet α} : s = ∅ ↔ ∀ a, a ∉ s := by
  rw [← toList_eq_nil, List.eq_nil_iff_forall_not_mem]
  rfl

variable [LE α] [DecidableEq α] [Std.IsLinearOrder α] [Std.LawfulOrderLT α]

omit [DecidableEq α] [Std.IsLinearOrder α] in
theorem nodup_toList (s : SortedSet α) : s.toList.Nodup := by
  refine s.ascending.imp fun hlt => ?_
  rintro rfl
  exact Std.lt_irrefl hlt

omit [Std.IsLinearOrder α] in
theorem size_eq_card (s : SortedSet α) : s.size = s.toList.toFinset.card :=
  (List.toFinset_card_of_nodup s.nodup_toList).symm

/-- **Inclusion of sets is inclusion of their lists**, order and all. -/
theorem toList_sublist {s t : SortedSet α} : s.toList.Sublist t.toList ↔ s ⊆ t := by
  constructor
  · intro h a ha
    exact h.subset ha
  · intro h
    -- the smaller set is what the larger one keeps of it
    have hs : s.toList = t.toList.filter (· ∈ s) := by
      refine eq_of_ascending s.ascending (t.ascending.filter _) fun a => ?_
      rw [List.mem_filter, mem_toList, mem_toList, decide_eq_true_eq]
      exact ⟨fun ha => ⟨h a ha, ha⟩, fun ha => ha.2⟩
    rw [hs]
    exact List.filter_sublist

end RunnerDispatch.SortedSet
