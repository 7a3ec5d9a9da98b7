import RunnerDispatch.Proofs.SortedSet
import RunnerDispatch.Routing.Compile

/-!
# What a declaration covers

A declaration stands for every non-empty part of the labels it offers, and gets the parts that no
earlier declaration stands for.

* `select_cons`: what a mask selects, element by element.
* `mem_nonEmptySublists`: the keys of a list are its non-empty sublists, and no others.
* `Rules.covers_toList`: **a set is a key of a declaration exactly if it is not empty and all of it is
  offered.**
* `getElem?_claim`: claiming keys leaves the ones that are taken to their flavors.
-/

namespace RunnerDispatch.Routing

section

variable {α : Type}

/-- With all places moved up by one a mask selects what its half does. -/
theorem select_zipIdx_succ (mask start : ℕ) (as : List α) :
    select mask (as.zipIdx (start + 1)) = select (mask / 2) (as.zipIdx start) := by
  rw [List.zipIdx_succ, select, select, List.filterMap_map]
  refine List.filterMap_congr fun p _ => ?_
  simp only [Function.comp_apply, Nat.testBit_succ]

/-- **The lowest bit decides on the first element**, and the others on the rest. -/
theorem select_cons (mask : ℕ) (a : α) (as : List α) : select mask (a :: as).zipIdx =
    if mask % 2 = 1 then a :: select (mask / 2) as.zipIdx else select (mask / 2) as.zipIdx := by
  rw [List.zipIdx_cons, ← select_zipIdx_succ, select, select, List.filterMap_cons]
  by_cases hfirst : mask % 2 = 1 <;> simp [hfirst, Nat.testBit_zero]

theorem select_zero (placed : List (α × ℕ)) : select 0 placed = [] := by
  simp [select]

theorem select_sublist (mask : ℕ) (as : List α) : (select mask as.zipIdx).Sublist as := by
  induction as generalizing mask with
  | nil => exact List.Sublist.refl []
  | cons a as ih =>
    rw [select_cons]
    split
    · exact (ih (mask / 2)).cons_cons a
    · exact (ih (mask / 2)).cons a

/-- A mask that has a bit for some element selects one. -/
theorem select_ne_nil {mask : ℕ} {as : List α} (hsome : mask ≠ 0) (hfits : mask < 2 ^ as.length) :
    select mask as.zipIdx ≠ [] := by
  induction as generalizing mask with
  | nil =>
    rw [List.length_nil] at hfits
    omega
  | cons a as ih =>
    rw [List.length_cons, Nat.pow_succ] at hfits
    rw [select_cons]
    split
    · exact List.cons_ne_nil _ _
    · exact ih (by omega) (by omega)

/-- Every sublist is selected by some mask. -/
theorem exists_select {as bs : List α} (h : bs.Sublist as) :
    ∃ mask < 2 ^ as.length, select mask as.zipIdx = bs := by
  induction h with
  | slnil => exact ⟨0, Nat.one_pos, rfl⟩
  | @cons bs as a _ ih =>
    obtain ⟨mask, hfits, hmask⟩ := ih
    refine ⟨2 * mask, by rw [List.length_cons, Nat.pow_succ]; omega, ?_⟩
    rw [select_cons, if_neg (by omega), Nat.mul_div_cancel_left mask Nat.two_pos, hmask]
  | @cons_cons bs as a _ ih =>
    obtain ⟨mask, hfits, hmask⟩ := ih
    refine ⟨2 * mask + 1, by rw [List.length_cons, Nat.pow_succ]; omega, ?_⟩
    rw [select_cons, if_pos (by omega), show (2 * mask + 1) / 2 = mask by omega, hmask]

/-- **The keys of a list are its non-empty sublists.** -/
theorem mem_nonEmptySublists {as bs : List α} :
    bs ∈ nonEmptySublists as ↔ bs ≠ [] ∧ bs.Sublist as := by
  have hmasks (mask : ℕ) : mask ∈ List.range' 1 (Nat.pow 2 as.length - 1) ↔ mask ≠ 0 ∧ mask < 2 ^ as.length := by
    have hpos : 0 < 2 ^ as.length := Nat.two_pow_pos as.length
    rw [List.mem_range'_1, Nat.pow_eq]
    omega
  simp only [nonEmptySublists, List.mem_map, hmasks]
  constructor
  · rintro ⟨mask, ⟨hsome, hfits⟩, rfl⟩
    exact ⟨select_ne_nil hsome hfits, select_sublist mask as⟩
  · rintro ⟨hne, hsub⟩
    obtain ⟨mask, hfits, rfl⟩ := exists_select hsub
    refine ⟨mask, ⟨?_, hfits⟩, rfl⟩
    rintro rfl
    exact hne (select_zero _)

end

namespace Rules

/-- A key is a non-empty part of what a declaration offers. -/
def Covers (r : Rules) (d : Declaration) (key : Key) : Prop :=
  key ≠ [] ∧ key.Sublist (r.offered d).toList

instance (r : Rules) (d : Declaration) (key : Key) : Decidable (r.Covers d key) :=
  inferInstanceAs (Decidable (_ ∧ _))

/-- **A set is a key of a declaration exactly if it is not empty and all of it is offered.** -/
theorem covers_toList {r : Rules} {d : Declaration} {s : LabelSet} :
    r.Covers d s.toList ↔ s ≠ ∅ ∧ s ⊆ r.offered d := by
  rw [Covers, SortedSet.toList_sublist, ne_eq, SortedSet.toList_eq_nil]

end Rules

/-- **Claiming gives a flavor the keys that are free**, and leaves the others alone. -/
theorem getElem?_claim (routes : Std.HashMap Key Flavor) (flavor : Flavor) (keys : List Key)
    (key : Key) :
    (claim routes flavor keys)[key]? = routes[key]?.or (if key ∈ keys then some flavor else none) := by
  induction keys generalizing routes with
  | nil => simp [claim]
  | cons k keys ih =>
    have hstep : claim routes flavor (k :: keys) = claim (routes.insertIfNew k flavor) flavor keys := rfl
    rw [hstep, ih, Std.HashMap.getElem?_insertIfNew]
    by_cases hk : k = key
    · subst hk
      cases hr : routes[k]? with
      | none =>
        have hnew : k ∉ routes := fun hm => by
          rw [Std.HashMap.mem_iff_isSome_getElem?, hr] at hm
          exact absurd hm Bool.false_ne_true
        simp [hnew]
      | some f =>
        have hold : k ∈ routes := by rw [Std.HashMap.mem_iff_isSome_getElem?, hr]; rfl
        simp [hold]
    · have hk' : key ≠ k := fun h => hk h.symm
      simp [hk, hk']

end RunnerDispatch.Routing
