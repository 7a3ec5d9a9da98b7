/-!
# Sorted sets

A finite set kept as its strictly ascending list of elements, so that equal sets are equal values and
a set is printed in one way only.

* `SortedSet.ofList`: the set of a list's elements, in any order and with repetitions.
* `mem_ofList`: **it holds the elements of the list and no others**.
* `SortedSet.ext`: two sets with the same elements are equal.
-/

namespace RunnerDispatch

/-- A finite set, as the strictly ascending list of its elements. -/
structure SortedSet (α : Type) [LT α] where
  toList : List α
  ascending : toList.Pairwise (· < ·)

namespace SortedSet

variable {α : Type} [LT α]

instance [DecidableEq α] : DecidableEq (SortedSet α) := fun s t =>
  decidable_of_iff (s.toList = t.toList) (by cases s; cases t; simp)

instance : Membership α (SortedSet α) := ⟨fun s a => a ∈ s.toList⟩

instance [DecidableEq α] (a : α) (s : SortedSet α) : Decidable (a ∈ s) :=
  inferInstanceAs (Decidable (a ∈ s.toList))

theorem mem_toList {a : α} {s : SortedSet α} : a ∈ s.toList ↔ a ∈ s := Iff.rfl

/-- The set without elements. -/
def empty : SortedSet α := ⟨[], .nil⟩

instance : EmptyCollection (SortedSet α) := ⟨empty⟩

instance : Inhabited (SortedSet α) := ⟨empty⟩

/-- Number of elements. -/
def size (s : SortedSet α) : Nat := s.toList.length

def isEmpty (s : SortedSet α) : Bool := s.toList.isEmpty

/-- The elements that pass a test. -/
def filter (p : α → Bool) (s : SortedSet α) : SortedSet α :=
  ⟨s.toList.filter p, s.ascending.filter p⟩

theorem mem_filter {p : α → Bool} {a : α} {s : SortedSet α} :
    a ∈ s.filter p ↔ a ∈ s ∧ p a = true := List.mem_filter

/-- The elements of the first set that are not in the second. -/
def sdiff [DecidableEq α] (s t : SortedSet α) : SortedSet α := s.filter (· ∉ t)

instance [DecidableEq α] : SDiff (SortedSet α) := ⟨sdiff⟩

theorem mem_sdiff [DecidableEq α] {a : α} {s t : SortedSet α} : a ∈ s \ t ↔ a ∈ s ∧ a ∉ t := by
  show a ∈ s.filter (· ∉ t) ↔ _
  simp [mem_filter]

/-- Puts an element in front of a list unless the list begins with it. -/
def distinctCons [DecidableEq α] (a : α) : List α → List α
  | [] => [a]
  | b :: bs => if a = b then b :: bs else a :: b :: bs

/-- Drops repetitions that stand next to each other. -/
def distinct [DecidableEq α] (as : List α) : List α := as.foldr distinctCons []

omit [LT α] in
theorem mem_distinctCons [DecidableEq α] {a b : α} {as : List α} :
    b ∈ distinctCons a as ↔ b = a ∨ b ∈ as := by
  cases as with
  | nil => simp [distinctCons]
  | cons c cs => by_cases h : a = c <;> simp [distinctCons, h]

omit [LT α] in
theorem mem_distinct [DecidableEq α] {a : α} {as : List α} : a ∈ distinct as ↔ a ∈ as := by
  induction as with
  | nil => simp [distinct]
  | cons b bs ih =>
    show a ∈ distinctCons b (distinct bs) ↔ _
    rw [mem_distinctCons, ih, List.mem_cons]

variable [LE α] [DecidableLE α] [DecidableEq α] [Std.IsLinearOrder α] [Std.LawfulOrderLT α]

omit [DecidableLE α] in
theorem pairwise_distinct {as : List α} (h : as.Pairwise (· ≤ ·)) :
    (distinct as).Pairwise (· < ·) := by
  induction as with
  | nil => exact .nil
  | cons a as ih =>
    rw [List.pairwise_cons] at h
    have hd := ih h.2
    have hle : ∀ b ∈ distinct as, a ≤ b := fun b hb => h.1 b (mem_distinct.1 hb)
    show (distinctCons a (distinct as)).Pairwise _
    generalize distinct as = ds at hd hle
    cases ds with
    | nil => simp [distinctCons]
    | cons b bs =>
      by_cases hab : a = b
      · simpa [distinctCons, hab] using hd
      · have hlt : a < b := Std.lt_of_le_of_ne (hle b (by simp)) hab
        rw [distinctCons, if_neg hab, List.pairwise_cons]
        refine ⟨fun c hc => ?_, hd⟩
        rcases List.mem_cons.1 hc with rfl | hc
        · exact hlt
        · exact Std.lt_trans hlt ((List.pairwise_cons.1 hd).1 c hc)

omit [LT α] [DecidableEq α] [Std.LawfulOrderLT α] in
theorem pairwise_mergeSort_le (as : List α) :
    (as.mergeSort fun a b => decide (a ≤ b)).Pairwise (· ≤ ·) := by
  have := @List.pairwise_mergeSort _ (fun a b : α => decide (a ≤ b))
    (by simpa using fun a b c => Std.le_trans)
    (by simpa using fun a b => Std.le_total) as
  simpa using this

/-- **The set of a list's elements.** -/
def ofList (as : List α) : SortedSet α :=
  ⟨distinct (as.mergeSort fun a b => decide (a ≤ b)), pairwise_distinct (pairwise_mergeSort_le as)⟩

theorem mem_ofList {a : α} {as : List α} : a ∈ ofList as ↔ a ∈ as := by
  show a ∈ distinct _ ↔ _
  rw [mem_distinct, (List.mergeSort_perm as _).mem_iff]

omit [DecidableLE α] [DecidableEq α] in
/-- Strictly ascending lists with the same members are equal. -/
theorem eq_of_ascending {as bs : List α} (ha : as.Pairwise (· < ·)) (hb : bs.Pairwise (· < ·))
    (h : ∀ a, a ∈ as ↔ a ∈ bs) : as = bs := by
  induction as generalizing bs with
  | nil =>
    cases bs with
    | nil => rfl
    | cons b bs => exact absurd ((h b).2 (by simp)) (by simp)
  | cons a as ih =>
    cases bs with
    | nil => exact absurd ((h a).1 (by simp)) (by simp)
    | cons b bs =>
      rw [List.pairwise_cons] at ha hb
      have hab : a = b := by
        rcases List.mem_cons.1 ((h a).1 (by simp)) with hab | hab
        · exact hab
        rcases List.mem_cons.1 ((h b).2 (by simp)) with hba | hba
        · exact hba.symm
        exact absurd (Std.lt_trans (ha.1 b hba) (hb.1 a hab)) Std.lt_irrefl
      subst hab
      rw [ih ha.2 hb.2 fun c => ?_]
      constructor <;> intro hc
      · rcases List.mem_cons.1 ((h c).1 (List.mem_cons_of_mem _ hc)) with rfl | hc'
        · exact absurd (ha.1 c hc) Std.lt_irrefl
        · exact hc'
      · rcases List.mem_cons.1 ((h c).2 (List.mem_cons_of_mem _ hc)) with rfl | hc'
        · exact absurd (hb.1 c hc) Std.lt_irrefl
        · exact hc'

omit [DecidableLE α] [DecidableEq α] in
/-- **Sets with the same elements are equal.** -/
@[ext] theorem ext {s t : SortedSet α} (h : ∀ a, a ∈ s ↔ a ∈ t) : s = t := by
  have := eq_of_ascending s.ascending t.ascending h
  cases s; cases t; simp_all

/-- A set is the set of its own elements. -/
theorem ofList_toList (s : SortedSet α) : ofList s.toList = s :=
  ext fun _ => mem_ofList

end SortedSet

end RunnerDispatch
