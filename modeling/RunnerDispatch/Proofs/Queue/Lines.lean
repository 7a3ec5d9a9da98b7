import Mathlib
import RunnerDispatch.Queue

/-!
# Queues by what waits in them

An operation on a queue is known by what it does to the messages that wait under each name and to the flag.
How the lines are kept does not show: a refused job may leave an empty line behind, and **a name without a
line is like one whose line is empty**.

* `add_cases`: what becomes of a job.
* `waiting_add`: what waits after a job was added or refused.
* `waiting_take`: taking drops the first message under the name and no other.
-/

namespace RunnerDispatch.Queue

variable {q : Queue} {job : Job} {flavor : Flavor} {name : String}

/-- Whether a job for a flavor would be taken now. -/
def Accepts (q : Queue) (flavor : Flavor) : Prop :=
  q.closed = false ∧ q.pending flavor.name < q.capacity

instance (q : Queue) (flavor : Flavor) : Decidable (q.Accepts flavor) :=
  inferInstanceAs (Decidable (_ ∧ _))

/-- A queue with another line for a flavor. -/
def withLine (q : Queue) (flavor : Flavor) (line : List String) : Queue :=
  { q with lines := putLine flavor line q.lines }

theorem waiting_withLine (q : Queue) (flavor : Flavor) (line : List String) (name : String) :
    (q.withLine flavor line).waiting name = if flavor.name = name then line else q.waiting name :=
  lineOf_putLine flavor line name q.lines

/-- **What becomes of a job**: a closed queue refuses it, one with a full line puts the line back as it
was, and any other puts the job last. -/
theorem add_cases (q : Queue) (job : Job) (flavor : Flavor) :
    (q.closed = true ∧ (q.add job flavor).result = .error .closed ∧ (q.add job flavor).queue = q) ∨
      (q.closed = false ∧ q.capacity ≤ q.pending flavor.name ∧
        (q.add job flavor).result = .error (.full flavor q.capacity) ∧
        (q.add job flavor).queue = q.withLine flavor (q.waiting flavor.name)) ∨
      (q.Accepts flavor ∧ (q.add job flavor).result = .ok () ∧
        (q.add job flavor).queue = q.withLine flavor (q.waiting flavor.name ++ [job.message])) := by
  unfold add
  by_cases hc : q.closed = true
  · rw [if_pos hc]
    exact .inl ⟨hc, rfl, rfl⟩
  rw [if_neg hc]
  refine .inr ?_
  by_cases hf : (q.waiting flavor.name).length ≥ q.capacity
  · left
    simp only [hf, if_true]
    exact ⟨Bool.eq_false_iff.2 hc, hf, trivial, rfl⟩
  · right
    simp only [hf, if_false]
    exact ⟨⟨Bool.eq_false_iff.2 hc, Nat.lt_of_not_le hf⟩, trivial, rfl⟩

theorem result_add_ok : (q.add job flavor).result = .ok () ↔ q.Accepts flavor := by
  rcases add_cases q job flavor with ⟨hc, hr, -⟩ | ⟨-, hf, hr, -⟩ | ⟨ha, hr, -⟩ <;> rw [hr]
  · exact ⟨(nomatch ·), fun h => absurd (hc.symm.trans h.1) (by decide)⟩
  · exact ⟨(nomatch ·), fun h => absurd h.2 (Nat.not_lt_of_le hf)⟩
  · exact ⟨fun _ => ha, fun _ => rfl⟩

/-- **An accepted job waits last in its line**; a refused one changes nothing that waits. -/
theorem waiting_add (q : Queue) (job : Job) (flavor : Flavor) (name : String) :
    (q.add job flavor).queue.waiting name =
      if q.Accepts flavor ∧ flavor.name = name then q.waiting name ++ [job.message]
      else q.waiting name := by
  rcases add_cases q job flavor with ⟨hc, -, hq⟩ | ⟨-, hf, -, hq⟩ | ⟨ha, -, hq⟩ <;> rw [hq]
  · rw [if_neg]
    exact fun h => absurd (hc.symm.trans h.1.1) (by decide)
  · rw [if_neg fun h => Nat.not_lt_of_le hf h.1.2, waiting_withLine]
    split
    · rename_i hn
      rw [hn]
    · rfl
  · rw [waiting_withLine]
    by_cases hn : flavor.name = name
    · rw [if_pos hn, if_pos ⟨ha, hn⟩, hn]
    · rw [if_neg hn, if_neg fun h => hn h.2]

@[simp] theorem closed_add : (q.add job flavor).queue.closed = q.closed := by
  rcases add_cases q job flavor with ⟨-, -, hq⟩ | ⟨-, -, -, hq⟩ | ⟨-, -, hq⟩ <;> rw [hq] <;> rfl

@[simp] theorem capacity_add : (q.add job flavor).queue.capacity = q.capacity := by
  rcases add_cases q job flavor with ⟨-, -, hq⟩ | ⟨-, -, -, hq⟩ | ⟨-, -, hq⟩ <;> rw [hq] <;> rfl

theorem lineOf_dropFirst (taken name : String) (lines : List (Flavor × List String)) :
    lineOf name (dropFirst taken lines) =
      if taken = name then (lineOf name lines).tail else lineOf name lines := by
  induction lines with
  | nil => by_cases h : taken = name <;> simp [dropFirst, lineOf, h]
  | cons p lines ih =>
    obtain ⟨f, line⟩ := p
    by_cases ht : f.name = taken
    · by_cases hn : taken = name
      · simp [dropFirst, lineOf, ht, hn]
      · simp [dropFirst, lineOf, ht, hn]
    · by_cases hn : f.name = name
      · have hne : taken ≠ name := fun h => ht (hn.trans h.symm)
        rw [dropFirst, if_neg ht, lineOf, if_pos hn, if_neg hne, lineOf, if_pos hn]
      · rw [dropFirst, if_neg ht, lineOf, if_neg hn, ih, lineOf, if_neg hn]

/-- **Taking drops the first message under a name** and no other. -/
theorem waiting_take (q : Queue) (taken name : String) :
    (q.take taken).2.waiting name =
      if taken = name then (q.waiting name).tail else q.waiting name :=
  lineOf_dropFirst taken name q.lines

end RunnerDispatch.Queue
