import Mathlib

/-!
# Runs of a machine

A machine takes an input and gives an output, each time in a state that it changes.

* `Machine.after`, `Machine.trace`: the state after a run, and its inputs with their outputs.
* `Machine.moments`: the inputs of a run, each with the state that it meets.
* `after_induction`, `moments_induction`, `trace_induction`: **what every step keeps, every run keeps**, of the
  state alone, of the state and what led to it, or of the state and what came of the inputs.
* `after_append`, `trace_append`: a run that goes on.
* `trace_eq_of_simulation`, `trace_congr`: two machines whose steps answer alike answer alike over every run.
* `trace_filter_of_unwinding`: **inputs whose effect does not show may be left out.**
-/

namespace RunnerDispatch

/-- A machine with states `σ`, inputs `ι` and outputs `ο`. -/
abbrev Machine (σ ι ο : Type) := σ → ι → ο × σ

namespace Machine

variable {σ τ ι ο : Type}

/-- The state after some inputs. -/
def after (m : Machine σ ι ο) (s : σ) (is : List ι) : σ := is.foldl (fun s i => (m s i).2) s

/-- Each input with its output. -/
def trace (m : Machine σ ι ο) : σ → List ι → List (ι × ο)
  | _, [] => []
  | s, i :: is => (i, (m s i).1) :: trace m (m s i).2 is

/-- Each input with the state that it meets. -/
def moments (m : Machine σ ι ο) : σ → List ι → List (σ × ι)
  | _, [] => []
  | s, i :: is => (s, i) :: moments m (m s i).2 is

variable {m : Machine σ ι ο} {n : Machine τ ι ο} {s : σ} {t : τ}

theorem after_cons (i : ι) (is : List ι) : m.after s (i :: is) = m.after (m s i).2 is := rfl

/-- **What every step keeps, every run keeps.** -/
theorem after_induction {P : σ → Prop} (step : ∀ s i, P s → P (m s i).2) (start : P s)
    (is : List ι) : P (m.after s is) := by
  induction is generalizing s with
  | nil => exact start
  | cons i is ih => exact ih (step s i start)

/-- **Machines whose steps answer alike answer alike over every run**, and stay related. -/
theorem trace_eq_of_simulation {R : σ → τ → Prop}
    (step : ∀ s t i, R s t → (m s i).1 = (n t i).1 ∧ R (m s i).2 (n t i).2) (start : R s t)
    (is : List ι) : m.trace s is = n.trace t is ∧ R (m.after s is) (n.after t is) := by
  induction is generalizing s t with
  | nil => exact ⟨rfl, start⟩
  | cons i is ih =>
    obtain ⟨hout, hnext⟩ := step s t i start
    obtain ⟨htrace, hafter⟩ := ih hnext
    exact ⟨by rw [trace, trace, hout, htrace], hafter⟩

/-- **Machines that take the inputs of a run alike run alike.** -/
theorem trace_congr {m n : Machine σ ι ο} (is : List ι) (step : ∀ s, ∀ i ∈ is, m s i = n s i) (s : σ) :
    m.trace s is = n.trace s is := by
  induction is generalizing s with
  | nil => rfl
  | cons i is ih =>
    have hhead : m s i = n s i := step s i List.mem_cons_self
    have htail := ih fun s j hj => step s j (List.mem_cons_of_mem i hj)
    rw [trace, trace, hhead, htail]

/-- **What every step keeps of the state and its past, every run keeps.** -/
theorem moments_induction {P : List (σ × ι) → σ → Prop} {past : List (σ × ι)} (is : List ι)
    (step : ∀ past s, ∀ i ∈ is, P past s → P (past ++ [(s, i)]) (m s i).2) (start : P past s) :
    P (past ++ m.moments s is) (m.after s is) := by
  induction is generalizing past s with
  | nil =>
    have hpast : past ++ m.moments s [] = past := List.append_nil past
    rw [hpast]
    exact start
  | cons i is ih =>
    have hsplit : past ++ m.moments s (i :: is) = (past ++ [(s, i)]) ++ m.moments (m s i).2 is := by
      rw [moments, List.append_assoc, List.singleton_append]
    rw [hsplit, after_cons]
    apply ih
    · intro past s j hj
      exact step past s j (List.mem_cons_of_mem i hj)
    · exact step past s i List.mem_cons_self start

/-- What comes of the inputs is in the moments of the run. -/
theorem trace_eq_map_moments (m : Machine σ ι ο) (s : σ) (is : List ι) :
    m.trace s is = (m.moments s is).map fun p => (p.2, (m p.1 p.2).1) := by
  induction is generalizing s with
  | nil => rfl
  | cons i is ih => rw [trace, moments, List.map_cons, ih]

/-- **What every step keeps of the state and what came of the inputs, every run keeps.** -/
theorem trace_induction {P : List (ι × ο) → σ → Prop}
    (step : ∀ past s i, P past s → P (past ++ [(i, (m s i).1)]) (m s i).2) (start : P [] s)
    (is : List ι) : P (m.trace s is) (m.after s is) := by
  let Q : List (σ × ι) → σ → Prop := fun past s => P (past.map fun p => (p.2, (m p.1 p.2).1)) s
  have hstep : ∀ past s, ∀ i ∈ is, Q past s → Q (past ++ [(s, i)]) (m s i).2 := by
    intro past s i _ h
    simp only [Q, List.map_append]
    exact step _ s i h
  have hrun : Q ([] ++ m.moments s is) (m.after s is) := moments_induction is hstep start
  rw [trace_eq_map_moments]
  exact hrun

theorem after_append (m : Machine σ ι ο) (s : σ) (is js : List ι) :
    m.after s (is ++ js) = m.after (m.after s is) js := List.foldl_append

theorem trace_append (m : Machine σ ι ο) (s : σ) (is js : List ι) :
    m.trace s (is ++ js) = m.trace s is ++ m.trace (m.after s is) js := by
  induction is generalizing s with
  | nil => rfl
  | cons i is ih => rw [List.cons_append, trace, trace, ih, after_cons, List.cons_append]

theorem map_fst_trace (m : Machine σ ι ο) (s : σ) (is : List ι) : (m.trace s is).map Prod.fst = is := by
  induction is generalizing s with
  | nil => rfl
  | cons i is ih => rw [trace, List.map_cons, ih]

/-- **Inputs whose effect does not show may be left out.** If states that look alike answer the other inputs
alike and still look alike afterwards, the answers to these are the same without the inputs left out. -/
theorem trace_filter_of_unwinding {keep : ι → Prop} [DecidablePred keep] {R : σ → σ → Prop} {s t : σ}
    (kept : ∀ s t i, keep i → R s t → (m s i).1 = (m t i).1 ∧ R (m s i).2 (m t i).2)
    (dropped : ∀ s i, ¬ keep i → R (m s i).2 s) (trans : ∀ {s t u}, R s t → R t u → R s u)
    (start : R s t) (is : List ι) :
    (m.trace s is).filter (fun p => keep p.1) = m.trace t (is.filter keep) ∧
      R (m.after s is) (m.after t (is.filter keep)) := by
  induction is generalizing s t with
  | nil => exact ⟨rfl, start⟩
  | cons i is ih =>
    rw [trace, after_cons]
    by_cases hi : keep i
    · obtain ⟨hout, hnext⟩ := kept s t i hi start
      obtain ⟨htrace, hafter⟩ := ih hnext
      rw [List.filter_cons_of_pos (by simpa using hi), List.filter_cons_of_pos (by simpa using hi), trace,
        after_cons, htrace, hout]
      exact ⟨rfl, hafter⟩
    · -- what is left out leads to a state that looks like the one before
      have hnext : R (m s i).2 t := trans (dropped s i hi) start
      rw [List.filter_cons_of_neg (by simpa using hi), List.filter_cons_of_neg (by simpa using hi)]
      exact ih hnext

end Machine

end RunnerDispatch
