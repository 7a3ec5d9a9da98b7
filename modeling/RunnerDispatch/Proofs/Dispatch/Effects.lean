import RunnerDispatch.Proofs.Dispatch.Isolation
import RunnerDispatch.Proofs.Routing.Normalization

/-!
# What dispatching a job does to its surroundings

Dispatching has two effects: the backend may be asked to take the job, and a series may be incremented.

* `Backend.recording`: the same backend with a list, kept beside its state, of all that it is asked.
* `seriesOf`: the series of a result; a job that the backend refuses has none.
* `forward_recording`: **dispatching does not notice that it is recorded**, and leaves one more entry on the
  list if the job has a destination, and none otherwise.
* `counted_forward`: what is incremented is the series of the result.
* `forward_effects`: these effects together, for any table, job and backend.
-/

namespace RunnerDispatch

open Sharing (destination? destination?_eq_some_iff)
open Dispatching (plainRun)

section

variable {σ ε : Type}

/-- The same backend, with a list of all that it is asked kept beside its state. -/
def Backend.recording (backend : Backend σ ε) : Backend (σ × List (Job × Flavor)) ε where
  add job flavor state :=
    let (result, next, records) := backend.add job flavor state.1
    (result, (next, state.2 ++ [(job, flavor)]), records)
  canConnect state := backend.canConnect state.1
  explain := backend.explain

/-- The series that stands for a result. **A job that the backend refuses is not counted.** -/
def seriesOf : Except (DispatchFault ε) Outcome → Option Series
  | .ok (.forwarded flavor) => some (.forwarded flavor)
  | .ok (.skipped status) => some (.skipped status)
  | .error (.noMatch _) => some .rejected
  | .error (.queue _) => none

variable {table : Routing.Table} {backend : Backend σ ε} {job : Job} {state : σ}

/-- What the backend is asked when a job is dispatched. -/
def asked (table : Routing.Table) (job : Job) : List (Job × Flavor) :=
  (destination? table job).toList.map (job, ·)

theorem asked_eq_nil (h : destination? table job = none) : asked table job = [] := by
  rw [asked, h]
  rfl

theorem asked_eq_singleton {flavor : Flavor} (h : destination? table job = some flavor) :
    asked table job = [(job, flavor)] := by
  rw [asked, h]
  rfl

/-- The backend is asked nothing or once. -/
theorem length_asked_le (table : Routing.Table) (job : Job) : (asked table job).length ≤ 1 := by
  rw [asked, List.length_map]
  exact Option.length_toList_le

theorem isRoutable_iff {status : JobStatus} : status.isRoutable = true ↔ status = .queued := beq_iff_eq

theorem mem_asked_iff {job' : Job} {flavor : Flavor} : (job', flavor) ∈ asked table job ↔
    job' = job ∧ job.status = .queued ∧ table.resolve job.labels.toList = .ok flavor := by
  rw [asked, List.mem_map, ← isRoutable_iff, ← destination?_eq_some_iff]
  simp only [Option.mem_toList, Prod.mk.injEq]
  constructor
  · rintro ⟨f, hf, rfl, rfl⟩
    exact ⟨rfl, hf⟩
  · rintro ⟨rfl, hf⟩
    exact ⟨flavor, hf, rfl, rfl⟩

/-- **Dispatching does not notice that it is recorded**, and what it asks of the backend is added to the list
of what was asked before. -/
theorem forward_recording (table : Routing.Table) (backend : Backend σ ε) (job : Job) (state : σ)
    (before : List (Job × Flavor)) :
    let d := forward table backend job state
    forward table backend.recording job (state, before) =
      ⟨d.result, (d.state, before ++ asked table job), d.records, d.counted⟩ := by
  intro d
  cases hs : job.status.isRoutable with
  | false =>
    have hnone : asked table job = [] := asked_eq_nil (by rw [destination?, hs]; rfl)
    simp only [d, forward, hs, Bool.not_false, if_true, hnone, List.append_nil]
  | true =>
    cases hr : table.resolve job.labels.toList with
    | error e =>
      have hnone : asked table job = [] := asked_eq_nil (by rw [destination?, hs, hr]; rfl)
      simp only [d, forward, hs, hr, Bool.not_true, Bool.false_eq_true, if_false, hnone, List.append_nil]
    | ok flavor =>
      have hone : asked table job = [(job, flavor)] :=
        asked_eq_singleton (destination?_eq_some_iff.2 ⟨hs, hr⟩)
      simp only [d, forward, hs, hr, Bool.not_true, Bool.false_eq_true, if_false, hone, Backend.recording]
      rcases ha : backend.add job flavor state with ⟨_ | ⟨⟨⟩⟩, next, records⟩ <;> simp only [ha]

/-- **What is incremented is the series of the result.** -/
theorem counted_forward (table : Routing.Table) (backend : Backend σ ε) (job : Job) (state : σ) :
    let d := forward table backend job state
    d.counted = (seriesOf d.result).toList := by
  intro d
  rcases forward_cases table backend job state with
    ⟨-, hd, -, hc⟩ | ⟨e, -, -, hd, -, hc⟩ | ⟨f, -, -, -, hd, -, hc⟩ | ⟨f, e, -, -, -, hd, -, hc⟩
  · rw [hc, hd]
    rfl
  · rw [hc, hd]
    rfl
  · rw [hc, hd]
    rfl
  · rw [hc, hd]
    rfl

theorem count_forward_series (table : Routing.Table) (backend : Backend σ ε) (job : Job) (state : σ)
    (metrics : Metrics) (series : Series) :
    let d := forward table backend job state
    (metrics.record d.counted).count series =
      metrics.count series + if seriesOf d.result = some series then 1 else 0 := by
  intro d
  rw [Metrics.count_record, counted_forward]
  cases seriesOf d.result with
  | none => rfl
  | some s =>
    rw [Option.toList_some, List.count_singleton]
    simp only [beq_iff_eq, Option.some.injEq]

/-- A job that asks for no runner leaves the backend as it was. -/
theorem forward_of_ne_queued (table : Routing.Table) (backend : Backend σ ε) (state : σ)
    (hs : job.status ≠ .queued) :
    let d := forward table backend job state
    d.result = .ok (.skipped job.status) ∧ d.state = state := by
  intro d
  have hs' : ¬ job.status.isRoutable = true := fun h => hs (isRoutable_iff.1 h)
  rcases forward_cases table backend job state with
    ⟨-, hd, hstate, -⟩ | ⟨e, h, -⟩ | ⟨f, h, -⟩ | ⟨f, e, h, -⟩
  · exact ⟨hd, hstate⟩
  · exact absurd h hs'
  · exact absurd h hs'
  · exact absurd h hs'

/-- A queued job is rejected with its labels, or the backend answers. -/
theorem forward_of_queued (table : Routing.Table) (backend : Backend σ ε) (state : σ)
    (hs : job.status = .queued) :
    let d := forward table backend job state
    match table.resolve job.labels.toList with
    | .error _ => d.result = .error (.noMatch ⟨LabelSet.normalize job.labels.toList⟩) ∧ d.state = state
    | .ok flavor =>
      let answer := backend.add job flavor state
      d.state = answer.2.1 ∧ d.result = (answer.1.map fun _ => Outcome.forwarded flavor).mapError .queue := by
  intro d
  have hs' := isRoutable_iff.2 hs
  rcases forward_cases table backend job state with
    ⟨h, -⟩ | ⟨e, -, hr, hd, hstate, -⟩ | ⟨f, -, hr, ha, hd, hstate, -⟩ | ⟨f, e, -, hr, ha, hd, hstate, -⟩
  · rw [hs'] at h
    exact absurd h (by decide)
  · rw [hr]
    obtain ⟨labels⟩ := e
    obtain rfl : labels = _ := Routing.Table.labels_of_resolve hr
    exact ⟨hd, hstate⟩
  · rw [hr]
    refine ⟨hstate, ?_⟩
    rw [ha]
    exact hd
  · rw [hr]
    refine ⟨hstate, ?_⟩
    rw [ha]
    exact hd

/-- **The effects of dispatching a job**, for any backend.

The backend, if what it is asked is recorded, is asked nothing or once: it is asked to take this job for a
flavor exactly if the job is queued and its labels resolve to that flavor. A job that is not queued is skipped,
whatever its labels, and a queued job whose labels do not resolve is rejected with all its labels in lower case;
both leave the backend as it was. Otherwise the job is forwarded or, if the backend fails, that failure is
passed on, and the backend is left as its one answer leaves it. Of all series the one of the result grows by
one, and after a failure of the backend none. -/
theorem forward_effects (table : Routing.Table) (backend : Backend σ ε) (job : Job) (state : σ)
    (before : List (Job × Flavor)) (metrics : Metrics) :
    let d := forward table backend job state
    (∃ calls : List (Job × Flavor), calls.length ≤ 1 ∧
      (∀ job' flavor, (job', flavor) ∈ calls ↔
        job' = job ∧ job.status = .queued ∧ table.resolve job.labels.toList = .ok flavor) ∧
      forward table backend.recording job (state, before) =
        ⟨d.result, (d.state, before ++ calls), d.records, d.counted⟩) ∧
    (job.status ≠ .queued → d.result = .ok (.skipped job.status) ∧ d.state = state) ∧
    (job.status = .queued →
      match table.resolve job.labels.toList with
      | .error _ => d.result = .error (.noMatch ⟨LabelSet.normalize job.labels.toList⟩) ∧ d.state = state
      | .ok flavor =>
        let answer := backend.add job flavor state
        d.state = answer.2.1 ∧
          d.result = (answer.1.map fun _ => Outcome.forwarded flavor).mapError .queue) ∧
    ∀ series, (metrics.record d.counted).count series =
      metrics.count series + if seriesOf d.result = some series then 1 else 0 := by
  intro d
  refine ⟨⟨asked table job, length_asked_le table job, fun job' flavor => mem_asked_iff, ?_⟩, ?_, ?_, ?_⟩
  · exact forward_recording table backend job state before
  · exact forward_of_ne_queued table backend state
  · exact forward_of_queued table backend state
  · exact count_forward_series table backend job state metrics

end

/-- A backend that never takes a job; its state is how often it was asked. -/
def brokenBackend : Backend ℕ String where
  add _ _ count := (.error "down", count + 1, [])
  canConnect _ := false
  explain := id

/-- The backend is asked once and fails, which is passed on and not counted. -/
theorem forward_effects_broken :
    let d := forward Routing.loneTable brokenBackend (plainRun "1") 0
    (plainRun "1").status = .queued ∧ d.result = .error (.queue "down") ∧ d.state = 1 ∧
      ∀ series, (({} : Metrics).record d.counted).count series = 0 := by
  intro d
  obtain ⟨-, -, hqueued, hcounted⟩ := forward_effects Routing.loneTable brokenBackend (plainRun "1") 0 [] {}
  have hresolve : Routing.loneTable.resolve (plainRun "1").labels.toList = .ok Routing.loneTable.default := by
    cbv
  have hanswer := hqueued rfl
  rw [hresolve] at hanswer
  have hresult : d.result = .error (.queue "down") := hanswer.2
  refine ⟨rfl, hresult, hanswer.1, fun series => ?_⟩
  rw [hcounted series, hresult]
  rfl

end RunnerDispatch
