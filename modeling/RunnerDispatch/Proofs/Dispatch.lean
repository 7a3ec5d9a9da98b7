import RunnerDispatch.Dispatch
import RunnerDispatch.Proofs.Queue.Lines

/-!
# What becomes of a job that is dispatched

* `forward_cases`: **a job is passed over, rejected, taken or refused**, and the backend is asked only in
  the last two cases.
* `result_noMatch_iff`, `result_queue_iff`: when a job is rejected, and when it is refused.
* `waiting_forward`: with the queue in memory, only a job that is taken changes what waits.
-/

namespace RunnerDispatch

section

variable {σ ε : Type}

/-- **The ways in which a job is dispatched**, with what each answers, leaves behind and counts. -/
theorem forward_cases (table : Routing.Table) (backend : Backend σ ε) (job : Job) (state : σ) :
    let d := forward table backend job state
    (job.status.isRoutable = false ∧ d.result = .ok (.skipped job.status) ∧ d.state = state ∧
        d.counted = [.skipped job.status]) ∨
      (∃ e, job.status.isRoutable = true ∧ table.resolve job.labels.toList = .error e ∧
        d.result = .error (.noMatch e) ∧ d.state = state ∧ d.counted = [.rejected]) ∨
      (∃ f, job.status.isRoutable = true ∧ table.resolve job.labels.toList = .ok f ∧
        (backend.add job f state).1 = .ok () ∧ d.result = .ok (.forwarded f) ∧
        d.state = (backend.add job f state).2.1 ∧ d.counted = [.forwarded f]) ∨
      (∃ f e, job.status.isRoutable = true ∧ table.resolve job.labels.toList = .ok f ∧
        (backend.add job f state).1 = .error e ∧ d.result = .error (.queue e) ∧
        d.state = (backend.add job f state).2.1 ∧ d.counted = []) := by
  intro d
  by_cases hs : job.status.isRoutable = true
  case neg =>
    have hs' : job.status.isRoutable = false := Bool.eq_false_iff.2 hs
    refine .inl ⟨hs', ?_⟩
    simp only [d, forward]
    rw [if_pos (by rw [hs']; rfl)]
    exact ⟨rfl, rfl, rfl⟩
  right
  simp only [d, forward]
  rw [if_neg (by rw [hs]; decide)]
  cases hr : table.resolve job.labels.toList with
  | error e => exact .inl ⟨e, hs, rfl, rfl, rfl, rfl⟩
  | ok f =>
    right
    rcases ha : backend.add job f state with ⟨_ | ⟨⟨⟩⟩, state', records⟩
    · dsimp only
      rw [ha]
      exact .inr ⟨f, _, hs, rfl, by rw [ha], rfl, by rw [ha], rfl⟩
    · dsimp only
      rw [ha]
      exact .inl ⟨f, hs, rfl, by rw [ha], rfl, by rw [ha], rfl⟩

/-- **A job is rejected if it is queued and its labels do not resolve.** -/
theorem result_noMatch_iff {table : Routing.Table} {backend : Backend σ ε} {job : Job} {state : σ}
    {e : Routing.NoMatch} : (forward table backend job state).result = .error (.noMatch e) ↔
      job.status.isRoutable = true ∧ table.resolve job.labels.toList = .error e := by
  rcases forward_cases table backend job state with
    ⟨hs, hd, -⟩ | ⟨e', hs, hr, hd, -⟩ | ⟨f, hs, hr, -, hd, -⟩ | ⟨f, e', hs, hr, -, hd, -⟩
  · simp [hs, hd]
  · simp [hs, hr, hd]
  · simp [hs, hr, hd]
  · simp [hs, hr, hd]

/-- **A job is refused if it is queued, its labels resolve and the backend does not take it.** -/
theorem result_queue_iff {table : Routing.Table} {backend : Backend σ ε} {job : Job} {state : σ} {e : ε} :
    (forward table backend job state).result = .error (.queue e) ↔
      job.status.isRoutable = true ∧ ∃ f, table.resolve job.labels.toList = .ok f ∧
        (backend.add job f state).1 = .error e := by
  rcases forward_cases table backend job state with
    ⟨hs, hd, -⟩ | ⟨e', hs, hr, hd, -⟩ | ⟨f, hs, hr, ha, hd, -⟩ | ⟨f, e', hs, hr, ha, hd, -⟩
  · simp [hs, hd]
  · simp [hs, hr, hd]
  · simp [hs, hr, ha, hd]
  · simp [hs, hr, ha, hd]

end

variable {table : Routing.Table} {job : Job} {q : Queue}

/-- **With the queue in memory only a job that is taken changes what waits**: its message is put last in
the line of the flavor that the answer names. -/
theorem waiting_forward (table : Routing.Table) (job : Job) (q : Queue) :
    let d := forward table Queue.backend job q
    (∃ f, d.result = .ok (.forwarded f) ∧ ∀ name, d.state.waiting name =
        if f.name = name then q.waiting name ++ [job.message] else q.waiting name) ∨
      ((∀ f, d.result ≠ .ok (.forwarded f)) ∧ ∀ name, d.state.waiting name = q.waiting name) := by
  intro d
  rcases forward_cases table Queue.backend job q with
    ⟨-, hr, hs, -⟩ | ⟨e, -, -, hr, hs, -⟩ | ⟨f, -, -, ha, hr, hs, -⟩ | ⟨f, e, -, -, ha, hr, hs, -⟩
  · exact .inr ⟨fun f h => (nomatch hr.symm.trans h), fun name => by rw [hs]⟩
  · exact .inr ⟨fun f h => (nomatch hr.symm.trans h), fun name => by rw [hs]⟩
  · have haccepts : q.Accepts f := Queue.result_add_ok.1 ha
    refine .inl ⟨f, hr, fun name => ?_⟩
    rw [hs]
    refine (Queue.waiting_add q job f name).trans ?_
    simp only [haccepts, true_and]
  · have hrefuses : ¬ q.Accepts f := fun h => (nomatch (Queue.result_add_ok.2 h).symm.trans ha)
    refine .inr ⟨fun f h => (nomatch hr.symm.trans h), fun name => ?_⟩
    rw [hs]
    refine (Queue.waiting_add q job f name).trans ?_
    rw [if_neg fun h => hrefuses h.1]

@[simp] theorem closed_forward : (forward table Queue.backend job q).state.closed = q.closed := by
  rcases forward_cases table Queue.backend job q with
    ⟨-, -, hs, -⟩ | ⟨-, -, -, -, hs, -⟩ | ⟨f, -, -, -, -, hs, -⟩ | ⟨f, -, -, -, -, -, hs, -⟩
  · rw [hs]
  · rw [hs]
  · rw [hs]
    exact Queue.closed_add
  · rw [hs]
    exact Queue.closed_add

end RunnerDispatch
