import RunnerDispatch.Proofs.Http.Exchange
import RunnerDispatch.Proofs.Queue.Clones

/-!
# A service in use

Requests arrive one after another, and meanwhile workers take jobs from the queue and its owner closes it.

* `Service.step`: what one event does to the queue and the counts.
* `World.Alike`: equal queues and equal counts of jobs. **Every event keeps worlds alike**, so that nothing
  but the queue and the counts of jobs has to be looked at.
-/

namespace RunnerDispatch

/-- Whether a series counts jobs, and not requests. -/
def Series.countsJobs : Series → Bool
  | .forwarded _ | .skipped _ | .rejected => true
  | .answered _ | .timed => false

namespace Service

/-- What a service in use keeps. -/
structure World where
  queue : Queue
  metrics : Metrics := {}

/-- What happens to a service in use. -/
inductive Event
  | request (r : Http.Request)
  | operation (op : Queue.Operation)

/-- What comes of it. -/
inductive Reaction
  | response (r : Http.Response)
  | answer (a : Queue.Answer)

/-- One event. -/
def step (service : Service) : Machine World Event Reaction
  | w, .request r =>
    let h := service.handle Queue.backend r w.queue
    (.response h.response, ⟨h.state, w.metrics.record h.counted⟩)
  | w, .operation op => (.answer (w.queue.perform op).1, { w with queue := (w.queue.perform op).2 })

namespace World

/-- Equal queues and equal counts of jobs. -/
structure Alike (w w' : World) : Prop where
  queue : w.queue = w'.queue
  count : ∀ s : Series, s.countsJobs = true → w.metrics.count s = w'.metrics.count s

theorem Alike.refl (w : World) : Alike w w := ⟨rfl, fun _ _ => rfl⟩

theorem Alike.trans {w w' w'' : World} (h : Alike w w') (h' : Alike w' w'') : Alike w w'' :=
  ⟨h.queue.trans h'.queue, fun s hs => (h.count s hs).trans (h'.count s hs)⟩

/-- **Every event keeps worlds alike.** -/
theorem Alike.step {w w' : World} (h : Alike w w') (service : Service) (e : Event) :
    Alike (service.step w e).2 (service.step w' e).2 := by
  cases e with
  | request r =>
    simp only [Service.step]
    rw [← h.queue]
    refine ⟨rfl, fun s hs => ?_⟩
    rw [Metrics.count_record, Metrics.count_record, h.count s hs]
  | operation op =>
    simp only [Service.step]
    rw [← h.queue]
    exact ⟨rfl, h.count⟩

end World

/-- What is counted for an answer alone is no job. -/
theorem count_answered {s : Series} (hs : s.countsJobs = true) (status : Nat) :
    (Http.answered status).count s = 0 := by
  rw [List.count_eq_zero, Http.answered, List.mem_cons, List.mem_singleton]
  rintro (rfl | rfl) <;> exact (nomatch hs)

theorem count_idle {σ : Type} {h : Http.Handled σ} {state : σ} (hidle : Http.Idle h state) {s : Series}
    (hs : s.countsJobs = true) : h.counted.count s = 0 := by
  rcases hidle.counted with hnone | hanswered
  · rw [hnone, List.count_nil]
  · rw [hanswered, count_answered hs]

/-- **A request whose job is not dispatched leaves the world alike.** -/
theorem alike_idle {service : Service} {w : World} {r : Http.Request}
    (hidle : Http.Idle (service.handle Queue.backend r w.queue) w.queue) :
    World.Alike (service.step w (.request r)).2 w where
  queue := hidle.state
  count s hs := by
    simp only [step]
    rw [Metrics.count_record, count_idle hidle hs, Nat.add_zero]

end Service

end RunnerDispatch
