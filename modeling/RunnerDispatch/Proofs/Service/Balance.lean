import RunnerDispatch.Proofs.Http.Tally
import RunnerDispatch.Proofs.Service.Run

/-!
# The books balance

A service counts what it does in three places: where a job is dispatched, where a delivery was handled and
where its signature is refused. What is counted in one place must agree with what is counted in the others, and
with what really happened.

* `Service.fresh`: a service that has just started.
* `Service.Takes`, `Service.Refuses`, `Service.Rejects`: what happens without a count of its own.
* `Service.Balanced`: the counts agree with one another and with the history.
* `Service.booked_request`: what one request adds; every answer brings its whole entry.
* `Service.Balanced.step`, `Service.balanced_run`: every event keeps the balance, so **the counts balance after
  every run**.
-/

namespace RunnerDispatch

/-- Whether a series counts jobs handed to the queue. -/
def Series.isForwarded : Series → Bool
  | .forwarded _ => true
  | _ => false

/-- Whether a series counts jobs passed over. -/
def Series.isSkipped : Series → Bool
  | .skipped _ => true
  | _ => false

namespace Service

/-- A service that has just started: its queue is empty, and the size of its table is all that was noted. -/
def fresh (service : Service) : World where
  queue := { capacity := service.settings.queue.capacity }
  metrics := ({} : Metrics).measure service.size

/-- A message under a name is handed out. -/
def Takes (name : String) : World × Event → Bool
  | (w, .operation (.take asked)) => asked == name && (w.queue.take asked).1.isSome
  | _ => false

/-- **The queue refuses the job of a delivery**, and the answer says so. -/
def Refuses (service : Service) : World × Event → Prop
  | (w, .request r) => ∃ job flavor fault, Http.Delivers service r job ∧ job.status = .queued ∧
      service.table.resolve job.labels.toList = .ok flavor ∧ (w.queue.add job flavor).result = .error fault ∧
      let response := (service.handle Queue.backend r w.queue).response
      response.status = 503 ∧ response.body = "failed to enqueue job: " ++ fault.message
  | (_, .operation _) => False

/-- **No flavor offers what the job of a delivery asks for**, and the answer says so. -/
def Rejects (service : Service) : World × Event → Prop
  | (w, .request r) => ∃ job e, Http.Delivers service r job ∧ job.status = .queued ∧
      service.table.resolve job.labels.toList = .error e ∧
      let response := (service.handle Queue.backend r w.queue).response
      response.status = 400 ∧ response.body = "not able to forward job: " ++ e.message
  | (_, .operation _) => False

open scoped Classical in
/-- **The counts agree with one another and with what happened.** -/
structure Balanced (service : Service) (history : List (World × Event)) (now : World) : Prop where
  /-- What was forwarded to a flavor was handed out or still waits. -/
  forwarded : ∀ f : Flavor, now.metrics.count (.forwarded f) =
    history.countP (Takes f.name) + now.queue.pending f.name
  /-- A delivery is a success if its job was forwarded or passed over. -/
  accepted : now.metrics.count (.answered 200) =
    now.metrics.total Series.isForwarded + now.metrics.total Series.isSkipped
  refused : now.metrics.count (.answered 503) = history.countP (Refuses service)
  rejected : now.metrics.count .rejected = history.countP (Rejects service)
  /-- Whatever is counted is timed. -/
  timed : now.metrics.count .timed = now.metrics.total Series.isAnswered

variable {service : Service} {w : World} {r : Http.Request} {job : Job}

/-! ## What one request adds -/

/-- A delivery whose job is not dispatched is answered with the fault. -/
theorem response_fault {σ ε : Type} (h : Http.Delivers service r job) (backend : Backend σ ε) (state : σ)
    {e : DispatchFault ε} (he : (forward service.table backend job state).result = .error e) :
    (service.handle backend r state).response.status = (Http.Refusal.dispatch e).status ∧
      (service.handle backend r state).response.body = e.message backend.explain := by
  have hrespond : Http.respond service backend r state = Http.refuse backend.explain (.dispatch e)
      (forward service.table backend job state).state (forward service.table backend job state).records
      (forward service.table backend job state).counted := by
    rw [respond_delivers h, Http.passOn, he]
  have hmethod : r.method ≠ "HEAD" := by
    rw [h.method]
    decide
  simp only [handle, Http.status_complete, Http.body_complete, hmethod, if_false, hrespond]
  exact ⟨rfl, rfl⟩

/-- A request delivers one job at most. -/
theorem delivers_unique (h : Http.Delivers service r job) {other : Job} (ho : Http.Delivers service r other) :
    other = job :=
  Except.ok.inj (ho.parsed.symm.trans h.parsed)

/-- A delivery is refused if its dispatch fails in the queue. -/
theorem refuses_iff (h : Http.Delivers service r job) (w : World) : Refuses service (w, .request r) ↔
    ∃ fault, (forward service.table Queue.backend job w.queue).result = .error (.queue fault) := by
  constructor
  · rintro ⟨other, flavor, fault, hother, hqueued, hresolve, hadd, -⟩
    obtain rfl := delivers_unique h hother
    have hroutable : other.status.isRoutable = true := by rw [hqueued]; rfl
    exact ⟨fault, result_queue_iff.2 ⟨hroutable, flavor, hresolve, hadd⟩⟩
  · rintro ⟨fault, hd⟩
    obtain ⟨hroutable, flavor, hresolve, hadd⟩ := result_queue_iff.1 hd
    obtain ⟨hstatus, hbody⟩ := response_fault h Queue.backend w.queue hd
    exact ⟨job, flavor, fault, h, beq_iff_eq.1 hroutable, hresolve, hadd, hstatus, hbody⟩

/-- A delivery is rejected if its dispatch finds no flavor. -/
theorem rejects_iff (h : Http.Delivers service r job) (w : World) : Rejects service (w, .request r) ↔
    ∃ e, (forward service.table Queue.backend job w.queue).result = .error (.noMatch e) := by
  constructor
  · rintro ⟨other, e, hother, hqueued, hresolve, -⟩
    obtain rfl := delivers_unique h hother
    have hroutable : other.status.isRoutable = true := by rw [hqueued]; rfl
    exact ⟨e, result_noMatch_iff.2 ⟨hroutable, hresolve⟩⟩
  · rintro ⟨e, hd⟩
    obtain ⟨hroutable, hresolve⟩ := result_noMatch_iff.1 hd
    obtain ⟨hstatus, hbody⟩ := response_fault h Queue.backend w.queue hd
    exact ⟨job, e, h, beq_iff_eq.1 hroutable, hresolve, hstatus, hbody⟩

open scoped Classical in
/-- **What a request adds to the lines and to the counts.** -/
structure Booked (service : Service) (w : World) (r : Http.Request) (h : Http.Handled Queue) : Prop where
  forwarded : ∀ f : Flavor, h.state.pending f.name = w.queue.pending f.name + h.counted.count (.forwarded f)
  accepted : h.counted.count (.answered 200) =
    h.counted.countP Series.isForwarded + h.counted.countP Series.isSkipped
  refused : h.counted.count (.answered 503) = if Refuses service (w, .request r) then 1 else 0
  rejected : h.counted.count .rejected = if Rejects service (w, .request r) then 1 else 0
  timed : h.counted.count .timed = h.counted.countP Series.isAnswered

/-- **A line grows by the jobs that are counted as forwarded to its flavor.** -/
theorem pending_forward (table : Routing.Table) (job : Job) (q : Queue) (f : Flavor) :
    let d := forward table Queue.backend job q
    d.state.pending f.name = q.pending f.name + d.counted.count (.forwarded f) := by
  intro d
  have hwaiting (g : Flavor) : (Queue.backend.add job g q).2.1.pending f.name =
      q.pending f.name + if q.Accepts g ∧ g = f then 1 else 0 := by
    show ((q.add job g).queue.waiting f.name).length = _
    rw [Queue.waiting_add]
    simp only [Flavor.name_inj]
    split
    · exact List.length_append
    · rfl
  rcases forward_cases table Queue.backend job q with
    ⟨-, -, hs, hc⟩ | ⟨e, -, -, -, hs, hc⟩ | ⟨g, -, -, ha, -, hs, hc⟩ | ⟨g, e, -, -, ha, -, hs, hc⟩
  · rw [hs, hc]
    rfl
  · rw [hs, hc]
    rfl
  · have haccepts : q.Accepts g := Queue.result_add_ok.1 ha
    rw [hs, hc, hwaiting, List.count_singleton]
    simp [haccepts]
  · have hrefuses : ¬ q.Accepts g := fun h => (nomatch (Queue.result_add_ok.2 h).symm.trans ha)
    rw [hs, hc, hwaiting, if_neg fun h => hrefuses h.1]
    rfl

/-- What is counted for a delivery, by what its dispatch came to. -/
def entry {ε : Type} : Except (DispatchFault ε) Outcome → List Series
  | .ok (.forwarded f) => .forwarded f :: Http.answered 200
  | .ok (.skipped status) => .skipped status :: Http.answered 200
  | .error (.noMatch _) => .rejected :: Http.answered 400
  | .error (.queue _) => Http.answered 503

/-- **Every delivery is counted in full**: for what became of its job and for its answer. -/
theorem counted_delivers {σ ε : Type} (h : Http.Delivers service r job) (backend : Backend σ ε) (state : σ) :
    (service.handle backend r state).counted = entry (forward service.table backend job state).result := by
  have hd := handle_delivers h backend state
  rw [hd.counted]
  rcases forward_cases service.table backend job state with
    ⟨-, hr, -, hc⟩ | ⟨e, -, -, hr, -, hc⟩ | ⟨f, -, -, -, hr, -, hc⟩ | ⟨f, e, -, -, -, hr, -, hc⟩
  · rw [hc, hr, (hd.accepted _ hr).1]
    rfl
  · rw [hc, hr, hd.refused _ hr]
    rfl
  · rw [hc, hr, (hd.accepted _ hr).1]
    rfl
  · rw [hc, hr, hd.refused _ hr]
    rfl

theorem booked_delivers (h : Http.Delivers service r job) (w : World) :
    Booked service w r (service.handle Queue.backend r w.queue) where
  forwarded f := by
    have hd := handle_delivers h Queue.backend w.queue
    rw [hd.state, hd.counted, List.count_append, count_answered rfl]
    exact pending_forward service.table job w.queue f
  accepted := by
    rw [counted_delivers h]
    rcases (forward service.table Queue.backend job w.queue).result with (_ | _) | (_ | _) <;> rfl
  refused := by
    rw [counted_delivers h, refuses_iff h w]
    rcases (forward service.table Queue.backend job w.queue).result with (_ | _) | (_ | _) <;>
      simp [entry, Http.answered]
  rejected := by
    rw [counted_delivers h, rejects_iff h w]
    rcases (forward service.table Queue.backend job w.queue).result with (_ | _) | (_ | _) <;>
      simp [entry, Http.answered]
  timed := by
    rw [counted_delivers h]
    rcases (forward service.table Queue.backend job w.queue).result with (_ | _) | (_ | _) <;> rfl

/-- A refusal is counted for itself: its code is neither that of success nor that of the queue. -/
theorem booked_refused {h : Http.Handled Queue} (hr : Http.Refused h w.queue)
    (hrefuses : ¬ Refuses service (w, .request r)) (hrejects : ¬ Rejects service (w, .request r)) :
    Booked service w r h where
  forwarded f := by
    rw [hr.state, hr.counted, count_answered rfl]
    rfl
  accepted := by
    have hstatus := hr.status
    simp only [List.mem_cons, List.not_mem_nil, or_false] at hstatus
    rw [hr.counted]
    rcases hstatus with h | h | h <;> rw [h] <;> rfl
  refused := by
    have hstatus := hr.status
    simp only [List.mem_cons, List.not_mem_nil, or_false] at hstatus
    rw [hr.counted, if_neg hrefuses]
    rcases hstatus with h | h | h <;> rw [h] <;> rfl
  rejected := by rw [hr.counted, if_neg hrejects, count_answered rfl]
  timed := by
    rw [hr.counted]
    rfl

theorem booked_unseen {h : Http.Handled Queue} (hu : Http.Unseen h w.queue)
    (hrefuses : ¬ Refuses service (w, .request r)) (hrejects : ¬ Rejects service (w, .request r)) :
    Booked service w r h where
  forwarded f := by
    rw [hu.state, hu.counted]
    rfl
  accepted := by
    rw [hu.counted]
    rfl
  refused := by
    rw [hu.counted, if_neg hrefuses]
    rfl
  rejected := by
    rw [hu.counted, if_neg hrejects]
    rfl
  timed := by
    rw [hu.counted]
    rfl

/-- **Every request brings its whole entry**, or none. -/
theorem booked_request (service : Service) (w : World) (r : Http.Request) :
    Booked service w r (service.handle Queue.backend r w.queue) := by
  by_cases hd : ∃ job, Http.Delivers service r job
  · obtain ⟨job, h⟩ := hd
    exact booked_delivers h w
  have hrefuses : ¬ Refuses service (w, .request r) := fun ⟨job, _, _, h, _⟩ => hd ⟨job, h⟩
  have hrejects : ¬ Rejects service (w, .request r) := fun ⟨job, _, h, _⟩ => hd ⟨job, h⟩
  rcases tally_cases service Queue.backend r w.queue with ⟨job, h, -⟩ | hrefused | ⟨-, hunseen⟩
  · exact absurd ⟨job, h⟩ hd
  · exact booked_refused hrefused hrefuses hrejects
  · exact booked_unseen hunseen hrefuses hrejects

/-! ## Runs -/

variable {history : List (World × Event)}

theorem balanced_fresh (service : Service) : Balanced service [] service.fresh :=
  ⟨fun _ => rfl, rfl, rfl, rfl, rfl⟩

/-- **A request keeps the balance**: what it adds to one side of an equation it adds to the other. -/
theorem Balanced.request (h : Balanced service history w) (r : Http.Request) :
    Balanced service (history ++ [(w, .request r)]) (service.step w (.request r)).2 := by
  classical
  have hb := booked_request service w r
  have hmetrics : (service.step w (.request r)).2.metrics =
      w.metrics.record (service.handle Queue.backend r w.queue).counted := rfl
  refine
    { forwarded := fun f => ?forwarded
      accepted := ?accepted
      refused := ?refused
      rejected := ?rejected
      timed := ?timed } <;> rw [hmetrics]
  case forwarded =>
    have hpending : (service.step w (.request r)).2.queue.pending f.name = _ := hb.forwarded f
    have hnone : [(w, Event.request r)].countP (Takes f.name) = 0 := rfl
    rw [Metrics.count_record, List.countP_append, hnone, hpending, h.forwarded f]
    omega
  case accepted =>
    rw [Metrics.count_record, Metrics.total_record, Metrics.total_record, hb.accepted, h.accepted]
    omega
  case refused =>
    rw [Metrics.count_record, List.countP_append, List.countP_singleton, hb.refused, h.refused]
    simp only [decide_eq_true_eq]
  case rejected =>
    rw [Metrics.count_record, List.countP_append, List.countP_singleton, hb.rejected, h.rejected]
    simp only [decide_eq_true_eq]
  case timed => rw [Metrics.count_record, Metrics.total_record, hb.timed, h.timed]

/-- A line shrinks by the message that is handed out. -/
theorem pending_take (w : World) (asked name : String) : w.queue.pending name =
    (w.queue.take asked).2.pending name + [(w, Event.operation (.take asked))].countP (Takes name) := by
  rw [List.countP_singleton]
  unfold Queue.pending
  rw [Queue.waiting_take]
  by_cases hname : asked = name
  · subst hname
    simp only [Takes, Queue.take, if_true, beq_self_eq_true, Bool.true_and]
    cases w.queue.waiting asked <;> rfl
  · simp [Takes, hname]

/-- **An operation on the queue keeps the balance**, unless it puts in a job by itself. -/
theorem Balanced.operation (h : Balanced service history w) {op : Queue.Operation}
    (hop : ∀ job f, op ≠ .add job f) :
    Balanced service (history ++ [(w, .operation op)]) (service.step w (.operation op)).2 := by
  classical
  have hnone (p : World × Event → Prop) (hp : ¬ p (w, .operation op)) :
      (history ++ [(w, Event.operation op)]).countP p = history.countP p := by
    rw [List.countP_append, List.countP_singleton, if_neg (by simpa using hp), Nat.add_zero]
  refine
    { forwarded := fun f => ?forwarded
      accepted := h.accepted
      refused := ?refused
      rejected := ?rejected
      timed := h.timed }
  case forwarded =>
    have hsame : (service.step w (.operation op)).2.metrics.count (.forwarded f) =
        history.countP (Takes f.name) + w.queue.pending f.name := h.forwarded f
    rw [hsame, List.countP_append]
    cases op with
    | add job f => exact absurd rfl (hop job f)
    | take asked =>
      have htake := pending_take w asked f.name
      simp only [step, Queue.perform]
      omega
    | pending asked | close | canConnect => rfl
  case refused =>
    rw [hnone _ not_false]
    exact h.refused
  case rejected =>
    rw [hnone _ not_false]
    exact h.rejected

theorem Balanced.step (h : Balanced service history w) {e : Event}
    (he : ∀ job f, e ≠ .operation (.add job f)) :
    Balanced service (history ++ [(w, e)]) (service.step w e).2 := by
  cases e with
  | request r => exact h.request r
  | operation op => exact h.operation fun job f hop => he job f (congrArg Event.operation hop)

/-- **The counts balance after every run.** A service that has just started, whatever its settings and its
table, handles requests while its queue is emptied and closed, all in any order; the queue is filled by
nothing else. Then the counts agree with what happened: for each flavor the jobs that were forwarded are those
that were handed out and those that still wait; the answers with 200 are the jobs forwarded and passed over, in
all flavors and states; those with 503 are the jobs that the queue refused; the jobs rejected are those answered
with labels that no flavor offers; and as many deliveries were timed as were answered, whatever the status
code. -/
theorem balanced_run (service : Service) (events : List Event)
    (honly : ∀ job f, .operation (.add job f) ∉ events) :
    Balanced service (Machine.moments service.step service.fresh events)
      (Machine.after service.step service.fresh events) := by
  have hstep : ∀ past w, ∀ e ∈ events, Balanced service past w →
      Balanced service (past ++ [(w, e)]) (service.step w e).2 := by
    intro past w e he h
    apply h.step
    rintro job f rfl
    exact honly job f he
  exact Machine.moments_induction events hstep (balanced_fresh service)

set_option maxRecDepth 20000 in
/-- Of two jobs one is forwarded and handed out, and the other is passed over. -/
theorem balanced_run_handedOut :
    let service : Service := ⟨{ rules := Routing.loneFlavor }, Routing.loneTable⟩
    let events := [.request (Http.announcing .queued []), .request (Http.announcing .waiting []),
      .operation (.take "lone")]
    let now := Machine.after service.step service.fresh events
    now.metrics.count (.answered 200) = 2 ∧
      (Machine.moments service.step service.fresh events).countP (Takes "lone") = 1 := by
  intro service events now
  have honly : ∀ job f, .operation (.add job f) ∉ events := by
    intro job f h
    simp [events] at h
  have hmetrics : now.metrics.counts =
      [(.forwarded Routing.loneTable.default, 1), (.answered 200, 2), (.timed, 2), (.skipped .waiting, 1)] := by
    cbv
  have hqueue : now.queue.lines = [(Routing.loneTable.default, [])] := by cbv
  have hbalanced := balanced_run service events honly
  constructor
  · rw [hbalanced.accepted, Metrics.total, Metrics.total, hmetrics]
    rfl
  · have hforwarded : now.metrics.count (.forwarded Routing.loneTable.default) =
        (Machine.moments service.step service.fresh events).countP (Takes "lone") + now.queue.pending "lone" :=
      hbalanced.forwarded Routing.loneTable.default
    rw [Metrics.count, hmetrics, Queue.pending, Queue.waiting, hqueue] at hforwarded
    exact hforwarded.symm

end Service

end RunnerDispatch
