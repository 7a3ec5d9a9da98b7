import RunnerDispatch.Proofs.Http.Exchange
import RunnerDispatch.Proofs.Routing.Compilation
import RunnerDispatch.Proofs.Settings.Problems

/-!
# What is counted for an answer

A delivery is counted where it is answered: by the check of its signature if that fails, and otherwise when its
job was read and dispatched. An answer that is given at no such place is not counted.

* `Metrics.total`, `Metrics.total_record`: the sum of the counts of a family of series, and what recording adds to it.
* `Http.Refused`, `Http.Unseen`: an answer without a dispatch, counted or not.
* `Http.TurnedAway`: **the deliveries that are answered and not counted**: those that are too long, if they
  say so or if there is no secret.
* `Service.tally_cases`: the three ways of answering, with what is counted.
* `Service.counted_unless_turnedAway`: every other delivery on the webhook's path is **counted once, under the
  status code of its answer**.
-/

namespace RunnerDispatch

/-! ## Sums of counts -/

/-- Whether a series counts answers of some status code. -/
def Series.isAnswered : Series → Bool
  | .answered _ => true
  | _ => false

namespace Metrics

/-- The sum over the series of a family in a list of counts. -/
def sumOf (family : Series → Bool) : List (Series × Nat) → Nat
  | [] => 0
  | (s, n) :: counts => (if family s then n else 0) + sumOf family counts

/-- **The sum of the counts of a family of series.** -/
def total (m : Metrics) (family : Series → Bool) : Nat := sumOf family m.counts

variable {family : Series → Bool}

theorem sumOf_bump (s : Series) (counts : List (Series × Nat)) :
    sumOf family (bump s counts) = sumOf family counts + if family s = true then 1 else 0 := by
  induction counts with
  | nil => exact Nat.add_comm _ _
  | cons p counts ih =>
    obtain ⟨t, n⟩ := p
    rw [bump]
    by_cases ht : t = s
    · subst ht
      rw [if_pos rfl, sumOf, sumOf]
      split <;> omega
    · rw [if_neg ht, sumOf, sumOf, ih]
      omega

/-- **Recording adds to a family the times that a member of it is named.** -/
theorem total_record (m : Metrics) (named : List Series) :
    (m.record named).total family = m.total family + named.countP family := by
  obtain ⟨counts, table⟩ := m
  show sumOf family (named.foldl _ counts) = sumOf family counts + _
  induction named generalizing counts with
  | nil => rfl
  | cons s named ih =>
    rw [List.foldl_cons, ih, sumOf_bump, List.countP_cons]
    omega

end Metrics

namespace Http

variable {σ ε : Type}

theorem countP_answered (status : Nat) : (answered status).countP Series.isAnswered = 1 := rfl

theorem count_answered_self (status : Nat) : (answered status).count (.answered status) = 1 := by
  rw [answered, List.count_cons_self]
  rfl

/-! ## Answers without a dispatch -/

/-- The answer to a delivery that is refused before its job is dispatched: it is counted, and nothing else. -/
structure Refused (h : Handled σ) (state : σ) : Prop where
  state : h.state = state
  counted : h.counted = answered h.response.status
  status : h.response.status ∈ [400, 403, 413]

/-- An answer that is not counted. -/
structure Unseen (h : Handled σ) (state : σ) : Prop where
  state : h.state = state
  counted : h.counted = []

/-- A request that is answered for its length before anybody counts: it declares too much, or **there is no
secret and so the first to see the body is who reads it**. -/
def TurnedAway (service : Service) (r : Request) : Prop :=
  let limit := service.settings.webhook.bodyLimit
  declaresTooMuch limit r = true ∨ (service.settings.webhook.secret = none ∧ bodyExceeds limit r = true)

theorem refused_refuse (explain : ε → String) {e : Refusal ε} (he : e.status ∈ [400, 403, 413]) (state : σ) :
    Refused (refuse explain e state [] []) state :=
  ⟨rfl, rfl, he⟩

/-- **Whoever is not authenticated is refused, and counted**; without a secret the length is all that is
checked, and not counted. -/
theorem receive_tally (service : Service) (backend : Backend σ ε) (r : Request) (state : σ) :
    (Admits service r ∧ receive service backend r state = deliver service.table backend r state) ∨
      Refused (receive service backend r state) state ∨
      (TurnedAway service r ∧ Unseen (receive service backend r state) state) := by
  rcases receive_cases service backend r state with hdeliver | ⟨hadmits, -⟩
  · exact .inl hdeliver
  right
  cases hs : service.settings.webhook.secret with
  | some secret =>
    left
    rw [admits_iff_authenticate (ε := ε) hs] at hadmits
    cases ha : (authenticate secret service.settings.webhook.bodyLimit r : Except (Refusal ε) Unit) with
    | error e =>
      simp only [receive, hs, ha]
      apply refused_refuse
      rcases status_authenticate ha with h | ⟨-, h⟩ <;> rw [h] <;> decide
    | ok u => exact absurd ha hadmits
  | none =>
    right
    rw [admits_iff_length hs, Bool.not_eq_false] at hadmits
    refine ⟨.inr ⟨hs, hadmits⟩, ?_⟩
    simp only [receive, hs, hadmits, if_true]
    exact ⟨rfl, rfl⟩

theorem unseen_health (backend : Backend σ ε) (state : σ) : Unseen (health backend state) state := by
  rw [health]
  split <;> exact ⟨rfl, rfl⟩

theorem Refused.complete {h : Handled σ} {state : σ} (hr : Refused h state) (service : Service)
    (r : Request) : Refused { h with response := complete service r h.response } state where
  state := hr.state
  counted := by
    rw [status_complete]
    exact hr.counted
  status := by
    rw [status_complete]
    exact hr.status

/-- What is too long is answered alike by all who may find out. -/
theorem status_turnedAway {service : Service} {r : Request}
    (hroute : Route.of service.settings.webhook.path r = .webhook) (hr : TurnedAway service r)
    (backend : Backend σ ε) (state : σ) :
    (respond service backend r state).response.status = 413 ∧ Unseen (respond service backend r state) state := by
  rw [respond]
  split
  · exact ⟨rfl, rfl, rfl⟩
  · rename_i hdeclared
    rcases hr with h | ⟨hnone, hlong⟩
    · exact absurd h hdeclared
    · simp only [follow, hroute, receive, hnone, hlong, if_true]
      exact ⟨rfl, rfl, rfl⟩

end Http

namespace Service

variable {σ ε : Type}

/-- **The ways in which a request is answered**, with what each counts. -/
theorem tally_cases (service : Service) (backend : Backend σ ε) (r : Http.Request) (state : σ) :
    (∃ job, Http.Delivers service r job ∧
        Http.PassesOn (service.handle backend r state) (forward service.table backend job state)) ∨
      Http.Refused (service.handle backend r state) state ∨
      ((Http.Route.of service.settings.webhook.path r = .webhook → Http.TurnedAway service r) ∧
        Http.Unseen (service.handle backend r state) state) := by
  have hunseen (h : Http.Unseen (Http.respond service backend r state) state) :
      Http.Unseen (service.handle backend r state) state := ⟨h.state, h.counted⟩
  cases hdeclared : Http.declaresTooMuch service.settings.webhook.bodyLimit r with
  | true =>
    refine .inr (.inr ⟨fun _ => .inl hdeclared, hunseen ?_⟩)
    rw [Http.respond, if_pos hdeclared]
    exact ⟨rfl, rfl⟩
  | false =>
    have hfollow := Http.respond_eq_follow hdeclared backend state
    by_cases hroute : Http.Route.of service.settings.webhook.path r = .webhook
    case neg =>
      -- what is no delivery is answered by its route and counted by nobody
      refine .inr (.inr ⟨fun h => absurd h hroute, hunseen ?_⟩)
      rw [hfollow, Http.follow]
      split
      · rename_i h
        exact absurd h hroute
      · exact Http.unseen_health backend state
      · exact ⟨rfl, rfl⟩
      · exact ⟨rfl, rfl⟩
    have hreceive : Http.respond service backend r state = Http.receive service backend r state := by
      rw [hfollow, Http.follow, hroute]
    rcases Http.receive_tally service backend r state with ⟨hadmits, hdeliver⟩ | hrefused | ⟨haway, hnone⟩
    · cases hj : (Http.jobOf r : Except (Http.Refusal ε) Job) with
      | error e =>
        refine .inr (.inl ?_)
        have hrefused : Http.Refused (Http.respond service backend r state) state := by
          rw [hreceive, hdeliver, Http.deliver, hj]
          exact Http.refused_refuse _ (by rw [Http.status_jobOf hj]; decide) state
        exact hrefused.complete service r
      | ok job =>
        obtain ⟨hmethod, hpath⟩ := Http.route_webhook_iff.1 hroute
        obtain ⟨hevent, hparsed⟩ := Http.jobOf_ok_iff.1 hj
        have hdelivers : Http.Delivers service r job := ⟨hadmits, hmethod, hpath, hdeclared, hevent, hparsed⟩
        exact .inl ⟨job, hdelivers, handle_delivers hdelivers backend state⟩
    · rw [← hreceive] at hrefused
      exact .inr (.inl (hrefused.complete service r))
    · rw [← hreceive] at hnone
      exact .inr (.inr ⟨fun _ => haway, hunseen hnone⟩)

/-- What is counted for a job says nothing of the answer. -/
theorem countP_forward (table : Routing.Table) (backend : Backend σ ε) (job : Job) (state : σ) :
    (forward table backend job state).counted.countP Series.isAnswered = 0 := by
  rcases forward_cases table backend job state with
    ⟨-, -, -, hc⟩ | ⟨e, -, -, -, -, hc⟩ | ⟨f, -, -, -, -, -, hc⟩ | ⟨f, e, -, -, -, -, -, hc⟩ <;> rw [hc] <;> rfl

/-- **A delivery is counted once, under the status code of its answer, unless it is turned away for its
length.** Whatever the settings, the backend and what it holds, and whatever else a POST on the webhook's path
says: if it is not turned away, handling it adds one to the answers of all status codes together, and that one
to those of the status code that it is answered with. If it is turned away it is answered with 413, and nothing
is counted. -/
theorem counted_unless_turnedAway (service : Service) (backend : Backend σ ε) (r : Http.Request) (state : σ)
    (hmethod : r.method = "POST") (hpath : r.path = service.settings.webhook.path) :
    let h := service.handle backend r state
    (¬ Http.TurnedAway service r → ∀ metrics : Metrics,
      (metrics.record h.counted).total Series.isAnswered = metrics.total Series.isAnswered + 1 ∧
      (metrics.record h.counted).count (.answered h.response.status) =
        metrics.count (.answered h.response.status) + 1) ∧
    (Http.TurnedAway service r → h.response.status = 413 ∧ h.counted = []) := by
  intro h
  have hroute : Http.Route.of service.settings.webhook.path r = .webhook :=
    Http.route_webhook_iff.2 ⟨hmethod, hpath⟩
  constructor
  · intro hstays metrics
    -- whether a job was dispatched or not, what is counted ends with the answer
    obtain ⟨jobs, hjobs, hcounted⟩ : ∃ jobs : List Series, jobs.countP Series.isAnswered = 0 ∧
        h.counted = jobs ++ Http.answered h.response.status := by
      rcases tally_cases service backend r state with ⟨job, -, hd⟩ | hrefused | ⟨haway, -⟩
      · exact ⟨_, countP_forward service.table backend job state, hd.counted⟩
      · exact ⟨[], rfl, hrefused.counted⟩
      · exact absurd (haway hroute) hstays
    have hnone : jobs.count (.answered h.response.status) = 0 := by
      rw [List.count_eq_zero]
      intro hmem
      exact absurd rfl (List.countP_eq_zero.1 hjobs _ hmem)
    rw [Metrics.total_record, Metrics.count_record, hcounted, List.countP_append, List.count_append, hjobs, hnone,
      Http.countP_answered, Http.count_answered_self]
    exact ⟨rfl, rfl⟩
  · intro haway
    obtain ⟨hstatus, hunseen⟩ := Http.status_turnedAway hroute haway backend state
    exact ⟨(Http.status_complete service r _).trans hstatus, hunseen.counted⟩

/-- A delivery without headers. -/
def bareDelivery (body : Bytes) : Http.Request where
  method := "POST"
  target := "/webhook"
  body := body

/-- A delivery that is short enough is counted, here with what it lacks. -/
theorem counted_unless_turnedAway_short :
    let service : Service := ⟨{ webhook := { bodyLimit := 10 }, rules := Routing.loneFlavor }, Routing.loneTable⟩
    let h := service.handle Queue.backend (bareDelivery (List.replicate 10 120)) { capacity := 1 }
    (({} : Metrics).record h.counted).total Series.isAnswered = 1 := by
  intro service h
  have hpath : (bareDelivery (List.replicate 10 120)).path = service.settings.webhook.path := by cbv
  have hstays : ¬ Http.TurnedAway service (bareDelivery (List.replicate 10 120)) := by
    rintro (hdeclared | ⟨-, hlong⟩)
    · have hfits : Http.declaresTooMuch 10 (bareDelivery (List.replicate 10 120)) = false := by cbv
      exact absurd (hfits.symm.trans hdeclared) (by decide)
    · have hshort : Http.bodyExceeds 10 (bareDelivery (List.replicate 10 120)) = false := by cbv
      exact absurd (hshort.symm.trans hlong) (by decide)
  obtain ⟨hcounted, -⟩ := counted_unless_turnedAway service Queue.backend
    (bareDelivery (List.replicate 10 120)) { capacity := 1 } rfl hpath
  exact (hcounted hstays {}).1

/-- **A delivery may be answered and not counted**: settings without a problem and a body of one byte too many. -/
theorem not_counted_tooLong :
    let settings : Settings := { webhook := { bodyLimit := 10 }, rules := Routing.loneFlavor }
    let service : Service := ⟨settings, Routing.loneTable⟩
    let r := bareDelivery (List.replicate 11 120)
    let h := service.handle Queue.backend r { capacity := 1 }
    settings.problems = [] ∧ (assemble settings).result = .ok service ∧
      r.method = "POST" ∧ r.path = settings.webhook.path ∧
      h.response.status = 413 ∧ (({} : Metrics).record h.counted).total Series.isAnswered = 0 := by
  intro settings service r h
  have hassemble : (assemble settings).result = .ok service := by
    rw [assemble, Routing.compile_loneFlavor]
  exact ⟨Settings.problems_webhook _ _ _, hassemble, rfl, by cbv, by cbv, by cbv⟩

end Service

end RunnerDispatch
