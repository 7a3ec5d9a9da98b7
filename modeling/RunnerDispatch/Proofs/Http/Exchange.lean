import RunnerDispatch.Http.Exchange
import RunnerDispatch.Proofs.Dispatch

/-!
# What an exchange comes to

A request passes the limit on what it declares, its route, the limit on its body, the signature, the event
and the reader of the job, each with an answer of its own. **Either it passes all of them and its job is
dispatched, or nothing happens**; there is no third way.

* `Delivers`: what a request is that passes.
* `PassesOn`, `Idle`: the two kinds of answers.
* `Service.respond_delivers`, `Service.handle_cases`: who passes is dispatched, and every exchange is of one
  of the two kinds.
-/

namespace RunnerDispatch

namespace Http

section

variable {σ ε : Type}

/-- The body of a request is no longer than allowed, and signed if there is a secret. -/
structure Admits (service : Service) (r : Request) : Prop where
  length : bodyExceeds service.settings.webhook.bodyLimit r = false
  signed : ∀ secret, service.settings.webhook.secret = some secret →
    ∃ value header, r.header? Webhook.signatureHeader = some value ∧
      Request.textOf? value = some header ∧ Webhook.Signature.verify r.body secret header = .ok ()

/-- A request that passes every check, and its job. -/
structure Delivers (service : Service) (r : Request) (job : Job) : Prop extends Admits service r where
  method : r.method = "POST"
  path : r.path = service.settings.webhook.path
  declared : declaresTooMuch service.settings.webhook.bodyLimit r = false
  event : Webhook.checkEvent (r.readable? Webhook.eventHeader) = .ok ()
  parsed : Webhook.parseJob r.body = .ok job

/-- The answer says what dispatching a job came to, and what was counted for it is counted. -/
structure PassesOn (h : Handled σ) (d : Dispatched σ ε) : Prop where
  state : h.state = d.state
  counted : h.counted = d.counted ++ answered h.response.status
  accepted : ∀ outcome, d.result = .ok outcome →
    h.response.status = 200 ∧ h.response.body = outcome.body
  refused : ∀ e, d.result = .error e → h.response.status = (Refusal.dispatch e).status

/-- The answer to a delivery, given what dispatching its job came to. -/
def passOn (explain : ε → String) (d : Dispatched σ ε) : Handled σ :=
  match d.result with
  | .error e => refuse explain (.dispatch e) d.state d.records d.counted
  | .ok outcome => ⟨.json 200 outcome.body, d.state, d.records, d.counted ++ answered 200⟩

/-- The text that says that jobs can be added. -/
def healthyText : String := (Json.Value.record [("status", .text "ok")]).compact

/-- Nothing happened and no job is counted. -/
structure Idle (h : Handled σ) (state : σ) : Prop where
  state : h.state = state
  counted : h.counted = [] ∨ h.counted = answered h.response.status
  status : h.response.status ∈ [200, 400, 403, 404, 405, 413, 503]
  body : h.response.status = 200 → h.response.body = healthyText ∨ h.response.body = ""

theorem mapError_ok_iff {α β γ : Type} {x : Except α γ} {f : α → β} {c : γ} :
    x.mapError f = .ok c ↔ x = .ok c := by
  cases x <;> simp [Except.mapError]

theorem mapError_error {α β γ : Type} {x : Except α γ} {f : α → β} {b : β}
    (h : x.mapError f = .error b) : ∃ a, f a = b := by
  cases x with
  | error a => exact ⟨a, Except.error.inj h⟩
  | ok c => exact (nomatch h)

section

variable {secret header : String} {limit : Nat} {r : Request}

/-- Without a legible signature a body is not even measured. -/
theorem authenticate_illegible (h : r.readable? Webhook.signatureHeader = none) (secret : String) (limit : Nat) :
    ∃ e : Refusal ε, authenticate secret limit r = .error e ∧ e.status = 403 := by
  unfold authenticate
  cases hvalue : r.header? Webhook.signatureHeader with
  | none => exact ⟨_, rfl, rfl⟩
  | some value =>
    rw [Request.readable?, hvalue, Option.bind_some] at h
    simp only [h]
    exact ⟨_, rfl, rfl⟩

/-- **With a legible signature a body is measured before the signature is checked.** -/
theorem authenticate_legible (h : r.readable? Webhook.signatureHeader = some header) :
    (authenticate secret limit r : Except (Refusal ε) Unit) =
      if bodyExceeds limit r then .error (.bodyTooLong limit)
      else (Webhook.Signature.verify r.body secret header).mapError .signature := by
  obtain ⟨value, hvalue, htext⟩ := Option.bind_eq_some_iff.1 h
  simp only [authenticate, hvalue, htext]

/-- **A delivery is authenticated by the first header of the name**, over the whole body. -/
theorem authenticate_ok_iff :
    (authenticate secret limit r : Except (Refusal ε) Unit) = .ok () ↔
      bodyExceeds limit r = false ∧ ∃ value header, r.header? Webhook.signatureHeader = some value ∧
        Request.textOf? value = some header ∧ Webhook.Signature.verify r.body secret header = .ok () := by
  constructor
  · intro h
    cases hheader : r.readable? Webhook.signatureHeader with
    | none =>
      obtain ⟨e, he, -⟩ := authenticate_illegible (ε := ε) hheader secret limit
      exact (nomatch he.symm.trans h)
    | some header =>
      obtain ⟨value, hvalue, htext⟩ := Option.bind_eq_some_iff.1 hheader
      rw [authenticate_legible hheader] at h
      split at h
      · exact (nomatch h)
      · rename_i hbody
        exact ⟨Bool.eq_false_iff.2 hbody, value, header, hvalue, htext, mapError_ok_iff.1 h⟩
  · rintro ⟨hbody, value, header, hvalue, htext, hverify⟩
    rw [authenticate_legible (Option.bind_eq_some_iff.2 ⟨value, hvalue, htext⟩), hbody, if_neg Bool.false_ne_true]
    exact mapError_ok_iff.2 hverify

/-- Who is not authenticated is refused for want of a signature, **unless the body is too long**. -/
theorem status_authenticate {e : Refusal ε} (h : authenticate secret limit r = .error e) :
    e.status = 403 ∨ (bodyExceeds limit r = true ∧ e.status = 413) := by
  cases hheader : r.readable? Webhook.signatureHeader with
  | none =>
    obtain ⟨e', he', hstatus⟩ := authenticate_illegible (ε := ε) hheader secret limit
    obtain rfl := Except.error.inj (he'.symm.trans h)
    exact .inl hstatus
  | some header =>
    rw [authenticate_legible hheader] at h
    split at h
    · rename_i hbody
      obtain rfl := Except.error.inj h
      exact .inr ⟨hbody, rfl⟩
    · obtain ⟨fault, rfl⟩ := mapError_error h
      exact .inl rfl

end

theorem jobOf_ok_iff {r : Request} {job : Job} :
    (jobOf r : Except (Refusal ε) Job) = .ok job ↔
      Webhook.checkEvent (r.readable? Webhook.eventHeader) = .ok () ∧
        Webhook.parseJob r.body = .ok job := by
  unfold jobOf
  cases Webhook.checkEvent (r.readable? Webhook.eventHeader) with
  | error e => exact ⟨(nomatch ·), fun h => (nomatch h.1)⟩
  | ok u => exact mapError_ok_iff.trans (and_iff_right rfl).symm

theorem status_jobOf {r : Request} {e : Refusal ε} (h : jobOf r = .error e) : e.status = 400 := by
  unfold jobOf at h
  cases hc : Webhook.checkEvent (r.readable? Webhook.eventHeader) with
  | error fault =>
    rw [hc] at h
    obtain rfl := Except.error.inj h
    rfl
  | ok u =>
    rw [hc] at h
    obtain ⟨fault, rfl⟩ := mapError_error h
    rfl

/-! ## Layer by layer -/

/-- An answer that is not counted at all. -/
theorem idle_uncounted {response : Response} {records : List Log.Record}
    (hstatus : response.status ∈ [200, 400, 403, 404, 405, 413, 503])
    (hbody : response.status = 200 → response.body = healthyText ∨ response.body = "") (state : σ) :
    Idle { response, state, records } state :=
  ⟨rfl, .inl rfl, hstatus, hbody⟩

theorem idle_refuse (explain : ε → String) {e : Refusal ε} (state : σ)
    (he : e.status ∈ [400, 403, 413]) : Idle (refuse explain e state [] []) state where
  state := rfl
  counted := .inr rfl
  status := by
    have hstatus : (refuse explain e state [] []).response.status = e.status := rfl
    simp only [hstatus, List.mem_cons, List.not_mem_nil, or_false] at he ⊢
    omega
  body h := by
    have h200 : e.status = 200 := h
    simp only [h200, List.mem_cons, List.not_mem_nil, or_false] at he
    omega

/-- What is read is dispatched, and answered by what comes of that. -/
theorem deliver_eq (table : Routing.Table) (backend : Backend σ ε) {r : Request} {job : Job} (state : σ)
    (hevent : Webhook.checkEvent (r.readable? Webhook.eventHeader) = .ok ())
    (hparsed : Webhook.parseJob r.body = .ok job) :
    deliver table backend r state = passOn backend.explain (forward table backend job state) := by
  rw [deliver, jobOf_ok_iff.2 ⟨hevent, hparsed⟩]
  rfl

theorem passesOn_passOn (explain : ε → String) (d : Dispatched σ ε) : PassesOn (passOn explain d) d := by
  unfold passOn
  cases hd : d.result with
  | error e =>
    exact ⟨rfl, rfl, fun _ h => (nomatch hd.symm.trans h),
      fun e' h => by rw [Except.error.inj (hd.symm.trans h)]; rfl⟩
  | ok outcome =>
    exact ⟨rfl, rfl, fun o h => by rw [Except.ok.inj (hd.symm.trans h)]; exact ⟨rfl, rfl⟩,
      fun _ h => (nomatch hd.symm.trans h)⟩

theorem idle_deliver (table : Routing.Table) (backend : Backend σ ε) {r : Request} {e : Refusal ε}
    (state : σ) (h : jobOf r = .error e) : Idle (deliver table backend r state) state := by
  rw [deliver, h]
  exact idle_refuse _ state (by rw [status_jobOf h]; decide)

/-- With a secret, to be admitted is to be authenticated. -/
theorem admits_iff_authenticate {service : Service} {secret : String} {r : Request}
    (hs : service.settings.webhook.secret = some secret) : Admits service r ↔
      (authenticate secret service.settings.webhook.bodyLimit r : Except (Refusal ε) Unit) = .ok () := by
  rw [authenticate_ok_iff]
  constructor
  · intro h
    exact ⟨h.length, h.signed secret hs⟩
  · rintro ⟨hlength, hsigned⟩
    refine ⟨hlength, fun other h => ?_⟩
    obtain rfl := Option.some.inj (hs.symm.trans h)
    exact hsigned

/-- Without one it is to be short enough. -/
theorem admits_iff_length {service : Service} {r : Request} (hs : service.settings.webhook.secret = none) :
    Admits service r ↔ bodyExceeds service.settings.webhook.bodyLimit r = false := by
  constructor
  · intro h
    exact h.length
  · intro hlength
    refine ⟨hlength, fun secret h => ?_⟩
    rw [hs] at h
    cases h

/-- **With a secret nothing is read before it is authenticated**; without one the body is only measured. -/
theorem receive_cases (service : Service) (backend : Backend σ ε) (r : Request) (state : σ) :
    (Admits service r ∧ receive service backend r state = deliver service.table backend r state) ∨
      (¬ Admits service r ∧ Idle (receive service backend r state) state) := by
  cases hs : service.settings.webhook.secret with
  | some secret =>
    rw [admits_iff_authenticate (ε := ε) hs]
    cases ha : (authenticate secret service.settings.webhook.bodyLimit r : Except (Refusal ε) Unit) with
    | error e =>
      refine .inr ⟨(nomatch ·), ?_⟩
      simp only [receive, hs, ha]
      exact idle_refuse _ state (by rcases status_authenticate ha with h | ⟨-, h⟩ <;> rw [h] <;> decide)
    | ok u =>
      refine .inl ⟨rfl, ?_⟩
      simp only [receive, hs, ha]
  | none =>
    rw [admits_iff_length hs]
    cases hb : bodyExceeds service.settings.webhook.bodyLimit r with
    | true =>
      refine .inr ⟨by decide, ?_⟩
      simp only [receive, hs, hb, if_true]
      exact idle_uncounted (by decide) (fun h => absurd h (by decide)) state
    | false =>
      refine .inl ⟨rfl, ?_⟩
      simp only [receive, hs, hb, Bool.false_eq_true, if_false]

theorem idle_health (backend : Backend σ ε) (state : σ) : Idle (health backend state) state := by
  rw [health]
  split
  · exact idle_uncounted (by simp [Response.json]) (fun _ => .inl rfl) state
  · exact idle_uncounted (by simp [Response.json]) (by simp [Response.json]) state

theorem route_webhook_iff {path : String} {r : Request} :
    Route.of path r = .webhook ↔ r.method = "POST" ∧ r.path = path := by
  constructor
  · intro h
    unfold Route.of at h
    split at h
    · rename_i hboth
      exact hboth.symm
    split at h
    · exact (nomatch h)
    split at h <;> exact (nomatch h)
  · rintro ⟨hmethod, hpath⟩
    rw [Route.of, if_pos ⟨hpath, hmethod⟩]

/-- **What declares no more than the limit is left to its route.** -/
theorem respond_eq_follow {service : Service} {r : Request}
    (hfits : declaresTooMuch service.settings.webhook.bodyLimit r = false) (backend : Backend σ ε)
    (state : σ) : respond service backend r state = follow service backend r state := by
  rw [respond, hfits, if_neg Bool.false_ne_true]

/-- **Only a delivery on the webhook's path gets as far as the secret.** -/
theorem follow_cases (service : Service) (backend : Backend σ ε) (r : Request) (state : σ) :
    (Route.of service.settings.webhook.path r = .webhook ∧
        follow service backend r state = receive service backend r state) ∨
      (Route.of service.settings.webhook.path r ≠ .webhook ∧
        Idle (follow service backend r state) state) := by
  rw [follow]
  cases Route.of service.settings.webhook.path r with
  | webhook => exact .inl ⟨rfl, rfl⟩
  | health => exact .inr ⟨(nomatch ·), idle_health backend state⟩
  | wrongMethod _ => exact .inr ⟨(nomatch ·), idle_uncounted (by decide) (fun _ => .inr rfl) state⟩
  | unknown => exact .inr ⟨(nomatch ·), idle_uncounted (by decide) (fun _ => .inr rfl) state⟩

@[simp] theorem status_complete (service : Service) (r : Request) (response : Response) :
    (complete service r response).status = response.status := by
  rw [complete, Response.forMethod]
  split <;> rfl

theorem body_complete (service : Service) (r : Request) (response : Response) :
    (complete service r response).body = if r.method = "HEAD" then "" else response.body := by
  rw [complete, Response.forMethod]
  split <;> rfl

theorem Idle.complete {h : Handled σ} {state : σ} (hidle : Idle h state) (service : Service)
    (r : Request) : Idle { h with response := complete service r h.response } state where
  state := hidle.state
  counted := by
    simp only [status_complete]
    exact hidle.counted
  status := by
    simp only [status_complete]
    exact hidle.status
  body hok := by
    simp only [status_complete] at hok
    simp only [body_complete]
    split
    · exact .inr rfl
    · exact hidle.body hok

theorem PassesOn.complete {h : Handled σ} {d : Dispatched σ ε} (hd : PassesOn h d) (service : Service)
    {r : Request} (hmethod : r.method = "POST") :
    PassesOn { h with response := complete service r h.response } d where
  state := hd.state
  counted := by
    simp only [status_complete]
    exact hd.counted
  accepted outcome ho := by
    obtain ⟨hstatus, hbody⟩ := hd.accepted outcome ho
    simp only [status_complete, body_complete, hmethod]
    exact ⟨hstatus, hbody⟩
  refused e he := by
    simp only [status_complete]
    exact hd.refused e he

end

end Http

namespace Service

variable {σ ε : Type}

/-- **The job of a request that passes every check is dispatched**, and answered by what comes of that. -/
theorem respond_delivers {service : Service} {r : Http.Request} {job : Job}
    (h : Http.Delivers service r job) (backend : Backend σ ε) (state : σ) :
    Http.respond service backend r state =
      Http.passOn backend.explain (forward service.table backend job state) := by
  rw [Http.respond_eq_follow h.declared]
  rcases Http.follow_cases service backend r state with ⟨-, hfollow⟩ | ⟨hroute, -⟩
  case inr => exact absurd (Http.route_webhook_iff.2 ⟨h.method, h.path⟩) hroute
  rcases Http.receive_cases service backend r state with ⟨-, hreceive⟩ | ⟨hadmits, -⟩
  case inr => exact absurd h.toAdmits hadmits
  rw [hfollow, hreceive, Http.deliver_eq service.table backend state h.event h.parsed]

theorem handle_delivers {service : Service} {r : Http.Request} {job : Job}
    (h : Http.Delivers service r job) (backend : Backend σ ε) (state : σ) :
    Http.PassesOn (service.handle backend r state) (forward service.table backend job state) := by
  have hd := Http.passesOn_passOn backend.explain (forward service.table backend job state)
  rw [← respond_delivers h] at hd
  exact hd.complete service h.method

/-- A delivery without an identifier is **answered by what its job comes to and by nothing else**. -/
theorem handle_eq_passOn {service : Service} {r : Http.Request} {job : Job}
    (h : Http.Delivers service r job) (hid : r.header? "x-request-id" = none) (backend : Backend σ ε)
    (state : σ) : service.handle backend r state =
      Http.passOn backend.explain (forward service.table backend job state) := by
  have hroute := Http.route_webhook_iff.2 ⟨h.method, h.path⟩
  rw [handle, respond_delivers h, Http.complete, hroute, hid, h.method]
  unfold Http.passOn
  cases (forward service.table backend job state).result with
  | error e | ok outcome => rfl

/-- **Either the job of a request is dispatched or nothing happens.** -/
theorem handle_cases (service : Service) (backend : Backend σ ε) (r : Http.Request) (state : σ) :
    (∃ job, Http.Delivers service r job ∧
        Http.PassesOn (service.handle backend r state) (forward service.table backend job state)) ∨
      Http.Idle (service.handle backend r state) state := by
  have hdone (h : Http.Idle (Http.respond service backend r state) state) :
      Http.Idle (service.handle backend r state) state := h.complete service r
  cases hdeclared : Http.declaresTooMuch service.settings.webhook.bodyLimit r with
  | true =>
    refine .inr (hdone ?_)
    rw [Http.respond, if_pos hdeclared]
    exact Http.idle_uncounted (by decide) (fun h => absurd h (by decide)) state
  | false =>
    -- each layer answers by itself or hands the request on to the next
    rw [Http.respond_eq_follow hdeclared] at hdone
    rcases Http.follow_cases service backend r state with ⟨hroute, hfollow⟩ | ⟨-, hidle⟩
    case inr => exact .inr (hdone hidle)
    rw [hfollow] at hdone
    rcases Http.receive_cases service backend r state with ⟨hadmits, hreceive⟩ | ⟨-, hidle⟩
    case inr => exact .inr (hdone hidle)
    rw [hreceive] at hdone
    cases hj : (Http.jobOf r : Except (Http.Refusal ε) Job) with
    | error e => exact .inr (hdone (Http.idle_deliver service.table backend state hj))
    | ok job =>
      obtain ⟨hmethod, hpath⟩ := Http.route_webhook_iff.1 hroute
      obtain ⟨hevent, hparsed⟩ := Http.jobOf_ok_iff.1 hj
      have hdelivers : Http.Delivers service r job := ⟨hadmits, hmethod, hpath, hdeclared, hevent, hparsed⟩
      exact .inl ⟨job, hdelivers, handle_delivers hdelivers backend state⟩

end Service

/-! ## A delivery -/

/-- A service whose table has a default flavor and nothing else. -/
def Service.defaultOnly (webhook : WebhookSettings) : Service where
  settings := { webhook }
  table := { routes := ∅, default := ⟨"a", by decide⟩, flavors := [], ignored := ∅ }

namespace Http

/-- The body that announces the state of a job without labels. -/
def announcement (status : JobStatus) : Bytes := Bytes.ofString
  ("\x7b\"action\":\"" ++ status.name ++
    "\",\"workflow_job\":\x7b\"labels\":[],\"run_url\":\"a:\"\x7d\x7d")

set_option maxRecDepth 20000 in
theorem parseJob_announcement (status : JobStatus) :
    ∃ job, Webhook.parseJob (announcement status) = .ok job ∧ job.status = status ∧
      job.labels.toList = [] := by
  cases status <;> exact ⟨_, by cbv, rfl, rfl⟩

/-- A delivery of that body, with more headers. -/
def announcing (status : JobStatus) (headers : List (String × Bytes)) : Request where
  method := "POST"
  target := "/webhook"
  headers := ("x-github-event", Bytes.ofString "workflow_job") :: headers
  body := announcement status

end Http

end RunnerDispatch
