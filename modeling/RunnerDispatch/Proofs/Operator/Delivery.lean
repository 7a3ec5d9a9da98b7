import RunnerDispatch.Operator.Session
import RunnerDispatch.Proofs.Dispatch.Effects
import RunnerDispatch.Proofs.Http.Acknowledgment
import RunnerDispatch.Proofs.Job.Message
import RunnerDispatch.Proofs.Routing.Shape
import RunnerDispatch.Proofs.Webhook.Signature

/-!
# What an operator sends is understood

The operator's command writes a delivery, and a service reads it. Neither knows the other's code.

* `Sending.parseJob_body`: **the body is read as the job that was meant.**
* `Sending.delivers`: so the request passes every check of a service with the same secret, or with none.
* `conclude_passOn`: the command succeeds if and only if the answer is 200.
* `sending_understood`: **the answer is that of dispatching the job**, and the command ends accordingly.
-/

namespace RunnerDispatch

open Json (Value)

namespace Operator

open Webhook (signatureHeader eventHeader jobEvent)
open Webhook.Signature (sign verify headerOf sign_eq headerOf_legal toLower_signatureHeader)

variable {s : Sending} {status : JobStatus} {url : Url}

/-! ## The body -/

/-- **The body is read as the job that was meant**, whatever characters its labels have. -/
theorem Sending.parseJob_body (haction : s.action = status.name) (hurl : Url.parse s.runUrl = .ok url) :
    Webhook.parseJob s.body = .ok (Job.ofLabels s.labels status url) := by
  have hlabels := (Json.readTexts_texts s.labels).map fun labels => ({ labels } : Webhook.PartialRun)
  have hrunUrl := (Job.readUrl_text hurl).map fun url => ({ labels := s.labels, url } : Webhook.PartialRun)
  have hrun : Json.ReadsAs (Json.readRecord Webhook.runShape)
      (.record [("labels", .list (s.labels.map .text)), ("run_url", .text s.runUrl)]) ⟨s.labels, url⟩ :=
    Json.readRecord_collects (.cons rfl rfl hlabels (.cons rfl rfl hrunUrl (.nil _))) rfl
  have hstatus := status.readsAs.map fun action => ({ action } : Webhook.PartialBody)
  have hmember := hrun.map fun run => ({ action := status, run } : Webhook.PartialBody)
  have hpayload : Json.ReadsAs (Json.readRecord Webhook.bodyShape) s.payload
      (Job.ofLabels s.labels status url) := by
    rw [Sending.payload, haction]
    exact Json.readRecord_collects (.cons rfl rfl hstatus (.cons rfl rfl hmember (.nil _))) rfl
  rw [Webhook.parseJob, show s.body = s.payload.bytes from rfl, Json.readWhole_bytes hpayload]

/-! ## The request -/

/-- The headers that carry the signature, if there is one. -/
def Sending.signatureHeaders (s : Sending) : List (String × Bytes) :=
  s.secret.toList.map fun secret => (signatureHeader, Bytes.ofString (headerOf secret s.body))

theorem Sending.signature_eq (s : Sending) : s.signature = .ok s.signatureHeaders := by
  rw [Sending.signature, Sending.signatureHeaders]
  cases s.secret with
  | none | some secret => rfl

/-- The request that is made for a delivery, when it goes to some URL. -/
def Sending.request (s : Sending) (goal : Url) : Http.Request where
  method := "POST"
  target := targetOf goal
  headers :=
    [("content-type", Bytes.ofString "application/json"), (eventHeader, Bytes.ofString jobEvent)] ++
      s.signatureHeaders ++ [lengthHeader s.body]
  body := s.body

/-- **The call of a delivery is its request**, and goes to the URL that the operator asked for. -/
theorem Arguments.call_ok_iff {a : Arguments} (hcommand : a.command = .send s) {call : Call} :
    a.call = .ok call ↔ ∃ goal, a.goal = .ok goal ∧ call = ⟨goal, s.request goal⟩ := by
  have hcall : a.call = a.goal.map fun goal => ⟨goal, s.request goal⟩ := by
    rw [Arguments.call, hcommand]
    simp only [s.signature_eq]
    cases a.goal with
    | error e | ok goal => rfl
  rw [hcall]
  cases a.goal with
  | error e => simp [Except.map]
  | ok goal => simp [Except.map, eq_comm]

namespace Sending

variable {goal : Url}

/-- The names of its headers are in lower case. -/
theorem toLower_names : ∀ h ∈ (s.request goal).headers, h.1.toLower = h.1 := by
  intro h hh
  simp only [request, signatureHeaders, List.mem_append, List.mem_cons, List.mem_map, Option.mem_toList,
    List.not_mem_nil, or_false] at hh
  rcases hh with ((rfl | rfl) | ⟨secret, -, rfl⟩) | rfl
  · exact Text.toLower_eq_self (by decide)
  · exact Text.toLower_eq_self (by decide)
  · exact toLower_signatureHeader
  · exact Text.toLower_eq_self (s := "content-length") (by decide)

theorem header?_request {name : String} (hname : name.toList.map Char.toLower = name.toList) :
    (s.request goal).header? name = (s.request goal).headers.lookup name :=
  Http.Request.header?_eq_lookup (Text.toLower_eq_self hname) toLower_names

theorem header?_event : (s.request goal).header? eventHeader = some (Bytes.ofString jobEvent) := by
  rw [header?_request (by decide)]
  rfl

theorem header?_length :
    (s.request goal).header? "content-length" = some (Bytes.ofString (toString s.body.length)) := by
  rw [header?_request (by decide), request, signatureHeaders]
  cases s.secret with
  | none | some secret => rfl

theorem header?_identifier : (s.request goal).header? "x-request-id" = none := by
  rw [header?_request (by decide), request, signatureHeaders]
  cases s.secret with
  | none | some secret => rfl

theorem header?_signature {secret : String} (h : s.secret = some secret) :
    (s.request goal).header? signatureHeader = some (Bytes.ofString (headerOf secret s.body)) := by
  rw [header?_request (by decide), request, signatureHeaders, h]
  rfl

/-- What is declared is the length of the body, unless no machine word holds that. -/
theorem declaredLength?_request {n : Nat} (h : (s.request goal).declaredLength? = some n) :
    n = s.body.length := by
  rw [Http.Request.declaredLength?_toString header?_length, Option.filter_eq_some_iff] at h
  exact (Option.some.inj h.1).symm

/-- **The request passes every check** of a service on whose webhook's path it arrives, if that has the same
secret or none, and takes bodies of that length. -/
theorem delivers {service : Service} (haction : s.action = status.name) (hurl : Url.parse s.runUrl = .ok url)
    (hroute : Http.Route.of service.settings.webhook.path (s.request goal) = .webhook)
    (hsecret : service.settings.webhook.secret = none ∨ service.settings.webhook.secret = s.secret)
    (hlimit : s.body.length ≤ service.settings.webhook.bodyLimit) :
    Http.Delivers service (s.request goal) (Job.ofLabels s.labels status url) where
  length := by
    refine decide_eq_false (Nat.not_lt_of_le (Nat.le_min.2 ⟨hlimit, ?_⟩))
    cases h : (s.request goal).declaredLength? with
    | none => exact hlimit
    | some n => exact Nat.le_of_eq (declaredLength?_request h).symm
  signed secret h := by
    have hsame : s.secret = some secret := by
      rcases hsecret with hnone | hsame
      · exact (nomatch hnone.symm.trans h)
      · exact hsame.symm.trans h
    obtain ⟨header, htext, hverify⟩ :=
      Webhook.Signature.verified_iff_signs.2 (Webhook.Signature.signs_sign (sign_eq s.body secret))
    exact ⟨_, header, header?_signature hsame, htext, hverify⟩
  method := (Http.route_webhook_iff.1 hroute).1
  path := (Http.route_webhook_iff.1 hroute).2
  declared := by
    rw [Http.declaresTooMuch]
    cases h : (s.request goal).declaredLength? with
    | none => rfl
    | some n =>
      rw [declaredLength?_request h]
      exact decide_eq_false (Nat.not_lt_of_le hlimit)
  event := by
    have htext : Http.Request.textOf? (Bytes.ofString jobEvent) = some jobEvent := by cbv
    rw [Http.Request.readable?, header?_event, Option.bind_some, htext, Webhook.checkEvent, if_pos rfl]
  parsed := parseJob_body haction hurl

end Sending

/-! ## The end of the command -/

/-- **The command succeeds if and only if the answer is 200.** -/
theorem conclude_passOn {σ ε : Type} (explain : ε → String) (d : Dispatched σ ε) :
    let r := (Http.passOn explain d).response
    (conclude r.status (Bytes.ofString r.body)).exit = 0 ↔ r.status = 200 := by
  intro r
  cases hd : d.result with
  | ok outcome =>
    have hr : r = .json 200 outcome.body := by simp only [r, Http.passOn, hd]
    have hparse : Value.parse (Bytes.ofString outcome.body) = .ok outcome.value := by
      cases outcome with
      | forwarded flavor | skipped status => exact Json.parse_texts (by simp)
    rw [hr]
    refine ⟨fun _ => rfl, fun _ => ?_⟩
    simp only [Http.Response.json, conclude, show Http.Status.isSuccess 200 = true from rfl, if_true, hparse]
  | error e =>
    have hr : r = (Http.Refusal.dispatch e).response explain := by simp only [r, Http.passOn, hd, Http.refuse]
    have hfails : (Http.Refusal.dispatch e).status ≠ 200 ∧
        Http.Status.isSuccess (Http.Refusal.dispatch e).status = false := by
      rcases Http.status_dispatch e with h | h <;> rw [h] <;> decide
    rw [hr]
    simp only [Http.Refusal.response, Http.Response.plain, conclude, hfails.2, Conclusion.failed]
    simp [hfails.1]

/-- Makes calls to a service, over connections that lose nothing. -/
def callTo {σ ε : Type} (service : Service) (backend : Backend σ ε) (call : Call) :
    StateM σ (Except String Http.Reply) := fun state =>
  let h := service.handle backend call.request state
  (.ok h.response.reply, h.state)

/-- **A command ends with what it makes of the answer.** -/
theorem attend_callTo {σ ε : Type} {service : Service} {backend : Backend σ ε} {words : List String}
    {secret : Option String} {a : Arguments} (ha : Arguments.read words secret = .ok a) {call : Call}
    (hcall : a.call = .ok call) (state : σ) :
    let h := service.handle backend call.request state
    attend (callTo service backend) words secret state =
      (conclude h.response.status (Bytes.ofString h.response.body), h.state) := by
  intro h
  rw [attend, ha]
  simp only [hcall]
  rfl

/-- **A delivery that is sent by hand is understood by every service that it reaches.** Whatever the labels,
the state and the address of the run, the body is read as the job with these, and under any secret its
signature can be sent and is accepted. So the command makes a request to every URL there is, and if that
arrives on the webhook's path of a service that has the same secret or none, and takes bodies of that length,
the answer, the reports, the counts and the queue are those of dispatching the job, and the command succeeds
if and only if the answer is 200. -/
theorem sending_understood {a : Arguments} (hcommand : a.command = .send s) (haction : s.action = status.name)
    (hurl : Url.parse s.runUrl = .ok url) :
    let job := Job.ofLabels s.labels status url
    Webhook.parseJob s.body = .ok job ∧
    (∀ secret, ∃ header, sign s.body secret = .ok header ∧
      (Bytes.ofString header).all Http.Request.isPrintable = true ∧ verify s.body secret header = .ok ()) ∧
    ∀ goal, a.goal = .ok goal → ∃ call, a.call = .ok call ∧ call.url = goal ∧ call.request.body = s.body ∧
      ∀ service : Service, Http.Route.of service.settings.webhook.path call.request = .webhook →
        (service.settings.webhook.secret = none ∨ service.settings.webhook.secret = s.secret) →
        s.body.length ≤ service.settings.webhook.bodyLimit →
        ∀ (σ ε : Type) (backend : Backend σ ε) (state : σ),
          let answer := service.handle backend call.request state
          let conclusion := conclude answer.response.status (Bytes.ofString answer.response.body)
          answer = Http.passOn backend.explain (forward service.table backend job state) ∧
          (conclusion.exit = 0 ↔ answer.response.status = 200) ∧
          ∀ words secret, Arguments.read words secret = .ok a →
            attend (callTo service backend) words secret state = (conclusion, answer.state) := by
  intro job
  refine ⟨Sending.parseJob_body haction hurl, fun secret => ⟨_, sign_eq s.body secret, headerOf_legal _ _⟩,
    fun goal hgoal => ?_⟩
  have hcall := (Arguments.call_ok_iff hcommand).2 ⟨goal, hgoal, rfl⟩
  refine ⟨_, hcall, rfl, rfl, fun service hroute hsecret hlimit σ ε backend state => ?_⟩
  have hdelivers := Sending.delivers haction hurl hroute hsecret hlimit
  have hanswer := Service.handle_eq_passOn hdelivers Sending.header?_identifier backend state
  intro answer conclusion
  refine ⟨hanswer, ?_, fun words secret ha => attend_callTo ha hcall state⟩
  have hexit := conclude_passOn backend.explain (forward service.table backend job state)
  rw [← hanswer] at hexit
  exact hexit

/-- A signed delivery of a queued job whose labels need escapes. -/
def byHand : Sending := { labels := ["\"A\"", "b\\\n"], runUrl := "run:1", secret := some "s" }

/-- A flavor that offers these labels and one more. -/
def byHandFlavor : Routing.Rules := { declarations := [⟨"quoted", "x" :: byHand.labels⟩] }

theorem byHandFlavor_sound : byHandFlavor.Sound :=
  .of_short (by decide) (by decide) (by decide) (by decide) (by decide)

/-- The job of the delivery is forwarded to that flavor while there is room. -/
theorem forward_byHand {table : Routing.Table} (h : byHandFlavor.compile.result = .ok table) :
    ∃ f, let d := forward table Queue.backend (Job.ofLabels byHand.labels .queued url) { capacity := 1 }
      d.result = .ok (.forwarded f) ∧ d.state.pending "quoted" = 1 := by
  have hfirst : byHandFlavor.FirstCovers [] ⟨"quoted", "x" :: byHand.labels⟩
      (byHandFlavor.wanted (SortedSet.ofList byHand.labels).toList).toList := of_decide_eq_true (by cbv)
  obtain ⟨f, hresolve, hname⟩ := Routing.exists_resolve h rfl hfirst
  have hstatus : (Job.ofLabels byHand.labels .queued url).status = .queued := rfl
  have hqueued := forward_of_queued table Queue.backend { capacity := 1 } hstatus
  rw [show table.resolve (Job.ofLabels byHand.labels .queued url).labels.toList = .ok f from hresolve] at hqueued
  refine ⟨f, hqueued.2, ?_⟩
  obtain ⟨name, hwellFormed⟩ := f
  obtain rfl : name = "quoted" := hname
  rw [hqueued.1]
  rfl

/-- A service with the same secret takes the job, and the command succeeds. -/
theorem sending_understood_byHand :
    ∃ table call, byHandFlavor.compile.result = .ok table ∧
      ({ url := "ci://h", command := .send byHand } : Arguments).call = .ok call ∧
      let service : Service := ⟨{ webhook := { secret := some "s" }, rules := byHandFlavor }, table⟩
      let answer := service.handle Queue.backend call.request { capacity := 1 }
      answer.state.pending "quoted" = 1 ∧
        (conclude answer.response.status (Bytes.ofString answer.response.body)).exit = 0 := by
  obtain ⟨table, htable⟩ := Routing.Rules.exists_table_iff.2 byHandFlavor_sound
  obtain ⟨goal, hgoal, htarget⟩ : ∃ goal,
      ({ url := "ci://h", command := .send byHand } : Arguments).goal = .ok goal ∧ targetOf goal = "/webhook" :=
    ⟨_, by cbv, by cbv⟩
  have haction : byHand.action = JobStatus.queued.name := rfl
  have hurl : Url.parse byHand.runUrl = .ok ⟨"run", none, .opaquely "1", none, none⟩ := by cbv
  have hpath : (byHand.request goal).path = "/webhook" := by
    rw [Http.Request.path, show (byHand.request goal).target = "/webhook" from htarget]
    cbv
  have hlimit : byHand.body.length ≤ 1048576 := by
    rw [show byHand.body.length = 81 by cbv]
    decide
  obtain ⟨call, hcall, -, -, hservices⟩ := (sending_understood rfl haction hurl).2.2 goal hgoal
  obtain ⟨goal', hgoal', rfl⟩ := (Arguments.call_ok_iff rfl).1 hcall
  obtain rfl := Except.ok.inj (hgoal.symm.trans hgoal')
  obtain ⟨hanswer, hexit, -⟩ :=
    hservices ⟨{ webhook := { secret := some "s" }, rules := byHandFlavor }, table⟩
      (Http.route_webhook_iff.2 ⟨rfl, hpath⟩) (.inr rfl) hlimit Queue QueueFault Queue.backend { capacity := 1 }
  obtain ⟨f, hforwarded, hpending⟩ := forward_byHand htable
  refine ⟨table, _, htable, hcall, ?_⟩
  intro service answer
  have hd : Http.PassesOn answer _ := hanswer ▸ Http.passesOn_passOn _ _
  refine ⟨?_, hexit.2 (hd.accepted _ hforwarded).1⟩
  rw [hd.state]
  exact hpending

end Operator

end RunnerDispatch
