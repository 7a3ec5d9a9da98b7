import RunnerDispatch.Proofs.Routing.Compilation
import RunnerDispatch.Proofs.Service.Authenticity

/-!
# Who signs does not notice the secret

A service with a secret does more with a delivery than one without: it looks for the signature, measures the
body by itself and checks the code. A sender who knows the secret sees none of that.

* `Settings.withoutSecret`: the settings that differ in nothing but the secret.
* `Http.Agrees`: the same status and the same effect, and **all else the same unless a body was too long**.
* `Service.agrees_handle`: a signed delivery is answered alike, whether the signature is asked for or not.
* `Service.signing_transparent`: **a service answers signed deliveries as it would without a secret.**
-/

namespace RunnerDispatch

/-- The settings that differ in nothing but the secret, of which there is none. -/
def Settings.withoutSecret (settings : Settings) : Settings :=
  { settings with webhook := { settings.webhook with secret := none } }

namespace Service

/-- The service that asks for no signature. -/
def withoutSecret (service : Service) : Service := { service with settings := service.settings.withoutSecret }

/-- A service is made of settings whose rules make its table. -/
theorem assemble_ok_iff {settings : Settings} {service : Service} :
    (assemble settings).result = .ok service ↔
      service.settings = settings ∧ settings.rules.compile.result = .ok service.table := by
  simp only [assemble]
  cases settings.rules.compile.result with
  | error fault => exact ⟨(nomatch ·), fun h => (nomatch h.2)⟩
  | ok table =>
    constructor
    · intro h
      obtain rfl := Except.ok.inj h
      exact ⟨rfl, rfl⟩
    · rintro ⟨rfl, htable⟩
      obtain rfl := Except.ok.inj htable
      rfl

/-- The table does not depend on the secret. -/
theorem assemble_withoutSecret {settings : Settings} {service : Service}
    (h : (assemble settings).result = .ok service) :
    service.settings = settings ∧ (assemble settings.withoutSecret).result = .ok service.withoutSecret := by
  obtain ⟨rfl, htable⟩ := assemble_ok_iff.1 h
  exact ⟨rfl, assemble_ok_iff.2 ⟨rfl, htable⟩⟩

end Service

namespace Http

variable {σ ε : Type}

/-- The same status and the same effect on the state and on the counts of jobs. **Only what is said about a
body that is too long may differ.** -/
structure Agrees (h h' : Handled σ) : Prop where
  status : h.response.status = h'.response.status
  state : h.state = h'.state
  jobs : ∀ s : Series, s.countsJobs = true → h.counted.count s = h'.counted.count s
  same : h.response.status ≠ 413 → h = h'

theorem Agrees.refl (h : Handled σ) : Agrees h h := ⟨rfl, rfl, fun _ _ => rfl, fun _ => rfl⟩

variable {service : Service} {secret : String} {r : Request}

/-- **A signed delivery is received alike**, whether the signature is asked for or not. -/
theorem agrees_receive (hs : service.settings.webhook.secret = some secret)
    (hr : Service.Authentic service secret r) (backend : Backend σ ε) (state : σ) :
    Agrees (receive service backend r state) (receive service.withoutSecret backend r state) := by
  obtain ⟨value, header, hvalue, htext, hverify⟩ := Service.signed_iff.1 hr.signed
  have hnone : service.withoutSecret.settings.webhook.secret = none := rfl
  have hlimit : service.withoutSecret.settings.webhook.bodyLimit = service.settings.webhook.bodyLimit := rfl
  cases hlength : bodyExceeds service.settings.webhook.bodyLimit r with
  | true =>
    -- both measure the body before they look at what it says, but word the refusal differently
    have hrefuses : (authenticate secret service.settings.webhook.bodyLimit r : Except (Refusal ε) Unit) =
        .error (.bodyTooLong service.settings.webhook.bodyLimit) := by
      rw [authenticate_legible (Option.bind_eq_some_iff.2 ⟨value, hvalue, htext⟩), if_pos hlength]
    simp only [receive, hs, hrefuses, hnone, hlimit, hlength, if_true]
    exact ⟨rfl, rfl, fun s hs => Service.count_answered hs 413, fun h => absurd rfl h⟩
  | false =>
    have hadmits : (authenticate secret service.settings.webhook.bodyLimit r : Except (Refusal ε) Unit) =
        .ok () := authenticate_ok_iff.2 ⟨hlength, value, header, hvalue, htext, hverify⟩
    simp only [receive, hs, hadmits, hnone, hlimit, hlength, Bool.false_eq_true, if_false]
    exact Agrees.refl _

/-- What is owed to the request does not depend on the secret. -/
theorem Agrees.complete {h h' : Handled σ} (ha : Agrees h h') :
    Agrees { h with response := complete service r h.response }
      { h' with response := complete service.withoutSecret r h'.response } where
  status := by
    simp only [status_complete]
    exact ha.status
  state := ha.state
  jobs := ha.jobs
  same hne := by
    simp only [status_complete] at hne
    rw [ha.same hne]
    rfl

end Http

namespace Service

open Webhook.Signature (Signs signs_sign sign_eq toLower_signatureHeader)

variable {σ ε : Type} {service : Service} {secret : String} {r : Http.Request}

/-- **A signed delivery is answered alike**, whether the signature is asked for or not. -/
theorem agrees_handle (hs : service.settings.webhook.secret = some secret) (hr : Authentic service secret r)
    (backend : Backend σ ε) (state : σ) :
    Http.Agrees (service.handle backend r state) (service.withoutSecret.handle backend r state) := by
  refine Http.Agrees.complete ?_
  -- the declared length comes first, and the route before the secret
  have hroute : Http.Route.of service.settings.webhook.path r = .webhook :=
    Http.route_webhook_iff.2 ⟨hr.method, hr.path⟩
  have hroute' : Http.Route.of service.withoutSecret.settings.webhook.path r = .webhook := hroute
  have hlimit : service.withoutSecret.settings.webhook.bodyLimit = service.settings.webhook.bodyLimit := rfl
  rw [Http.respond, Http.respond, hlimit]
  cases Http.declaresTooMuch service.settings.webhook.bodyLimit r with
  | true => exact Http.Agrees.refl _
  | false =>
    simp only [Bool.false_eq_true, if_false]
    rw [Http.follow, Http.follow, hroute, hroute']
    exact Http.agrees_receive hs hr backend state

/-- **Who signs does not notice the secret.** For all settings from which a service is made, those without
the secret make one too. To a delivery on the webhook's path whose first signature header signs its whole
body both services answer with the same status, and they change the state and the counts of jobs alike,
whatever the backend holds and whatever else the request says. Unless the body was too long the two answers
are the same in full. -/
theorem signing_transparent {settings : Settings} (hservice : (assemble settings).result = .ok service)
    (hs : settings.webhook.secret = some secret) :
    ∃ other, (assemble settings.withoutSecret).result = .ok other ∧
      ∀ r, Authentic service secret r → ∀ (σ ε : Type) (backend : Backend σ ε) (state : σ),
        let h := service.handle backend r state
        let h' := other.handle backend r state
        h.response.status = h'.response.status ∧ h.state = h'.state ∧
        (∀ (metrics : Metrics) (s : Series), s.countsJobs = true →
          (metrics.record h.counted).count s = (metrics.record h'.counted).count s) ∧
        (h.response.status ≠ 413 → h = h') := by
  obtain ⟨rfl, hother⟩ := assemble_withoutSecret hservice
  refine ⟨_, hother, fun r hr σ ε backend state => ?_⟩
  intro h h'
  have hagrees : Http.Agrees h h' := agrees_handle hs hr backend state
  refine ⟨hagrees.status, hagrees.state, fun metrics s hjobs => ?_, hagrees.same⟩
  rw [Metrics.count_record, Metrics.count_record, hagrees.jobs s hjobs]

/-- A queued job without labels is forwarded to the default flavor while there is room. -/
theorem forward_announcement : ∃ job, Webhook.parseJob (Http.announcement .queued) = .ok job ∧
    (forward Routing.loneTable Queue.backend job { capacity := 1 }).result =
      .ok (.forwarded Routing.loneTable.default) ∧
    (forward Routing.loneTable Queue.backend job { capacity := 1 }).state.pending "lone" = 1 :=
  ⟨_, by cbv, by cbv, by cbv⟩

/-- A signed delivery of such a job is acknowledged with a secret and without one, and its job is put in the queue. -/
theorem signing_transparent_forwarded :
    let settings : Settings := { webhook := { secret := some "s" }, rules := Routing.loneFlavor }
    ∃ signature service other, Signs "s" (Http.announcement .queued) signature ∧
      (assemble settings).result = .ok service ∧ (assemble settings.withoutSecret).result = .ok other ∧
      let h := service.handle Queue.backend (signedAnnouncing .queued signature) { capacity := 1 }
      h.response.status = 200 ∧ h.state.pending "lone" = 1 ∧
        h = other.handle Queue.backend (signedAnnouncing .queued signature) { capacity := 1 } := by
  intro settings
  obtain ⟨signature, hsigns⟩ : ∃ signature, Signs "s" (Http.announcement .queued) signature :=
    ⟨_, signs_sign (sign_eq _ "s")⟩
  obtain ⟨job, hjob, hforwarded, hpending⟩ := forward_announcement
  have hassemble : (assemble settings).result = .ok ⟨settings, Routing.loneTable⟩ :=
    assemble_ok_iff.2 ⟨rfl, Routing.compile_loneFlavor⟩
  have hdelivers : Http.Delivers ⟨settings, Routing.loneTable⟩ (signedAnnouncing .queued signature) job :=
    delivers_signedAnnouncing rfl hsigns hjob
  have hd := handle_delivers hdelivers Queue.backend { capacity := 1 }
  have hstatus := (hd.accepted _ hforwarded).1
  obtain ⟨other, hother, hsame⟩ := signing_transparent hassemble rfl
  obtain ⟨-, -, -, hfull⟩ := hsame _ (authentic_of_delivers rfl hdelivers) Queue QueueFault Queue.backend
    { capacity := 1 }
  refine ⟨signature, _, other, hsigns, hassemble, hother, hstatus, ?_, hfull ?_⟩
  · rw [hd.state]
    exact hpending
  · rw [hstatus]
    decide

end Service

end RunnerDispatch
