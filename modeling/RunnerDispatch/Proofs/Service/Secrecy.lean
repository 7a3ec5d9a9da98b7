import RunnerDispatch.Proofs.Service.Transparency

/-!
# The secret shows in nothing but the verdict

A service reads its secret to check a signature and for nothing else. Whoever sees all its answers, its reports,
its counts and its queue learns of the secret which signatures it accepts, and no more.

* `Webhook.Signature.verify_congr`: the verdict is a yes or no, and **how a signature is refused says nothing of
  the secret**.
* `Http.SameVerdict`: a request whose signature two secrets judge alike.
* `Service.Twins`: services that differ in nothing but the secret.
* `Service.Twins.handle`, `Service.secret_unnoticed`: twins treat such a request alike, and so **runs of such
  requests do not tell them apart**.
-/

namespace RunnerDispatch

/-- **Two secrets that judge a header alike say the same of it**: they refuse it for the same reason. -/
theorem Webhook.Signature.verify_congr {body : Bytes} {secret secret' header : String}
    (h : verify body secret header = .ok () ↔ verify body secret' header = .ok ()) :
    verify body secret header = verify body secret' header := by
  rw [verify_eq, verify_eq] at h ⊢
  -- whether there is a code in the header is not for the secret to say
  cases hclaimed : claimed? header with
  | none => rfl
  | some code =>
    rw [hclaimed] at h
    dsimp only at h ⊢
    by_cases hcode : Digest.Hmac.code (Bytes.ofString secret) body = code
    · rw [if_pos hcode] at h ⊢
      exact (h.1 rfl).symm
    · rw [if_neg hcode] at h ⊢
      have hcode' : ¬ Digest.Hmac.code (Bytes.ofString secret') body = code := fun hc => (nomatch h.2 (if_pos hc))
      rw [if_neg hcode']

namespace Http

variable {σ ε : Type}

/-- The signature header of a request, **if there is one that can be read, is accepted under both secrets or
under neither**. -/
def SameVerdict (secret secret' : String) (r : Request) : Prop :=
  ∀ header, r.readable? Webhook.signatureHeader = some header →
    (Webhook.Signature.verify r.body secret header = .ok () ↔
      Webhook.Signature.verify r.body secret' header = .ok ())

/-- Two secrets that judge the signature alike authenticate the request alike. -/
theorem SameVerdict.authenticate {secret secret' : String} {r : Request} (h : SameVerdict secret secret' r)
    (limit : Nat) :
    (authenticate secret limit r : Except (Refusal ε) Unit) = authenticate secret' limit r := by
  unfold Http.authenticate
  cases hvalue : r.header? Webhook.signatureHeader with
  | none => rfl
  | some value =>
    cases htext : Request.textOf? value with
    | none => simp only [htext]
    | some header =>
      have hreadable : r.readable? Webhook.signatureHeader = some header := by
        rw [Request.readable?, hvalue, Option.bind_some, htext]
      simp only [htext]
      rw [Webhook.Signature.verify_congr (h header hreadable)]

end Http

namespace Service

variable {σ ε : Type}

/-- Two services with secrets that differ in nothing but these. -/
structure Twins (secret secret' : String) (service service' : Service) : Prop where
  table : service.table = service'.table
  settings : service.settings.withoutSecret = service'.settings.withoutSecret
  secret_left : service.settings.webhook.secret = some secret
  secret_right : service'.settings.webhook.secret = some secret'

variable {secret secret' : String} {service service' : Service} {r : Http.Request}

theorem Twins.bodyLimit (h : Twins secret secret' service service') :
    service.settings.webhook.bodyLimit = service'.settings.webhook.bodyLimit := by
  show service.settings.withoutSecret.webhook.bodyLimit = service'.settings.withoutSecret.webhook.bodyLimit
  rw [h.settings]

theorem Twins.path (h : Twins secret secret' service service') :
    service.settings.webhook.path = service'.settings.webhook.path := by
  show service.settings.withoutSecret.webhook.path = service'.settings.withoutSecret.webhook.path
  rw [h.settings]

/-- **Twins receive a request alike if their secrets judge it alike.** -/
theorem Twins.receive (h : Twins secret secret' service service') (hr : Http.SameVerdict secret secret' r)
    (backend : Backend σ ε) (state : σ) :
    Http.receive service backend r state = Http.receive service' backend r state := by
  simp only [Http.receive, h.secret_left, h.secret_right]
  rw [← h.bodyLimit, ← h.table, hr.authenticate]

/-- **Twins handle a request alike if their secrets judge it alike**: the answer, the state, the reports and
the counts are the same. -/
theorem Twins.handle (h : Twins secret secret' service service') (hr : Http.SameVerdict secret secret' r)
    (backend : Backend σ ε) (state : σ) :
    service.handle backend r state = service'.handle backend r state := by
  -- only the webhook's route leads to the secret; the limit and the path come before it and are shared
  have hfollow : Http.follow service backend r state = Http.follow service' backend r state := by
    rw [Http.follow, Http.follow, h.path, h.receive hr]
  have hrespond : Http.respond service backend r state = Http.respond service' backend r state := by
    rw [Http.respond, Http.respond, h.bodyLimit, hfollow]
  have hcomplete (response : Http.Response) :
      Http.complete service r response = Http.complete service' r response := by
    rw [Http.complete, Http.complete, h.path]
  rw [Service.handle, Service.handle, hrespond, hcomplete]

/-! ## Runs -/

/-- All that shows of a request. -/
structure Shown where
  response : Http.Response
  records : List Log.Record
  /-- The queue and the counts afterwards. -/
  world : World

/-- One request, and all that shows of it. -/
def exchange (service : Service) : Machine World Http.Request Shown := fun w r =>
  let h := service.handle Queue.backend r w.queue
  let next : World := ⟨h.state, w.metrics.record h.counted⟩
  (⟨h.response, h.records, next⟩, next)

theorem Twins.exchange (h : Twins secret secret' service service') (hr : Http.SameVerdict secret secret' r)
    (w : World) : service.exchange w r = service'.exchange w r := by
  simp only [Service.exchange]
  rw [h.handle hr]

/-- Settings that differ in nothing but the secrets make twins. -/
theorem twins_assemble {settings settings' : Settings} (hsame : settings.withoutSecret = settings'.withoutSecret)
    (hs : settings.webhook.secret = some secret) (hs' : settings'.webhook.secret = some secret')
    (hservice : (assemble settings).result = .ok service) :
    ∃ service', (assemble settings').result = .ok service' ∧
      (assemble settings').records = (assemble settings).records ∧ Twins secret secret' service service' := by
  obtain ⟨rfl, htable⟩ := assemble_ok_iff.1 hservice
  have hrules : service.settings.rules = settings'.rules := by
    show service.settings.withoutSecret.rules = settings'.withoutSecret.rules
    rw [hsame]
  have htable' : settings'.rules.compile.result = .ok service.table := by
    rw [← hrules]
    exact htable
  refine ⟨⟨settings', service.table⟩, assemble_ok_iff.2 ⟨rfl, htable'⟩, ?_, rfl, hsame, hs, hs'⟩
  simp only [assemble, htable, htable']
  rw [hrules]
  rfl

/-- **The secret shows in nothing but the verdict.** Two settings that differ in nothing but their secrets make
two services or none, and nothing that is reported before the first request tells them apart. From any queue and
any counts, a run of requests whose signatures are accepted under both secrets or under neither, if they have any
that can be read, shows the same of both, request by request: the answers, the reports, and the queue and the
counts afterwards. -/
theorem secret_unnoticed {settings settings' : Settings} (hsame : settings.withoutSecret = settings'.withoutSecret)
    (hs : settings.webhook.secret = some secret) (hs' : settings'.webhook.secret = some secret')
    (hservice : (assemble settings).result = .ok service) :
    ∃ service', (assemble settings').result = .ok service' ∧
      (assemble settings').records = (assemble settings).records ∧ service'.opening = service.opening ∧
      ∀ (start : World) (requests : List Http.Request),
        (∀ r ∈ requests, Http.SameVerdict secret secret' r) →
        Machine.trace service.exchange start requests = Machine.trace service'.exchange start requests := by
  obtain ⟨service', hservice', hrecords, htwins⟩ := twins_assemble hsame hs hs' hservice
  have hopening : service'.opening = service.opening := by
    rw [opening, opening, htwins.secret_left, htwins.secret_right]
    rfl
  refine ⟨service', hservice', hrecords, hopening, fun start requests hverdicts => ?_⟩
  exact Machine.trace_congr requests (fun w r hr => htwins.exchange (hverdicts r hr) w) start

/-- A signature with two digits is nobody's. -/
theorem sameVerdict_twoDigits (secret secret' : String) (r : Http.Request)
    (hr : r.readable? Webhook.signatureHeader = some "sha256=00") : Http.SameVerdict secret secret' r := by
  have hrefused (secret : String) : Webhook.Signature.verify r.body secret "sha256=00" ≠ .ok () := by
    intro h
    obtain ⟨digits, hheader, hdigits⟩ := Webhook.Signature.verify_ok_iff.1 h
    have hlength := congrArg List.length hheader
    rw [List.length_append, Webhook.Signature.length_of_map_toLower hdigits] at hlength
    exact absurd hlength (by decide)
  intro header hheader
  obtain rfl := Option.some.inj (hr.symm.trans hheader)
  exact ⟨fun h => absurd h (hrefused secret), fun h => absurd h (hrefused secret')⟩

/-- Who forges the signature of a delivery does not learn which of two secrets refused it. -/
theorem secret_unnoticed_forged :
    let settings (secret : String) : Settings :=
      { webhook := { secret := some secret }, rules := Routing.loneFlavor }
    let forged := signedAnnouncing .queued (Bytes.ofString "sha256=00")
    let start : World := ⟨{ capacity := 1 }, {}⟩
    Machine.trace (exchange ⟨settings "s", Routing.loneTable⟩) start [forged, forged] =
      Machine.trace (exchange ⟨settings "t", Routing.loneTable⟩) start [forged, forged] := by
  intro settings forged start
  have hassemble (secret : String) :
      (assemble (settings secret)).result = .ok ⟨settings secret, Routing.loneTable⟩ :=
    assemble_ok_iff.2 ⟨rfl, Routing.compile_loneFlavor⟩
  have hforged : forged.readable? Webhook.signatureHeader = some "sha256=00" := by cbv
  have hverdicts : ∀ r ∈ [forged, forged], Http.SameVerdict "s" "t" r := by
    intro r hr
    have hone : r = forged := by simpa using hr
    rw [hone]
    exact sameVerdict_twoDigits "s" "t" forged hforged
  have hsame : (settings "s").withoutSecret = (settings "t").withoutSecret := rfl
  obtain ⟨service', hservice', -, -, htraces⟩ := secret_unnoticed hsame rfl rfl (hassemble "s")
  obtain rfl := Except.ok.inj (hservice'.symm.trans (hassemble "t"))
  exact htraces start [forged, forged] hverdicts

end Service

end RunnerDispatch
