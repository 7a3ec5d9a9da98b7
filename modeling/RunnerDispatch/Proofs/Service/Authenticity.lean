import RunnerDispatch.Proofs.Service.Run
import RunnerDispatch.Proofs.Webhook.Signature

/-!
# Only authentic deliveries have an effect

A service that has a secret gives nobody an effect who does not know it.

* `Authentic`: a delivery on the webhook's path whose first signature header signs its whole body.
* `effect_authentic`: **whatever has happened before, only an authentic delivery changes the queue or the
  counts of jobs**, and all others might as well not have been sent.
-/

namespace RunnerDispatch

namespace Service

open Webhook (signatureHeader)
open Webhook.Signature (Signs toLower_signatureHeader)

/-- A delivery on the webhook's path whose **first signature header** signs its whole body. -/
structure Authentic (service : Service) (secret : String) (r : Http.Request) : Prop where
  method : r.method = "POST"
  path : r.path = service.settings.webhook.path
  signed : ∃ before name value after, r.headers = before ++ (name, value) :: after ∧
    (∀ h ∈ before, h.1.toLower ≠ signatureHeader) ∧ name.toLower = signatureHeader ∧
    Signs secret r.body value

/-- An event that a service may react to with an effect. -/
def Event.Genuine (service : Service) (secret : String) : Event → Prop
  | .request r => Authentic service secret r
  | .operation _ => True

variable {service : Service} {secret : String}

theorem signed_iff {r : Http.Request} :
    (∃ before name value after, r.headers = before ++ (name, value) :: after ∧
      (∀ h ∈ before, h.1.toLower ≠ signatureHeader) ∧ name.toLower = signatureHeader ∧
      Signs secret r.body value) ↔
    ∃ value header, r.header? signatureHeader = some value ∧ Http.Request.textOf? value = some header ∧
      Webhook.Signature.verify r.body secret header = .ok () := by
  constructor
  · rintro ⟨before, name, value, after, hheaders, hbefore, hname, hsigns⟩
    obtain ⟨header, htext, hverify⟩ := Webhook.Signature.verified_iff_signs.2 hsigns
    have hfirst := Http.Request.header?_eq_some_iff.2 ⟨before, name, after, hheaders,
      toLower_signatureHeader.symm ▸ hbefore, toLower_signatureHeader.symm ▸ hname⟩
    exact ⟨value, header, hfirst, htext, hverify⟩
  · rintro ⟨value, header, hvalue, htext, hverify⟩
    obtain ⟨before, name, after, hheaders, hbefore, hname⟩ := Http.Request.header?_eq_some_iff.1 hvalue
    rw [toLower_signatureHeader] at hbefore hname
    exact ⟨before, name, value, after, hheaders, hbefore, hname,
      Webhook.Signature.verified_iff_signs.1 ⟨header, htext, hverify⟩⟩

theorem authentic_iff {r : Http.Request} : Authentic service secret r ↔
    (r.method = "POST" ∧ r.path = service.settings.webhook.path) ∧
      (((r.header? signatureHeader).bind Http.Request.textOf?).any fun header =>
        (Webhook.Signature.verify r.body secret header).isOk) = true := by
  have hok (header : String) : (Webhook.Signature.verify r.body secret header).isOk = true ↔
      Webhook.Signature.verify r.body secret header = .ok () := by
    cases Webhook.Signature.verify r.body secret header with
    | error e => exact ⟨(nomatch ·), (nomatch ·)⟩
    | ok u => exact ⟨fun _ => rfl, fun _ => rfl⟩
  rw [Option.any_eq_true]
  simp only [Option.bind_eq_some_iff, hok]
  constructor
  · rintro ⟨hmethod, hpath, hsigned⟩
    obtain ⟨value, header, hvalue, htext, hverify⟩ := signed_iff.1 hsigned
    exact ⟨⟨hmethod, hpath⟩, header, ⟨value, hvalue, htext⟩, hverify⟩
  · rintro ⟨⟨hmethod, hpath⟩, header, ⟨value, hvalue, htext⟩, hverify⟩
    exact ⟨hmethod, hpath, signed_iff.2 ⟨value, header, hvalue, htext, hverify⟩⟩

instance (r : Http.Request) : Decidable (Authentic service secret r) :=
  decidable_of_iff _ authentic_iff.symm

instance : DecidablePred (Event.Genuine service secret)
  | .request r => inferInstanceAs (Decidable (Authentic service secret r))
  | .operation _ => inferInstanceAs (Decidable True)

/-- What passes every check is authentic. -/
theorem authentic_of_delivers (hs : service.settings.webhook.secret = some secret) {r : Http.Request}
    {job : Job} (h : Http.Delivers service r job) : Authentic service secret r :=
  ⟨h.method, h.path, signed_iff.2 (h.signed secret hs)⟩

/-- **A request that is not authentic leaves the world alike.** -/
theorem alike_unauthentic (hs : service.settings.webhook.secret = some secret) (w : World)
    {r : Http.Request} (h : ¬ Authentic service secret r) :
    World.Alike (service.step w (.request r)).2 w := by
  rcases handle_cases service Queue.backend r w.queue with ⟨job, hdelivers, -⟩ | hidle
  · exact absurd (authentic_of_delivers hs hdelivers) h
  · exact alike_idle hidle

/-- **What is not genuine might as well not have happened.** -/
theorem alike_genuine (hs : service.settings.webhook.secret = some secret) {w w' : World}
    (hw : World.Alike w w') (events : List Event) :
    World.Alike (Machine.after service.step w events)
      (Machine.after service.step w' (events.filter (Event.Genuine service secret))) := by
  -- refusals are counted too, so the worlds are only alike, and by every step again
  induction events generalizing w w' with
  | nil => exact hw
  | cons e events ih =>
    rw [Machine.after_cons]
    by_cases he : e.Genuine service secret
    · rw [List.filter_cons_of_pos (by simpa using he), Machine.after_cons]
      exact ih (hw.step service e)
    · rw [List.filter_cons_of_neg (by simpa using he)]
      cases e with
      | operation op => exact absurd trivial he
      | request r => exact ih ((alike_unauthentic hs w he).trans hw)

/-- **With a secret nothing has an effect but authentic deliveries.** After any run of requests and
operations on the queue, a request that changes the queue or a count of jobs is a POST on the webhook's
path whose first signature header is the complete signature of the body that its job was read from. And a
run without the requests that are not authentic leaves the same queue and the same counts of jobs. -/
theorem effect_authentic (hs : service.settings.webhook.secret = some secret) (start : World)
    (events : List Event) :
    let now := Machine.after service.step start events
    (∀ r, let next := (service.step now (.request r)).2
      (next.queue ≠ now.queue ∨
        ∃ s : Series, s.countsJobs = true ∧ next.metrics.count s ≠ now.metrics.count s) →
      Authentic service secret r ∧ ∃ job, Webhook.parseJob r.body = .ok job ∧
        next.queue = (forward service.table Queue.backend job now.queue).state) ∧
    World.Alike now (Machine.after service.step start (events.filter (Event.Genuine service secret))) := by
  intro now
  refine ⟨fun r => ?_, alike_genuine hs (World.Alike.refl start) events⟩
  intro next heffect
  -- who does not pass every check changes nothing, so here every check was passed
  rcases handle_cases service Queue.backend r now.queue with ⟨job, hdelivers, hd⟩ | hidle
  · exact ⟨authentic_of_delivers hs hdelivers, job, hdelivers.parsed, hd.state⟩
  · have halike : World.Alike next now := alike_idle hidle
    rcases heffect with hqueue | ⟨s, hs', hcount⟩
    · exact absurd halike.queue hqueue
    · exact absurd (halike.count s hs') hcount

/-- A service with a secret. -/
def guarded : Service := defaultOnly { secret := some "s" }

/-- A delivery of a job in some state, with some signature. -/
def signedAnnouncing (status : JobStatus) (signature : Bytes) : Http.Request :=
  Http.announcing status [("x-hub-signature-256", signature)]

/-- What is signed passes every check of a service with that secret. -/
theorem delivers_signedAnnouncing (hwebhook : service.settings.webhook = { secret := some "s" })
    {status : JobStatus} {signature : Bytes} (h : Signs "s" (Http.announcement status) signature) {job : Job}
    (hjob : Webhook.parseJob (Http.announcement status) = .ok job) :
    Http.Delivers service (signedAnnouncing status signature) job where
  length := by
    rw [hwebhook]
    cases status <;> cbv
  signed secret hs := by
    rw [hwebhook] at hs
    obtain rfl := Option.some.inj hs
    obtain ⟨header, htext, hverify⟩ := Webhook.Signature.verified_iff_signs.2 h
    exact ⟨signature, header, by cbv, htext, hverify⟩
  method := rfl
  path := by
    rw [hwebhook]
    cbv
  declared := by
    rw [hwebhook]
    cbv
  event := by cbv
  parsed := hjob

/-- A delivery of a job that waits for others, with some signature. -/
def signedWaiting (signature : Bytes) : Http.Request := signedAnnouncing .waiting signature

/-- It is counted, in every world. -/
theorem count_signedWaiting {signature : Bytes} (h : Signs "s" (Http.announcement .waiting) signature)
    (w : World) : (guarded.step w (.request (signedWaiting signature))).2.metrics.count (.skipped .waiting) =
      w.metrics.count (.skipped .waiting) + 1 := by
  obtain ⟨job, hjob, hstatus, -⟩ := Http.parseJob_announcement .waiting
  have hdelivers : Http.Delivers guarded (signedWaiting signature) job := delivers_signedAnnouncing rfl h hjob
  have hd := handle_delivers hdelivers Queue.backend w.queue
  have hskips : job.status.isRoutable = false := by rw [hstatus]; rfl
  have hcounted : (forward guarded.table Queue.backend job w.queue).counted = [.skipped .waiting] := by
    rcases forward_cases guarded.table Queue.backend job w.queue with
      ⟨-, -, -, hc⟩ | ⟨_, hr, -⟩ | ⟨_, hr, -⟩ | ⟨_, _, hr, -⟩
    · rw [hc, hstatus]
    all_goals exact absurd (hr.symm.trans hskips) (by decide)
  simp only [step]
  rw [Metrics.count_record, hd.counted, hcounted, List.count_append, count_answered rfl]
  rfl

theorem effect_authentic_guarded :
    let signature := Bytes.ofString (String.ofList (Webhook.Signature.scheme ++
      Webhook.Signature.digitsOf "s" (Http.announcement .waiting)))
    let now := Machine.after guarded.step ⟨⟨0, false, []⟩, {}⟩ [.operation .close]
    let next := (guarded.step now (.request (signedWaiting signature))).2
    next.metrics.count (.skipped .waiting) ≠ now.metrics.count (.skipped .waiting) ∧
      Authentic guarded "s" (signedWaiting signature) := by
  intro signature now next
  have hsigns : Signs "s" (Http.announcement .waiting) signature := Webhook.Signature.signs_sign rfl
  have heffect : next.metrics.count (.skipped .waiting) ≠ now.metrics.count (.skipped .waiting) := by
    rw [show next.metrics.count (.skipped .waiting) = _ from count_signedWaiting hsigns now]
    exact Nat.succ_ne_self _
  refine ⟨heffect, ?_⟩
  exact ((effect_authentic rfl ⟨⟨0, false, []⟩, {}⟩ [.operation .close]).1 (signedWaiting signature)
    (.inr ⟨.skipped .waiting, rfl, heffect⟩)).1

end Service

end RunnerDispatch
