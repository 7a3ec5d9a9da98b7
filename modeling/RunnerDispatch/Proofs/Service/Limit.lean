import RunnerDispatch.Proofs.Http.Acknowledgment
import RunnerDispatch.Proofs.Http.Tally
import RunnerDispatch.Proofs.Service.Run

/-!
# The limit on bodies

One limit is enforced in three places: on the length that a request declares, by who checks its signature, and by
who reads its body. What is too long is told so by each of them, except that a signature that is missing is noticed
before the body is looked at.

* `Http.bodyExceeds_of_lt`, `Http.fits_of_le`: what is measured of a body, told from its length.
* `Http.Unsigned`: a delivery that is refused before its body is measured.
* `Http.status_receive_long`, `Http.status_receive_short`: a body that is too long is answered with 413, or with 403
  for want of a signature; any other one is never answered with 413.
* `Service.limit_enforced`: **no body that is too long has any effect, and no other one is refused for its length.**
-/

namespace RunnerDispatch

namespace Http

variable {σ ε : Type} {service : Service} {r : Request} {limit : ℕ}

/-! ## Lengths -/

/-- A body above the limit is too long, whatever is declared. -/
theorem bodyExceeds_of_lt (h : limit < r.body.length) : bodyExceeds limit r = true :=
  decide_eq_true (Nat.lt_of_le_of_lt (Nat.min_le_left _ _) h)

/-- **Who declares no length, or the true one, is measured by that.** -/
theorem fits_of_le (h : r.body.length ≤ limit) (hdeclared : ∀ n, r.declaredLength? = some n → n = r.body.length) :
    declaresTooMuch limit r = false ∧ bodyExceeds limit r = false := by
  rw [declaresTooMuch, bodyExceeds, allowance, decide_eq_false_iff_not, Nat.not_lt]
  cases hlength : r.declaredLength? with
  | none => exact ⟨rfl, by rw [Option.getD_none, Nat.min_self]; exact h⟩
  | some n =>
    obtain rfl := hdeclared n hlength
    exact ⟨decide_eq_false (Nat.not_lt_of_le h), by rw [Option.getD_some, Nat.min_eq_right h]⟩

theorem declaresTooMuch_eq_false_iff :
    declaresTooMuch limit r = false ↔ ∀ n, r.declaredLength? = some n → n ≤ limit := by
  rw [declaresTooMuch]
  cases r.declaredLength? <;> simp

/-! ## Who measures a body -/

/-- A delivery that has to be signed, does not declare too much, and **has no legible signature**. -/
structure Unsigned (service : Service) (r : Request) : Prop where
  asked : service.settings.webhook.secret ≠ none
  declared : ∀ n, r.declaredLength? = some n → n ≤ service.settings.webhook.bodyLimit
  signature : r.readable? Webhook.signatureHeader = none

/-- **A body that is too long is told so**, unless a signature is missed first. -/
theorem status_receive_long (hlong : bodyExceeds service.settings.webhook.bodyLimit r = true)
    (hfits : declaresTooMuch service.settings.webhook.bodyLimit r = false) (backend : Backend σ ε) (state : σ) :
    (Unsigned service r → (receive service backend r state).response.status = 403) ∧
      (¬ Unsigned service r → (receive service backend r state).response.status = 413) := by
  have hdeclared := declaresTooMuch_eq_false_iff.1 hfits
  cases hs : service.settings.webhook.secret with
  | none =>
    simp only [receive, hs, hlong, if_true]
    exact ⟨fun h => absurd hs h.asked, fun _ => rfl⟩
  | some secret =>
    simp only [receive, hs]
    have hasked : service.settings.webhook.secret ≠ none := by rw [hs]; exact Option.some_ne_none secret
    cases hheader : r.readable? Webhook.signatureHeader with
    | none =>
      obtain ⟨e, he, hstatus⟩ := authenticate_illegible (ε := ε) hheader secret service.settings.webhook.bodyLimit
      rw [he]
      exact ⟨fun _ => hstatus, fun h => absurd ⟨hasked, hdeclared, hheader⟩ h⟩
    | some header =>
      rw [authenticate_legible hheader, if_pos hlong]
      exact ⟨fun h => absurd (h.signature.symm.trans hheader) (by simp), fun _ => rfl⟩

/-- Who reads a delivery does not measure it. -/
theorem status_deliver (table : Routing.Table) (backend : Backend σ ε) (r : Request) (state : σ) :
    (deliver table backend r state).response.status ∈ [200, 400, 503] := by
  cases hj : (jobOf r : Except (Refusal ε) Job) with
  | error e =>
    have hstatus : (deliver table backend r state).response.status = e.status := by
      rw [deliver, hj]
      rfl
    rw [hstatus, status_jobOf hj]
    decide
  | ok job =>
    obtain ⟨hevent, hparsed⟩ := jobOf_ok_iff.1 hj
    rw [deliver_eq table backend state hevent hparsed]
    have hpasses := passesOn_passOn backend.explain (forward table backend job state)
    cases hd : (forward table backend job state).result with
    | ok outcome =>
      rw [(hpasses.accepted outcome hd).1]
      decide
    | error e =>
      rw [hpasses.refused e hd]
      rcases status_dispatch e with h | h <;> rw [h] <;> decide

/-- **A body that is not too long is not told so**, whoever measures it. -/
theorem status_receive_short (hshort : bodyExceeds service.settings.webhook.bodyLimit r = false)
    (backend : Backend σ ε) (state : σ) : (receive service backend r state).response.status ≠ 413 := by
  have hdeliver : (deliver service.table backend r state).response.status ≠ 413 := by
    intro h
    have hmem := status_deliver service.table backend r state
    rw [h] at hmem
    exact absurd hmem (by decide)
  cases hs : service.settings.webhook.secret with
  | none =>
    simp only [receive, hs, hshort, Bool.false_eq_true, if_false]
    exact hdeliver
  | some secret =>
    simp only [receive, hs]
    cases ha : (authenticate secret service.settings.webhook.bodyLimit r : Except (Refusal ε) Unit) with
    | ok u => exact hdeliver
    | error e =>
      rcases status_authenticate ha with h403 | ⟨hlong, -⟩
      · intro h
        have h413 : e.status = 413 := h
        exact absurd (h403.symm.trans h413) (by decide)
      · exact absurd (hshort.symm.trans hlong) Bool.false_ne_true

end Http

namespace Service

variable {σ ε : Type} {service : Service} {r : Http.Request}

/-- A delivery on the webhook's path is measured by who receives it, unless it declares too much. -/
theorem status_handle_webhook (hroute : Http.Route.of service.settings.webhook.path r = .webhook)
    (backend : Backend σ ε) (state : σ) :
    (service.handle backend r state).response.status =
      if Http.declaresTooMuch service.settings.webhook.bodyLimit r then 413
      else (Http.receive service backend r state).response.status := by
  rw [handle, Http.status_complete, Http.respond]
  split
  · rfl
  · rw [Http.follow, hroute]

/-- **A body that is too long has no effect**, and no job is counted. -/
theorem idle_handle_long (hlong : Http.bodyExceeds service.settings.webhook.bodyLimit r = true)
    (backend : Backend σ ε) (state : σ) : Http.Idle (service.handle backend r state) state := by
  rcases handle_cases service backend r state with ⟨job, hdelivers, -⟩ | hidle
  · exact absurd (hdelivers.length.symm.trans hlong) Bool.false_ne_true
  · exact hidle

/-- **No body that is too long has any effect, and no other one is refused for its length.** Whatever the settings,
with a secret or without, the backend, what it holds and what else a POST on the webhook's path says: if its body is
longer than the limit then the state and all counts of jobs stay as they are, and the answer is 413; only if a
signature is asked for, no length above the limit is declared and the first signature header is missing or illegible
it is 403. If the body is within the limit, and its length is declared truly or not at all, the answer is never
413. -/
theorem limit_enforced (service : Service) (backend : Backend σ ε) (r : Http.Request) (state : σ)
    (hmethod : r.method = "POST") (hpath : r.path = service.settings.webhook.path) :
    let limit := service.settings.webhook.bodyLimit
    let h := service.handle backend r state
    (limit < r.body.length →
      h.state = state ∧
      (∀ (metrics : Metrics) (s : Series), s.countsJobs = true → (metrics.record h.counted).count s = metrics.count s) ∧
      (Http.Unsigned service r → h.response.status = 403) ∧
      (¬ Http.Unsigned service r → h.response.status = 413)) ∧
    (r.body.length ≤ limit → (∀ n, r.declaredLength? = some n → n = r.body.length) →
      h.response.status ≠ 413) := by
  intro limit h
  have hroute : Http.Route.of service.settings.webhook.path r = .webhook :=
    Http.route_webhook_iff.2 ⟨hmethod, hpath⟩
  have hstatus : h.response.status = if Http.declaresTooMuch limit r then 413
      else (Http.receive service backend r state).response.status := status_handle_webhook hroute backend state
  constructor
  · intro habove
    have hlong := Http.bodyExceeds_of_lt habove
    have hidle := idle_handle_long hlong backend state
    refine ⟨hidle.state, fun metrics s hs => ?_, ?_⟩
    · rw [Metrics.count_record, count_idle hidle hs, Nat.add_zero]
    cases hdeclares : Http.declaresTooMuch limit r with
    | true =>
      -- who declares too much is told so before any signature is missed
      have hsigned : ¬ Http.Unsigned service r := fun hunsigned =>
        absurd (hdeclares.symm.trans (Http.declaresTooMuch_eq_false_iff.2 hunsigned.declared)) (by decide)
      rw [hdeclares, if_pos rfl] at hstatus
      exact ⟨fun hunsigned => absurd hunsigned hsigned, fun _ => hstatus⟩
    | false =>
      rw [hdeclares, if_neg Bool.false_ne_true] at hstatus
      rw [hstatus]
      exact Http.status_receive_long hlong hdeclares backend state
  · intro hwithin hdeclared
    obtain ⟨hdeclares, hshort⟩ := Http.fits_of_le hwithin hdeclared
    rw [hstatus, hdeclares, if_neg Bool.false_ne_true]
    exact Http.status_receive_short hshort backend state

/-- A service whose limit is ten bytes. -/
def tenBytes (secret : Option String) : Service :=
  ⟨{ webhook := { bodyLimit := 10, secret }, rules := Routing.loneFlavor }, Routing.loneTable⟩

/-- Eleven bytes are too many for who asks for no signature; who asks for one misses it first. Ten bytes are never too
many. -/
theorem limit_enforced_tenBytes :
    let status (secret : Option String) (length : ℕ) : ℕ :=
      let h := (tenBytes secret).handle Queue.backend (bareDelivery (List.replicate length 120)) { capacity := 1 }
      h.response.status
    status none 11 = 413 ∧ status (some "s") 11 = 403 ∧ status none 10 ≠ 413 ∧ status (some "s") 10 ≠ 413 := by
  intro status
  have hpath (length : ℕ) : (bareDelivery (List.replicate length 120)).path = "/webhook" := by cbv
  have hlength (length : ℕ) : (bareDelivery (List.replicate length 120)).body.length = length := List.length_replicate
  have hundeclared (length : ℕ) (bounds : ℕ → Prop) :
      ∀ n, (bareDelivery (List.replicate length 120)).declaredLength? = some n → bounds n := by
    intro n hn
    have hnone : (bareDelivery (List.replicate length 120)).declaredLength? = none := rfl
    rw [hnone] at hn
    cases hn
  have hlong (secret : Option String) := (limit_enforced (tenBytes secret) Queue.backend
    (bareDelivery (List.replicate 11 120)) { capacity := 1 } rfl (hpath 11)).1
      (by rw [hlength]; exact Nat.lt_succ_self 10)
  have hshort (secret : Option String) := (limit_enforced (tenBytes secret) Queue.backend
    (bareDelivery (List.replicate 10 120)) { capacity := 1 } rfl (hpath 10)).2 (hlength 10).le
      (hundeclared 10 _)
  have hasked : ¬ Http.Unsigned (tenBytes none) (bareDelivery (List.replicate 11 120)) := fun h => h.asked rfl
  have hunsigned : Http.Unsigned (tenBytes (some "s")) (bareDelivery (List.replicate 11 120)) :=
    ⟨Option.some_ne_none "s", hundeclared 11 _, rfl⟩
  exact ⟨(hlong none).2.2.2 hasked, (hlong (some "s")).2.2.1 hunsigned, hshort none, hshort (some "s")⟩

end Service

end RunnerDispatch
