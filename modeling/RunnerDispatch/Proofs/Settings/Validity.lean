import RunnerDispatch.Proofs.Http.Exchange
import RunnerDispatch.Proofs.Routing.Compilation
import RunnerDispatch.Server

/-!
# What settings without a problem are good for

Settings are checked once, before anything is started, and are not checked again where they are used.

* `Settings.Valid`, `Settings.problems_eq_nil_iff`: **there is no problem with settings exactly if each of them
  can be used.**
* `Server.startMetrics_run`: a metrics endpoint with an address is opened, or the start fails.
* `Http.IsLiteral`, `Http.handle_webhook`, `Http.handle_health`, `Http.handle_elsewhere`: the two paths that are
  served are taken as they are, and nothing else is served.
* `Settings.vouched_for`: **what the checks let pass does not fail later.**
-/

namespace RunnerDispatch

namespace Settings

/-- Settings each of which can be used. -/
structure Valid [Log.PatternSyntax] (s : Settings) : Prop where
  bindAddress : (Net.SocketAddress.parse? s.bindAddress).isSome = true
  path : isWebhookPath s.webhook.path = true
  unreserved : s.webhook.path ≠ healthPath
  secret : s.webhook.secret ≠ some ""
  bodyLimit : s.webhook.bodyLimit ≠ 0
  requestSeconds : s.requestSeconds ≠ 0
  capacity : s.queue.capacity ≠ 0
  metricsAddress : s.reports.metricsEnabled = true →
    (Net.SocketAddress.parse? s.reports.metricsAddress).isSome = true
  logLevel : (Log.Filter.parse? s.reports.logLevel).isSome = true

theorem pathProblem_eq_none_iff {path : String} :
    pathProblem path = none ↔ isWebhookPath path = true ∧ path ≠ healthPath := by
  unfold pathProblem
  cases isWebhookPath path with
  | false => simp
  | true => by_cases h : path = healthPath <;> simp [h]

theorem zeroProblem_eq_none_iff {setting : Positive} {value : ℕ} :
    zeroProblem setting value = none ↔ value ≠ 0 := by
  unfold zeroProblem
  by_cases h : value = 0 <;> simp [h]

variable [Log.PatternSyntax] {s : Settings}

/-- **There is no problem with settings exactly if each of them can be used.** -/
theorem problems_eq_nil_iff : s.problems = [] ↔ s.Valid := by
  have hall : s.problems = [] ↔ ∀ check ∈ s.checks, check = none := by
    rw [problems, List.filterMap_eq_nil_iff]
    rfl
  rw [hall, checks]
  simp only [List.forall_mem_cons, pathProblem_eq_none_iff, zeroProblem_eq_none_iff, ite_eq_right_iff, reduceCtorEq,
    imp_false, Option.isNone_iff_eq_none, ← Option.isSome_iff_ne_none, ne_eq, not_and, List.not_mem_nil,
    false_implies, implies_true, and_true]
  constructor
  · rintro ⟨haddress, ⟨hpath, hfree⟩, hsecret, hlimit, hseconds, hcapacity, hmetrics, hlevel⟩
    exact ⟨haddress, hpath, hfree, hsecret, hlimit, hseconds, hcapacity, hmetrics, hlevel⟩
  · intro h
    exact ⟨h.bindAddress, ⟨h.path, h.unreserved⟩, h.secret, h.bodyLimit, h.requestSeconds, h.capacity,
      h.metricsAddress, h.logLevel⟩

/-- **A filter is found whatever the override holds**, if the one in the settings is well formed. -/
theorem Valid.select_ok (h : s.Valid) (override : Option String) :
    ∃ filter, Log.Filter.select override s.reports.logLevel = .ok filter := by
  obtain ⟨fallback, hfallback⟩ := Option.isSome_iff_exists.1 h.logLevel
  unfold Log.Filter.select
  cases override.bind Log.Filter.parse? with
  | some filter => exact ⟨filter, rfl⟩
  | none =>
    simp only [hfallback]
    exact ⟨fallback, rfl⟩

end Settings

/-! ## The metrics endpoint -/

/-- **A metrics endpoint with an address is opened and reported, or the start fails.** -/
theorem Server.startMetrics_run {s : Settings} {address : Net.SocketAddress}
    (h : metricsAddress? s = some address) (host : Net.Host) (records : List Log.Record) :
    (startMetrics s host).run.run records = match host.bind? address with
      | none => (.error (.metrics "address in use"), records)
      | some (_, host') => (.ok host', records ++ [measuring address]) := by
  unfold startMetrics
  rw [h]
  cases hbind : host.bind? address with
  | none => simp only [hbind]; rfl
  | some bound => simp only [hbind]; rfl

/-! ## Routes -/

namespace Http

/-- A path that is **taken as it is**: it begins with a slash, and nothing in it stands for anything else, as
braces, a colon or a star may do. -/
structure IsLiteral (path : String) : Prop where
  absolute : path.toList.head? = some '/'
  plain : ∀ c ∈ path.toList, c ∉ ['\x7b', '\x7d', ':', '*']

/-- **A path of unreserved characters is taken as it is.** -/
theorem isLiteral_of_isWebhookPath {path : String} (h : isWebhookPath path = true) : IsLiteral path := by
  have hplain : ∀ c, isPathChar c = true → c ∉ ['\x7b', '\x7d', ':', '*'] := by
    intro c hc hmem
    simp only [List.mem_cons, List.not_mem_nil, or_false] at hmem
    rcases hmem with rfl | rfl | rfl | rfl <;> exact absurd hc (by decide)
  unfold isWebhookPath at h
  split at h
  · rename_i c cs hpath
    refine ⟨by rw [hpath]; rfl, ?_⟩
    rw [hpath, List.forall_mem_cons]
    exact ⟨by decide, fun d hd => hplain d (List.all_eq_true.1 h d hd)⟩
  · exact (nomatch h)

theorem isLiteral_healthPath : IsLiteral healthPath := isLiteral_of_isWebhookPath (by decide +kernel)

section

variable {σ ε : Type} {service : Service} {r : Request}

/-- What a handler answers, completed with what is owed to the request. -/
def completed (service : Service) (r : Request) (h : Handled σ) : Handled σ :=
  { h with response := complete service r h.response }

theorem route_health_iff {path : String} :
    Route.of path r = .health ↔ (r.method = "GET" ∨ r.method = "HEAD") ∧ r.path = healthPath := by
  constructor
  · intro h
    unfold Route.of at h
    split at h
    · exact (nomatch h)
    split at h
    · rename_i hboth
      exact hboth.symm
    split at h <;> exact (nomatch h)
  · rintro ⟨hmethod, hpath⟩
    have hpost : ¬ (r.path = path ∧ r.method = "POST") := by
      rintro ⟨-, hpost⟩
      rcases hmethod with hget | hhead
      · exact absurd (hget.symm.trans hpost) (by decide)
      · exact absurd (hhead.symm.trans hpost) (by decide)
    rw [Route.of, if_neg hpost, if_pos ⟨hpath, hmethod⟩]

theorem route_unknown {path : String} (hwebhook : r.path ≠ path) (hhealth : r.path ≠ healthPath) :
    Route.of path r = .unknown := by
  unfold Route.of methodsAt
  simp [hwebhook, hhealth]

/-- What fits is handled by its route. -/
theorem handle_eq_follow (hfits : declaresTooMuch service.settings.webhook.bodyLimit r = false)
    (backend : Backend σ ε) (state : σ) :
    service.handle backend r state = completed service r (follow service backend r state) := by
  rw [Service.handle, respond_eq_follow hfits]
  rfl

/-- **A POST on the webhook's path is received.** -/
theorem handle_webhook (hfits : declaresTooMuch service.settings.webhook.bodyLimit r = false)
    (hmethod : r.method = "POST") (hpath : r.path = service.settings.webhook.path) (backend : Backend σ ε)
    (state : σ) :
    service.handle backend r state = completed service r (receive service backend r state) := by
  rw [handle_eq_follow hfits, follow, route_webhook_iff.2 ⟨hmethod, hpath⟩]

/-- **A GET on the path for health is told of it.** -/
theorem handle_health (hfits : declaresTooMuch service.settings.webhook.bodyLimit r = false)
    (hmethod : r.method = "GET") (hpath : r.path = healthPath) (backend : Backend σ ε) (state : σ) :
    service.handle backend r state = completed service r (health backend state) := by
  rw [handle_eq_follow hfits, follow, route_health_iff.2 ⟨.inl hmethod, hpath⟩]

/-- **Nothing is found on any other path.** -/
theorem handle_elsewhere (hfits : declaresTooMuch service.settings.webhook.bodyLimit r = false)
    (hwebhook : r.path ≠ service.settings.webhook.path) (hhealth : r.path ≠ healthPath) (backend : Backend σ ε)
    (state : σ) :
    service.handle backend r state = completed service r { response := .bare 404, state } := by
  rw [handle_eq_follow hfits, follow, route_unknown hwebhook hhealth]

end

end Http

/-- **What the checks let pass does not fail later.** With settings that have no problem there is a log filter,
whatever the override holds; a metrics endpoint that is asked for has an address, so that it is opened and reported
or the start fails; and the webhook and health have two different paths, both taken as they are. Of the requests
that do not declare too long a body, a POST on the webhook's path is received, a GET on the path for health is told
of it, and on other paths neither happens. All this holds whichever patterns a log filter may use. -/
theorem Settings.vouched_for [Log.PatternSyntax] {s : Settings} (hs : s.problems = []) :
    (∀ override, ∃ filter, Log.Filter.select override s.reports.logLevel = .ok filter) ∧
    (s.reports.metricsEnabled = true → ∃ address, Server.metricsAddress? s = some address ∧
      ∀ (host : Net.Host) (records : List Log.Record),
        (Server.startMetrics s host).run.run records = match host.bind? address with
          | none => (.error (.metrics "address in use"), records)
          | some (_, host') => (.ok host', records ++ [Server.measuring address])) ∧
    (Http.IsLiteral s.webhook.path ∧ Http.IsLiteral healthPath ∧ s.webhook.path ≠ healthPath) ∧
    ∀ (table : Routing.Table) (σ ε : Type) (backend : Backend σ ε) (r : Http.Request) (state : σ),
      let service : Service := ⟨s, table⟩
      Http.declaresTooMuch s.webhook.bodyLimit r = false →
      (r.method = "POST" → r.path = s.webhook.path →
        service.handle backend r state = Http.completed service r (Http.receive service backend r state)) ∧
      (r.method = "GET" → r.path = healthPath →
        service.handle backend r state = Http.completed service r (Http.health backend state)) ∧
      (Http.Route.of s.webhook.path r = .webhook → r.path = s.webhook.path) ∧
      (Http.Route.of s.webhook.path r = .health → r.path = healthPath) ∧
      (r.path ≠ s.webhook.path → r.path ≠ healthPath →
        service.handle backend r state = Http.completed service r { response := .bare 404, state }) := by
  have hvalid := problems_eq_nil_iff.1 hs
  refine ⟨hvalid.select_ok, fun henabled => ?_, ⟨Http.isLiteral_of_isWebhookPath hvalid.path,
    Http.isLiteral_healthPath, hvalid.unreserved⟩, fun table σ ε backend r state => ?_⟩
  · obtain ⟨address, haddress⟩ := Option.isSome_iff_exists.1 (hvalid.metricsAddress henabled)
    have hmetrics : Server.metricsAddress? s = some address := by
      rw [Server.metricsAddress?, if_pos henabled, haddress]
    exact ⟨address, hmetrics, Server.startMetrics_run hmetrics⟩
  · intro service hfits
    have hfits' : Http.declaresTooMuch service.settings.webhook.bodyLimit r = false := hfits
    refine ⟨fun hmethod hpath => ?_, fun hmethod hpath => ?_, fun hroute => ?_, fun hroute => ?_,
      fun hwebhook hhealth => ?_⟩
    · exact Http.handle_webhook hfits' hmethod hpath backend state
    · exact Http.handle_health hfits' hmethod hpath backend state
    · exact (Http.route_webhook_iff.1 hroute).2
    · exact (Http.route_health_iff.1 hroute).2
    · exact Http.handle_elsewhere hfits' hwebhook hhealth backend state

set_option maxRecDepth 20000 in
/-- Settings that ask for metrics, and are otherwise the standard ones, have no problem. -/
theorem Settings.valid_metered [Log.PatternSyntax] : ({ reports := { metricsEnabled := true } } : Settings).Valid where
  bindAddress := by cbv
  path := by decide +kernel
  unreserved := by decide
  secret := nofun
  bodyLimit := by decide
  requestSeconds := by decide
  capacity := by decide
  metricsAddress := fun _ => by cbv
  logLevel := by cbv

/-- A malformed override does no harm, the metrics have an address, and a GET for health is told of it. -/
theorem Settings.vouched_for_metered :
    let s : Settings := { reports := { metricsEnabled := true } }
    let service : Service := ⟨s, Routing.loneTable⟩
    let r : Http.Request := { method := "GET", target := "/health" }
    s.problems = [] ∧ (∃ filter, Log.Filter.select (some "a=b=c") s.reports.logLevel = .ok filter) ∧
      (∃ address, Server.metricsAddress? s = some address) ∧
      service.handle Queue.backend r { capacity := 1 } =
        Http.completed service r (Http.health Queue.backend { capacity := 1 }) := by
  intro s service r
  have hs : s.problems = [] := problems_eq_nil_iff.2 valid_metered
  have hfits : Http.declaresTooMuch s.webhook.bodyLimit r = false := by cbv
  have hpath : r.path = healthPath := by cbv
  obtain ⟨hfilter, hmetrics, -, hroutes⟩ := vouched_for hs
  obtain ⟨address, haddress, -⟩ := hmetrics rfl
  obtain ⟨-, hhealth, -⟩ := hroutes Routing.loneTable Queue QueueFault Queue.backend r { capacity := 1 } hfits
  exact ⟨hs, hfilter _, ⟨address, haddress⟩, hhealth rfl hpath⟩

end RunnerDispatch
