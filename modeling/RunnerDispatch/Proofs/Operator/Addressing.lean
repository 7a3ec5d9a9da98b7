import RunnerDispatch.Proofs.Operator.Delivery
import RunnerDispatch.Proofs.Service.Limit
import RunnerDispatch.Proofs.Settings.Validity
import RunnerDispatch.Proofs.Url.Base

/-!
# Where a delivery arrives

The operator's command writes the webhook's path behind a base and reads both as a URL, and the service compares
the path of a request with that of its settings. The characters that settings may use stand for themselves in a
URL, but the segments of dots that they may write with them are followed.

* `isVerbatim_of_isPathChar`: the characters of a webhook's path stand for themselves.
* `Sending.path_request`: the path that arrives is that of the URL.
* `Settings.delivered_unless_dots`: **a delivery to the webhook's path arrives there exactly if no segment of the
  path is dots.**
-/

namespace RunnerDispatch

open Operator (Arguments Sending)

/-! ## The characters of a webhook's path -/

/-- They are visible characters of ASCII. -/
theorem code_isPathChar {c : Char} (h : isPathChar c = true) : 0x20 < c.toNat ∧ c.toNat < 0x7F := by
  rw [isPathChar, Bool.or_eq_true, List.contains_iff_mem] at h
  rcases h with halphanum | hmark
  · simp only [Char.isAlphanum, Char.isAlpha, Char.isUpper, Char.isLower, Char.isDigit, Bool.or_eq_true,
      Bool.and_eq_true, decide_eq_true_eq, ge_iff_le, UInt32.le_iff_toNat_le] at halphanum
    change ((65 ≤ c.toNat ∧ c.toNat ≤ 90) ∨ 97 ≤ c.toNat ∧ c.toNat ≤ 122) ∨ 48 ≤ c.toNat ∧ c.toNat ≤ 57 at halphanum
    omega
  · simp only [List.mem_cons, List.not_mem_nil, or_false] at hmark
    rcases hmark with rfl | rfl | rfl | rfl | rfl <;> decide

/-- **The characters of a webhook's path stand for themselves** in the path of a URL. -/
theorem isVerbatim_of_isPathChar {c : Char} (h : isPathChar c = true) : Url.IsVerbatim c := by
  have hne : ∀ d, isPathChar d = false → c ≠ d := by
    rintro d hd rfl
    exact Bool.false_ne_true (hd.symm.trans h)
  obtain ⟨hvisible, hascii⟩ := code_isPathChar h
  have hends : Url.endsPath c = false := by
    simp [Url.endsPath, hne '?' (by decide), hne '#' (by decide)]
  have hany : Url.Percent.inAnyPart c = false := by
    rw [Url.Percent.inAnyPart, Bool.or_eq_false_iff, decide_eq_false_iff_not, beq_eq_false_iff_ne]
    omega
  have hencoded : Url.Percent.inPath c = false := by
    simp [Url.Percent.inPath, Url.Percent.inFragment, hany, hne ' ' (by decide), hne '"' (by decide),
      hne '<' (by decide), hne '>' (by decide), hne '`' (by decide), hne '#' (by decide), hne '?' (by decide),
      hne '\x7b' (by decide), hne '\x7d' (by decide)]
  refine ⟨hvisible, ?_, hends, hne _ (by decide), hne _ (by decide)⟩
  rw [Url.Percent.encodeChar, hencoded, if_neg]
  simpa using Nat.lt_trans hascii (by decide)

/-- A webhook's path is a slash and such characters. -/
theorem exists_verbatim {path : String} (h : isWebhookPath path = true) :
    ∃ cs, path.toList = '/' :: cs ∧ ∀ c ∈ cs, Url.IsVerbatim c := by
  unfold isWebhookPath at h
  split at h
  · rename_i c cs hpath
    exact ⟨c :: cs, hpath, fun d hd => isVerbatim_of_isPathChar (List.all_eq_true.1 h d hd)⟩
  · exact (nomatch h)

/-! ## The path of a request -/

/-- **The path that arrives is that of the URL**, if the latter has no query. -/
theorem Operator.Sending.path_request {sending : Sending} {goal : Url} {ss : List (List Char)}
    (hpath : goal.path = .ofSegments ss) (hquery : goal.query = none)
    (hends : ∀ c ∈ goal.path.text.toList, Url.endsPath c = false) :
    (sending.request goal).path = goal.path.text := by
  have htarget : (sending.request goal).target = goal.path.text := by
    rw [Sending.request, Operator.targetOf, hquery]
    exact String.append_empty
  have hkeep : Http.Request.dropQuery goal.path.text.toList = goal.path.text.toList := by
    rw [Http.Request.dropQuery, List.takeWhile_eq_self_iff]
    intro c hc
    have hc := hends c hc
    rw [Url.endsPath, Bool.or_eq_false_iff] at hc
    simp [bne, hc]
  have htext := Url.toList_text_ofSegments ss
  rw [← hpath, Url.intercalate_cons, List.nil_append] at htext
  unfold Http.Request.path
  rw [htarget]
  -- what is behind a slash is kept, and without segments there is nothing at all
  cases ss with
  | nil =>
    rw [← String.toList_inj, htext]
    rfl
  | cons s ss =>
    rw [List.flatMap_cons, List.cons_append] at htext
    rw [htext] at hkeep ⊢
    simp only [hkeep]
    rw [← htext, String.ofList_toList]

/-! ## The answer -/

/-- **What is received is never answered as if it had not been found.** -/
theorem Http.status_receive_ne {σ ε : Type} (service : Service) (backend : Backend σ ε) (r : Request) (state : σ) :
    (receive service backend r state).response.status ≠ 404 := by
  have hdeliver : (deliver service.table backend r state).response.status ≠ 404 := by
    intro h
    have hmem := status_deliver service.table backend r state
    rw [h] at hmem
    exact absurd hmem (by decide)
  unfold receive
  dsimp only
  cases service.settings.webhook.secret with
  | some secret =>
    dsimp only
    cases ha : (authenticate secret service.settings.webhook.bodyLimit r : Except (Refusal ε) Unit) with
    | error e =>
      intro h
      have hstatus : e.status = 404 := h
      rcases status_authenticate ha with h403 | ⟨-, h413⟩
      · exact absurd (h403.symm.trans hstatus) (by decide)
      · exact absurd (h413.symm.trans hstatus) (by decide)
    | ok u => exact hdeliver
  | none =>
    dsimp only
    split
    · exact (by decide : (413 : ℕ) ≠ 404)
    · exact hdeliver

/-- So is what arrives on the webhook's path, however long it is. -/
theorem Service.status_ne_of_route {σ ε : Type} {service : Service} {r : Http.Request}
    (hroute : Http.Route.of service.settings.webhook.path r = .webhook) (backend : Backend σ ε) (state : σ) :
    (service.handle backend r state).response.status ≠ 404 := by
  rw [status_handle_webhook hroute]
  split
  · decide
  · exact Http.status_receive_ne service backend r state

/-- What does not arrive there changes nothing. -/
theorem Service.state_of_route_ne {σ ε : Type} {service : Service} {r : Http.Request}
    (hroute : Http.Route.of service.settings.webhook.path r ≠ .webhook) (backend : Backend σ ε) (state : σ) :
    (service.handle backend r state).state = state := by
  rcases handle_cases service backend r state with ⟨job, hdelivers, -⟩ | hidle
  · exact absurd (Http.route_webhook_iff.2 ⟨hdelivers.method, hdelivers.path⟩) hroute
  · exact hidle.state

/-- **A delivery to the webhook's path arrives there exactly if no segment of the path is dots.** Whatever the
host and the port of the base are, the URL of the base with a path that settings may have differs from that of the
base in its path only, and has the very path of the settings exactly if that has no segment of dots. Then what is
sent to it is received, and is not answered with 404. Otherwise it is not received and changes nothing. -/
theorem Settings.delivered_unless_dots [Log.PatternSyntax] {s : Settings} (hs : s.problems = []) {base : String}
    (hbase : Url.IsBase base) {place : Url} (hplace : Url.parse base = .ok place) :
    ∃ goal : Url, Url.parse (base ++ s.webhook.path) = .ok goal ∧ goal = { place with path := goal.path } ∧
      (goal.path.text = s.webhook.path ↔ ¬ Url.HasDots s.webhook.path) ∧
      ∀ (a : Arguments) (sending : Sending), a.command = .send sending → a.url = base →
        sending.path = s.webhook.path → a.call = .ok ⟨goal, sending.request goal⟩ ∧
        (Http.Route.of s.webhook.path (sending.request goal) = .webhook ↔ ¬ Url.HasDots s.webhook.path) ∧
        ∀ (table : Routing.Table) (σ ε : Type) (backend : Backend σ ε) (state : σ),
          let answer := (⟨s, table⟩ : Service).handle backend (sending.request goal) state
          (¬ Url.HasDots s.webhook.path → answer.response.status ≠ 404) ∧
          (Url.HasDots s.webhook.path → answer.state = state ∧
            (Http.declaresTooMuch s.webhook.bodyLimit (sending.request goal) = false →
              goal.path.text ≠ healthPath → answer.response.status = 404)) := by
  have hvalid := problems_eq_nil_iff.1 hs
  obtain ⟨cs, hpath, hverbatim⟩ := exists_verbatim hvalid.path
  obtain ⟨authority, rfl, happend⟩ := Url.exists_authority hbase hplace
  have hsame := Url.text_readSegments_eq_iff hpath hverbatim
  refine ⟨_, happend _ cs hpath hverbatim, rfl, hsame, fun a sending hcommand hurl hsent => ?_⟩
  generalize hgoal : (⟨"http", some authority, .ofSegments (Url.readSegments .special cs).1, none, none⟩ : Url) = goal
  have hcall : a.call = .ok ⟨goal, sending.request goal⟩ := by
    refine (Operator.Arguments.call_ok_iff hcommand).2 ⟨goal, ?_, rfl⟩
    simp only [Arguments.goal, hcommand, hurl, hsent, happend _ cs hpath hverbatim, ← hgoal]
    rfl
  -- the service sees the text of the URL's path, and that alone decides on the route
  have hrequest : (sending.request goal).path = goal.path.text := by
    subst hgoal
    exact Sending.path_request rfl rfl (Url.endsPath_text hverbatim)
  have hroute : Http.Route.of s.webhook.path (sending.request goal) = .webhook ↔ ¬ Url.HasDots s.webhook.path := by
    rw [Http.route_webhook_iff, hrequest, ← hsame, ← hgoal]
    exact and_iff_right rfl
  refine ⟨hcall, hroute, fun table σ ε backend state => ⟨fun hdots => ?_, fun hdots => ?_⟩⟩
  · exact Service.status_ne_of_route (hroute.2 hdots) backend state
  · have hne : Http.Route.of s.webhook.path (sending.request goal) ≠ .webhook := fun h => hroute.1 h hdots
    refine ⟨Service.state_of_route_ne hne backend state, fun hfits hhealth => ?_⟩
    have hwebhook : goal.path.text ≠ s.webhook.path := fun h => hne (Http.route_webhook_iff.2 ⟨rfl, hrequest.trans h⟩)
    rw [Http.handle_elsewhere hfits (hrequest ▸ hwebhook) (hrequest ▸ hhealth)]
    exact Http.status_complete _ _ _

/-- Settings that have a path of their own, and are otherwise the standard ones. -/
theorem Settings.valid_path [Log.PatternSyntax] {path : String} (hpath : isWebhookPath path = true)
    (hfree : path ≠ healthPath) : ({ webhook := { path } } : Settings).Valid where
  bindAddress := valid_metered.bindAddress
  path := hpath
  unreserved := hfree
  secret := nofun
  bodyLimit := valid_metered.bodyLimit
  requestSeconds := valid_metered.requestSeconds
  capacity := valid_metered.capacity
  metricsAddress := nofun
  logLevel := valid_metered.logLevel

/-- A path with an empty segment and one of three dots is kept, and a delivery to it is received. -/
theorem Settings.delivered_unless_dots_kept :
    let s : Settings := { webhook := { path := "//a/.../b" } }
    let sending : Sending := { path := "//a/.../b" }
    s.problems = [] ∧ ∃ goal, Url.parse ("http://[::1]:8080" ++ s.webhook.path) = .ok goal ∧
      goal.path.text = "//a/.../b" ∧
      ((⟨s, Routing.loneTable⟩ : Service).handle Queue.backend (sending.request goal)
        { capacity := 1 }).response.status ≠ 404 := by
  intro s sending
  have hs : s.problems = [] := problems_eq_nil_iff.2 (valid_path (by decide +kernel) (by decide))
  have hbase : Url.IsBase "http://[::1]:8080" := ⟨"[::1]:8080", rfl, by decide, by simp [Url.IsPlaceChar]⟩
  have hdots : ¬ Url.HasDots s.webhook.path := by decide +kernel
  obtain ⟨place, hplace⟩ : ∃ place, Url.parse "http://[::1]:8080" = .ok place := ⟨_, by cbv⟩
  obtain ⟨goal, hgoal, -, htext, hsent⟩ := delivered_unless_dots hs hbase hplace
  obtain ⟨-, -, hanswer⟩ := hsent ⟨"http://[::1]:8080", .send sending⟩ sending rfl rfl rfl
  exact ⟨hs, goal, hgoal, htext.2 hdots, (hanswer _ _ _ _ _).1 hdots⟩

/-- **A path with a segment of dots has no problem and is not found**: the URL of `/./hook` leads to `/hook`, and a
delivery goes there. -/
theorem Settings.not_delivered_dotted :
    let s : Settings := { webhook := { path := "/./hook" } }
    let base := "http://[::1]:8080"
    let sending : Sending := { path := s.webhook.path }
    s.problems = [] ∧ Url.IsBase base ∧ ∃ goal : Url,
      Url.parse (base ++ s.webhook.path) = .ok goal ∧ goal.text = "http://[::1]:8080/hook" ∧
      goal.path.text = "/hook" ∧ (⟨base, .send sending⟩ : Arguments).call = .ok ⟨goal, sending.request goal⟩ ∧
      ((⟨s, Routing.loneTable⟩ : Service).handle Queue.backend (sending.request goal)
        { capacity := 1 }).response.status = 404 := by
  intro s base sending
  have hs : s.problems = [] := problems_eq_nil_iff.2 (valid_path (by decide +kernel) (by decide))
  have hbase : Url.IsBase base := ⟨"[::1]:8080", rfl, by decide, by simp [Url.IsPlaceChar]⟩
  obtain ⟨goal, hparsed, htext, hplace, htarget⟩ : ∃ goal, Url.parse ("http://[::1]:8080" ++ "/./hook") = .ok goal ∧
      goal.text = "http://[::1]:8080/hook" ∧ goal.path.text = "/hook" ∧ Operator.targetOf goal = "/hook" :=
    ⟨_, by cbv, by cbv, by cbv, by cbv⟩
  have hgoal : (⟨base, .send sending⟩ : Arguments).goal = .ok goal := by
    show (Url.parse (base ++ s.webhook.path)).mapError Operator.RequestFault.badUrl = _
    rw [hparsed]
    rfl
  have hpath : (sending.request goal).path = "/hook" := by
    rw [Http.Request.path, show (sending.request goal).target = "/hook" from htarget]
    cbv
  have hlength : sending.body.length ≤ 1048576 := by
    rw [show sending.body.length = 114 by cbv]
    decide
  have hfits : Http.declaresTooMuch s.webhook.bodyLimit (sending.request goal) = false :=
    (Http.fits_of_le hlength fun n hn => Sending.declaredLength?_request hn).1
  refine ⟨hs, hbase, goal, hparsed, htext, hplace,
    (Operator.Arguments.call_ok_iff rfl).2 ⟨goal, hgoal, rfl⟩, ?_⟩
  rw [Http.handle_elsewhere hfits]
  · exact Http.status_complete _ _ _
  · rw [hpath]
    decide
  · rw [hpath]
    decide

end RunnerDispatch
