import RunnerDispatch.Proofs.Http.Exchange
import RunnerDispatch.Proofs.Outcome

/-!
# Acknowledged deliveries

A sender that is told `forwarded` may forget about its job, so the answer must not say so in vain.

* `Acknowledges`: the answer tells its reader that the job waits in the queue of a flavor.
* `acknowledges_iff_enqueued`: **a delivery is acknowledged if and only if its job was put in a queue**, and
  that queue is the one that the answer names.
* `answer_read_back`: **who reads an answer gets the outcome**, in whatever order and among whatever else its members
  stand.
-/

namespace RunnerDispatch.Http

/-- The answer tells its reader that the job waits in the queue of a flavor. -/
def Acknowledges (response : Response) (f : Flavor) : Prop :=
  response.status = 200 ∧ Outcome.decode (Bytes.ofString response.body) = .ok (.forwarded f)

/-- Only an answer that is the text of the outcome acknowledges it. -/
theorem acknowledges_outcome {response : Response} {outcome : Outcome} (hstatus : response.status = 200)
    (hbody : response.body = outcome.body) {f : Flavor} :
    Acknowledges response f ↔ outcome = .forwarded f := by
  rw [Acknowledges, hbody, Outcome.decode_body, Except.ok.injEq]
  exact and_iff_right hstatus

/-- An answer that came without a dispatch acknowledges nothing. -/
theorem not_acknowledges_idle {σ : Type} {h : Handled σ} {state : σ} (hidle : Idle h state) (f : Flavor) :
    ¬ Acknowledges h.response f := by
  rintro ⟨hstatus, hdecode⟩
  -- the health check answers 200 as well, but what it says is no outcome
  have hempty : ∃ e, Outcome.decode (Bytes.ofString "") = .error e := ⟨_, by cbv⟩
  have hhealthy : ∃ e, Outcome.decode (Bytes.ofString healthyText) = .error e := ⟨_, by cbv⟩
  rcases hidle.body hstatus with hbody | hbody
  · obtain ⟨e, he⟩ := hhealthy
    rw [hbody, he] at hdecode
    cases hdecode
  · obtain ⟨e, he⟩ := hempty
    rw [hbody, he] at hdecode
    cases hdecode

theorem status_dispatch {ε : Type} (e : DispatchFault ε) :
    (Refusal.dispatch e).status = 400 ∨ (Refusal.dispatch e).status = 503 := by
  cases e with
  | noMatch e => exact .inl rfl
  | queue e => exact .inr rfl

/-- An answer that passes on what dispatching came to acknowledges what was forwarded. -/
theorem acknowledges_passesOn {σ ε : Type} {h : Handled σ} {d : Dispatched σ ε} (hd : PassesOn h d)
    (f : Flavor) : Acknowledges h.response f ↔ d.result = .ok (.forwarded f) := by
  cases hr : d.result with
  | ok outcome =>
    obtain ⟨hstatus, hbody⟩ := hd.accepted outcome hr
    rw [acknowledges_outcome hstatus hbody, Except.ok.injEq]
  | error e =>
    refine ⟨fun ⟨hstatus, _⟩ => ?_, (nomatch ·)⟩
    rw [hd.refused e hr] at hstatus
    rcases status_dispatch e with h400 | h503
    · exact absurd (h400.symm.trans hstatus) (by decide)
    · exact absurd (h503.symm.trans hstatus) (by decide)

/-- The status codes of answers. -/
theorem status_handle {σ ε : Type} (service : Service) (backend : Backend σ ε) (r : Request) (state : σ) :
    (service.handle backend r state).response.status ∈ [200, 400, 403, 404, 405, 413, 503] := by
  rcases Service.handle_cases service backend r state with ⟨job, -, hd⟩ | hidle
  · cases hr : (forward service.table backend job state).result with
    | ok outcome =>
      rw [(hd.accepted outcome hr).1]
      decide
    | error e =>
      rw [hd.refused e hr]
      rcases status_dispatch e with h | h <;> rw [h] <;> decide
  · exact hidle.status

/-- **Either one job is put in a queue and acknowledged, or no line changes and nothing is.** -/
theorem enqueues_or_not (service : Service) (q : Queue) (r : Request) :
    let h := service.handle Queue.backend r q
    (∃ f job, (∀ g, Acknowledges h.response g ↔ g = f) ∧ Webhook.parseJob r.body = .ok job ∧
      ∀ name, h.state.waiting name =
        if f.name = name then q.waiting name ++ [job.message] else q.waiting name) ∨
    ((∀ g, ¬ Acknowledges h.response g) ∧ ∀ name, h.state.waiting name = q.waiting name) := by
  intro h
  rcases Service.handle_cases service Queue.backend r q with ⟨job, hdelivers, hd⟩ | hidle
  · rcases waiting_forward service.table job q with ⟨f, hr, hwaiting⟩ | ⟨hr, hwaiting⟩
    · refine .inl ⟨f, job, fun g => ?_, hdelivers.parsed, fun name => ?_⟩
      · rw [acknowledges_passesOn hd, hr, Except.ok.injEq, Outcome.forwarded.injEq]
        exact eq_comm
      · rw [hd.state, hwaiting]
    · refine .inr ⟨fun g hg => hr g ((acknowledges_passesOn hd g).1 hg), fun name => ?_⟩
      rw [hd.state, hwaiting]
  · refine .inr ⟨not_acknowledges_idle hidle, fun name => ?_⟩
    rw [hidle.state]

theorem closed_handle (service : Service) (q : Queue) (r : Request) :
    (service.handle Queue.backend r q).state.closed = q.closed := by
  rcases Service.handle_cases service Queue.backend r q with ⟨job, -, hd⟩ | hidle
  · rw [hd.state, closed_forward]
  · rw [hidle.state]

/-- **A delivery is acknowledged if and only if its job was put in a queue.** Whatever the service, the
queue and the request, a line changes if and only if the answer is 200 and says `forwarded`. Then one
message, that of the job in the request's body, is put last in the line of the flavor that the answer
names, and no other line changes. Every other answer leaves all lines as they were, and no answer opens or
closes the queue. -/
theorem acknowledges_iff_enqueued (service : Service) (q : Queue) (r : Request) :
    let h := service.handle Queue.backend r q
    ((∃ name, h.state.waiting name ≠ q.waiting name) ↔ ∃ f, Acknowledges h.response f) ∧
    (∀ f, Acknowledges h.response f → ∃ job, Webhook.parseJob r.body = .ok job ∧
      h.state.waiting f.name = q.waiting f.name ++ [job.message] ∧
      ∀ name, name ≠ f.name → h.state.waiting name = q.waiting name) ∧
    ((¬ ∃ f, Acknowledges h.response f) → ∀ name, h.state.waiting name = q.waiting name) ∧
    h.state.closed = q.closed ∧ h.response.status ∈ [200, 400, 403, 404, 405, 413, 503] := by
  intro h
  have hclosed := closed_handle service q r
  have hstatus := status_handle service Queue.backend r q
  rcases enqueues_or_not service q r with ⟨f, job, hack, hparsed, hwaiting⟩ | ⟨hack, hwaiting⟩
  · have hline : h.state.waiting f.name = q.waiting f.name ++ [job.message] := by
      rw [hwaiting, if_pos rfl]
    have hchanged : h.state.waiting f.name ≠ q.waiting f.name := by
      rw [hline]
      simp
    refine ⟨⟨fun _ => ⟨f, (hack f).2 rfl⟩, fun _ => ⟨f.name, hchanged⟩⟩, fun g hg => ?_,
      fun hnone => absurd ⟨f, (hack f).2 rfl⟩ hnone, hclosed, hstatus⟩
    obtain rfl := (hack g).1 hg
    refine ⟨job, hparsed, hline, fun name hname => ?_⟩
    rw [hwaiting, if_neg (Ne.symm hname)]
  · refine ⟨⟨fun ⟨name, hname⟩ => absurd (hwaiting name) hname, fun ⟨g, hg⟩ => absurd hg (hack g)⟩,
      fun g hg => absurd hg (hack g), fun _ => hwaiting, hclosed, hstatus⟩

theorem delivers_queued {job : Job} (hjob : Webhook.parseJob (announcement .queued) = .ok job) :
    Delivers (.defaultOnly {}) (announcing .queued []) job where
  length := by cbv
  signed secret h := by cases h
  method := rfl
  path := by cbv
  declared := by cbv
  event := by cbv
  parsed := hjob

/-- A job without labels is acknowledged by a queue that has room. -/
theorem acknowledges_queued :
    Acknowledges ((Service.defaultOnly {}).handle Queue.backend (announcing .queued []) ⟨1, false, []⟩).response
      ⟨"a", by decide⟩ := by
  obtain ⟨job, hjob, hstatus, hlabels⟩ := parseJob_announcement .queued
  rw [acknowledges_passesOn (Service.handle_delivers (delivers_queued hjob) Queue.backend _)]
  have hresolve : (Service.defaultOnly {}).table.resolve job.labels.toList = .ok ⟨"a", by decide⟩ := by
    rw [hlabels, Routing.Table.resolve]
    exact if_pos (by cbv)
  have hroom : (Queue.add ⟨1, false, []⟩ job ⟨"a", by decide⟩).result = .ok () := rfl
  rcases forward_cases (Service.defaultOnly {}).table Queue.backend job ⟨1, false, []⟩ with
    ⟨hr, -⟩ | ⟨_, -, hr, -⟩ | ⟨f, -, hr, -, hresult, -⟩ | ⟨f, e, -, hr, ha, -⟩
  · rw [hstatus] at hr
    exact absurd hr (by decide)
  · rw [hresolve] at hr
    cases hr
  · obtain rfl := Except.ok.inj (hresolve.symm.trans hr)
    exact hresult
  · obtain rfl := Except.ok.inj (hresolve.symm.trans hr)
    cases hroom.symm.trans ha

theorem acknowledges_iff_enqueued_default : ∃ name,
    ((Service.defaultOnly {}).handle Queue.backend (announcing .queued []) ⟨1, false, []⟩).state.waiting name
      ≠ [] :=
  (acknowledges_iff_enqueued (.defaultOnly {}) ⟨1, false, []⟩ (announcing .queued [])).1.2
    ⟨_, acknowledges_queued⟩

/-! ## Reading an answer -/

section

open Json (Value Document Blanks FlatIn)

/-- **Who reads an answer gets the outcome.** The answer to a delivery whose job came to an outcome is 200, and its
body is read as that outcome. So is every record of the members of the body in any order, with any others among them
whose values have no parts and that have other names, however it is written. And every record that an outcome is
read from says it: its flavor has a well-formed name, and the body of the outcome is read as the same. -/
theorem answer_read_back :
    (∀ (service : Service) (r : Request) (job : Job), Delivers service r job →
      ∀ (σ ε : Type) (backend : Backend σ ε) (state : σ) (o : Outcome),
        (forward service.table backend job state).result = .ok o →
          let response := (service.handle backend r state).response
          response.status = 200 ∧ response.body = o.body ∧ Outcome.decode (Bytes.ofString response.body) = .ok o) ∧
    (∀ o : Outcome, Bytes.ofString o.body = (Value.record o.ownMembers).bytes ∧
      ∀ (extra members : List (String × Value)) (text : Bytes), members.Perm (o.ownMembers ++ extra) →
        (∀ m ∈ extra, ∀ m' ∈ o.ownMembers, m.1 ≠ m'.1) → FlatIn members text → Outcome.decode text = .ok o) ∧
    ∀ (text rest : Bytes) (o : Outcome), Blanks text (Text.Ascii.openBrace :: rest) → Outcome.decode text = .ok o →
      (∃ members, (Document.object members).WrittenIn text ∧ o.SaidBy members) ∧
      (∀ f, o = .forwarded f → Flavor.IsWellFormed f.name) ∧ Outcome.decode (Bytes.ofString o.body) = .ok o := by
  refine ⟨fun service r job hdelivers σ ε backend state o ho => ?_, fun o => ⟨o.body_eq, ?_⟩, ?_⟩
  · obtain ⟨hstatus, hbody⟩ := (Service.handle_delivers hdelivers backend state).accepted o ho
    refine ⟨hstatus, hbody, ?_⟩
    rw [hbody]
    exact o.decode_body
  · intro extra members text hperm hextra hflat
    exact Outcome.decode_of_perm hperm hextra hflat
  · intro text rest o hopen ho
    obtain ⟨members, tag, hwritten, htag, hmeans⟩ := Outcome.exists_members_of_decode hopen ho
    refine ⟨⟨_, hwritten, Outcome.saidBy_of_ofTagged htag hmeans⟩, ?_, o.decode_body⟩
    rintro f rfl
    exact f.isWellFormed

/-- The members of an answer in another order, with a number, a truth value and nothing at all among them. -/
def reordered : List (String × Value) :=
  [("run", .integer (-7)), ("flavor", .text "a"), ("note", .null), ("status", .text "forwarded"), ("ok", .bool true)]

/-- They are read as the outcome, and so is the answer to the delivery of a queued job. -/
theorem answer_read_back_reordered :
    let o : Outcome := .forwarded ⟨"a", by decide⟩
    Outcome.decode (Value.record reordered).bytes = .ok o ∧
      (∃ members, (Document.object members).WrittenIn (Value.record reordered).bytes ∧ o.SaidBy members) ∧
      Outcome.decode (Bytes.ofString ((Service.defaultOnly {}).handle Queue.backend (announcing .queued [])
        ⟨1, false, []⟩).response.body) = .ok o := by
  intro o
  obtain ⟨hanswer, horder, hrecord⟩ := answer_read_back
  have hmiddle : ([("run", Value.integer (-7)), ("flavor", .text "a"), ("note", .null)] ++
      ("status", Value.text "forwarded") :: [("ok", Value.bool true)]).Perm _ := List.perm_middle
  have hperm : reordered.Perm (o.ownMembers ++ [("run", .integer (-7)), ("note", .null), ("ok", .bool true)]) :=
    hmiddle.trans (.cons _ (.swap _ _ _))
  have hopen : ∃ rest, Blanks (Value.record reordered).bytes (Text.Ascii.openBrace :: rest) := by
    rw [Json.bytes_record]
    exact ⟨_, .none _⟩
  obtain ⟨rest, hopen⟩ := hopen
  have hflat : FlatIn reordered (Value.record reordered).bytes :=
    Json.flatIn_bytes (by simp [reordered, Value.IsScalar])
  have hread := (horder o).2 _ reordered _ hperm (by simp [o, Outcome.ownMembers]) hflat
  obtain ⟨job, hjob, -, -⟩ := parseJob_announcement .queued
  have hdelivers := delivers_queued hjob
  have hresult := (acknowledges_passesOn (Service.handle_delivers hdelivers Queue.backend _) _).1 acknowledges_queued
  exact ⟨hread, (hrecord _ rest o hopen hread).1, (hanswer _ _ job hdelivers _ _ _ _ o hresult).2.2⟩

end

end RunnerDispatch.Http
