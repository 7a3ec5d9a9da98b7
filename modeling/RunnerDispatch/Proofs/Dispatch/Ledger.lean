import RunnerDispatch.Proofs.Dispatch
import RunnerDispatch.Proofs.Job.Message
import RunnerDispatch.Proofs.Routing.Compilation
import RunnerDispatch.Proofs.Run

/-!
# A ledger of jobs

Jobs are dispatched into a queue that nobody else fills, workers take them out by the name of a flavor, and
somebody may close the queue. A ledger lists under each name the jobs that were sent there and not yet
handed out.

* `Dispatching.step`: one action.
* `Dispatching.Keeps`: the queue holds what the ledger lists, and **every job is listed where its labels
  resolve to**.
* `Dispatching.Keeps.step`, `Dispatching.Keeps.run`: every action keeps some ledger, and no action loses,
  adds or moves a job.
* `Dispatching.messages_in_place`: every message waits in the right line and can be read, and **what was
  handed out under a name and what waits there is what was sent there**, in that order.
-/

namespace RunnerDispatch

/-- Messages of jobs that can be read back are handed out as their jobs. -/
theorem Queue.takeJob_messages {q : Queue} {name : String} {jobs : List Job}
    (hwaiting : q.waiting name = jobs.map Job.message) (hurl : ∀ job ∈ jobs, job.url.Stable) :
    (q.takeJob name).1 = .ok jobs.head? := by
  cases jobs with
  | nil => simp only [takeJob, take, hwaiting, List.map_nil, List.head?_nil]
  | cons job jobs =>
    have hdecode := Job.decode_message (hurl job List.mem_cons_self)
    simp only [takeJob, take, hwaiting, List.map_cons, List.head?_cons, hdecode]

namespace Dispatching

/-- What is done to the queue. -/
inductive Action
  | forward (job : Job)
  /-- A worker takes the next job under a name. -/
  | take (name : String)
  | close

/-- What comes of it. -/
inductive Answer
  | forwarded (result : Except (DispatchFault QueueFault) Outcome)
  | taken (job : Except QueueFault (Option Job))
  | closed

/-- One action. -/
def step (table : Routing.Table) : Machine Queue Action Answer
  | q, .forward job =>
    let d := forward table Queue.backend job q
    (.forwarded d.result, d.state)
  | q, .take name => (.taken (q.takeJob name).1, (q.takeJob name).2)
  | q, .close => (.closed, q.close)

/-- The jobs that were forwarded to the flavor of a name, going by the answers, in that order. -/
def sent (name : String) : List (Action × Answer) → List Job :=
  List.filterMap fun
    | (.forward job, .forwarded (.ok (.forwarded flavor))) => if flavor.name = name then some job else none
    | _ => none

/-- The jobs that were handed out under a name, in that order. -/
def handedOut (name : String) : List (Action × Answer) → List Job :=
  List.filterMap fun
    | (.take n, .taken (.ok job)) => if n = name then job else none
    | _ => none

theorem sent_append (name : String) (r r' : List (Action × Answer)) :
    sent name (r ++ r') = sent name r ++ sent name r' := List.filterMap_append

theorem handedOut_append (name : String) (r r' : List (Action × Answer)) :
    handedOut name (r ++ r') = handedOut name r ++ handedOut name r' := List.filterMap_append

/-- What a table makes of a job that belongs under a name. -/
structure Belongs (table : Routing.Table) (name : String) (job : Job) : Prop where
  queued : job.status = .queued
  resolves : ∃ flavor, table.resolve job.labels.toList = .ok flavor ∧ flavor.name = name
  readable : job.url.Stable

/-- **The queue holds the messages of the jobs that a ledger lists**, each where it belongs. -/
structure Keeps (table : Routing.Table) (q : Queue) (ledger : String → List Job) : Prop where
  waiting : ∀ name, q.waiting name = (ledger name).map Job.message
  belongs : ∀ name, ∀ job ∈ ledger name, Belongs table name job

variable {table : Routing.Table} {q : Queue} {ledger : String → List Job}

theorem keeps_empty (table : Routing.Table) (capacity : Nat) : Keeps table { capacity } fun _ => [] where
  waiting _ := rfl
  belongs _ _ h := (nomatch h)

theorem Keeps.takeJob (h : Keeps table q ledger) (name : String) :
    (q.takeJob name).1 = .ok (ledger name).head? :=
  Queue.takeJob_messages (h.waiting name) fun job hjob => (h.belongs name job hjob).readable

/-- When the first message under a name is dropped, so is the first job in the ledger. -/
theorem Keeps.drop (h : Keeps table q ledger) {q' : Queue} {taken : String}
    (hwaiting : ∀ name, q'.waiting name = if taken = name then (q.waiting name).tail else q.waiting name) :
    Keeps table q' fun name => if taken = name then (ledger name).tail else ledger name where
  waiting name := by
    rw [hwaiting name, h.waiting name]
    split
    · exact List.map_tail.symm
    · rfl
  belongs name job hjob := by
    refine h.belongs name job ?_
    split at hjob
    · exact List.mem_of_mem_tail hjob
    · exact hjob

/-- When the message of a job is put last where the job belongs, the job is put last in the ledger. -/
theorem Keeps.put (h : Keeps table q ledger) {q' : Queue} {place : String} {job : Job}
    (hwaiting : ∀ name, q'.waiting name =
      if place = name then q.waiting name ++ [job.message] else q.waiting name)
    (hjob : Belongs table place job) :
    Keeps table q' fun name => if place = name then ledger name ++ [job] else ledger name where
  waiting name := by
    rw [hwaiting name, h.waiting name]
    split
    · rw [List.map_append]
      rfl
    · rfl
  belongs name other hother := by
    split at hother
    · rename_i hname
      rcases List.mem_append.1 hother with hold | hnew
      · exact h.belongs name other hold
      · rw [List.mem_singleton.1 hnew, ← hname]
        exact hjob
    · exact h.belongs name other hother

/-- A job that is forwarded belongs to the flavor that takes it. -/
theorem belongs_forwarded {job : Job} {flavor : Flavor} (hurl : job.url.Stable)
    (h : (forward table Queue.backend job q).result = .ok (.forwarded flavor)) :
    Belongs table flavor.name job := by
  rcases forward_cases table Queue.backend job q with
    ⟨-, hr, -⟩ | ⟨e, -, -, hr, -⟩ | ⟨f, hs, hf, -, hr, -⟩ | ⟨f, e, -, -, -, hr, -⟩
  · exact (nomatch hr.symm.trans h)
  · exact (nomatch hr.symm.trans h)
  · obtain rfl : f = flavor := Outcome.forwarded.inj (Except.ok.inj (hr.symm.trans h))
    exact ⟨beq_iff_eq.1 hs, ⟨f, hf, rfl⟩, hurl⟩
  · exact (nomatch hr.symm.trans h)

/-- What is not said to be forwarded is not sent anywhere. -/
theorem sent_not_forwarded {result : Except (DispatchFault QueueFault) Outcome}
    (h : ∀ flavor, result ≠ .ok (.forwarded flavor)) (job : Job) (name : String) :
    sent name [(.forward job, .forwarded result)] = [] := by
  cases result with
  | error e => rfl
  | ok outcome =>
    cases outcome with
    | forwarded flavor => exact absurd rfl (h flavor)
    | skipped status => rfl

/-- **No action loses, adds or moves a job.** -/
theorem Keeps.step (h : Keeps table q ledger) (action : Action)
    (hurl : ∀ job, action = .forward job → job.url.Stable) :
    ∃ ledger', Keeps table (Dispatching.step table q action).2 ledger' ∧ ∀ name,
      ledger name ++ sent name [(action, (Dispatching.step table q action).1)] =
        handedOut name [(action, (Dispatching.step table q action).1)] ++ ledger' name := by
  cases action with
  | close => exact ⟨ledger, ⟨h.waiting, h.belongs⟩, fun name => List.append_nil _⟩
  | take taken =>
    refine ⟨_, h.drop (Queue.waiting_take q taken), fun name => ?_⟩
    simp only [Dispatching.step, h.takeJob]
    by_cases hn : taken = name
    · subst hn
      cases ledger taken <;> simp [sent, handedOut]
    · simp [sent, handedOut, hn]
  | forward job =>
    simp only [Dispatching.step]
    rcases waiting_forward table job q with ⟨flavor, hr, hwaiting⟩ | ⟨hr, hwaiting⟩
    · refine ⟨_, h.put hwaiting (belongs_forwarded (hurl job rfl) hr), fun name => ?_⟩
      rw [hr]
      by_cases hn : flavor.name = name <;> simp [sent, handedOut, hn]
    · refine ⟨ledger, ⟨fun name => (hwaiting name).trans (h.waiting name), h.belongs⟩, fun name => ?_⟩
      rw [sent_not_forwarded hr, List.append_nil]
      rfl

/-- **No run loses, adds or moves a job.** -/
theorem Keeps.run (h : Keeps table q ledger) (actions : List Action)
    (hurl : ∀ job, .forward job ∈ actions → job.url.Stable) :
    ∃ ledger', Keeps table (Machine.after (Dispatching.step table) q actions) ledger' ∧ ∀ name,
      ledger name ++ sent name (Machine.trace (Dispatching.step table) q actions) =
        handedOut name (Machine.trace (Dispatching.step table) q actions) ++ ledger' name := by
  induction actions generalizing q ledger with
  | nil => exact ⟨ledger, h, fun name => List.append_nil _⟩
  | cons action actions ih =>
    obtain ⟨between, hbetween, hstep⟩ := h.step action fun job hjob =>
      hurl job (hjob ▸ List.mem_cons_self)
    obtain ⟨last, hlast, hrun⟩ := ih hbetween fun job hjob => hurl job (List.mem_cons_of_mem action hjob)
    refine ⟨last, hlast, fun name => ?_⟩
    -- what one step leaves in the ledger is what the rest of the run begins with
    rw [Machine.trace, ← List.singleton_append, sent_append, handedOut_append, ← List.append_assoc,
      hstep name, List.append_assoc, hrun name, List.append_assoc]

/-- **Every message waits where it belongs and can be read.** Whatever is dispatched, taken and closed, in
whatever order and with whatever capacity: each message under a name holds a queued job whose labels resolve
to the flavor of that name, which is declared. So taking a job never fails, under a name that is not declared
there is none, and the jobs handed out under a name followed by those that wait there are those that were
forwarded to it, in the order in which they were. -/
theorem messages_in_place {r : Routing.Rules} (hr : r.compile.result = .ok table) (capacity : Nat)
    (actions : List Action) (hurl : ∀ job, .forward job ∈ actions → job.url.Stable) :
    let history := Machine.trace (step table) { capacity } actions
    let now := Machine.after (step table) { capacity } actions
    (∀ name, ∀ message ∈ now.waiting name, ∃ job flavor, Job.decode (Bytes.ofString message) = .ok job ∧
      job.status = .queued ∧ table.resolve job.labels.toList = .ok flavor ∧ flavor.name = name ∧
      name ∈ r.declarations.map Routing.Declaration.name) ∧
    (∀ name, ∃ next, (now.takeJob name).1 = .ok next ∧
      (name ∉ r.declarations.map Routing.Declaration.name → next = none)) ∧
    ∀ name, ∃ jobs, (now.waiting name).map (fun message => Job.decode (Bytes.ofString message)) =
      jobs.map .ok ∧ handedOut name history ++ jobs = sent name history := by
  intro history now
  obtain ⟨ledger, hkeeps, hledger⟩ := (keeps_empty table capacity).run actions hurl
  have hdeclared (name : String) (job : Job) (hjob : job ∈ ledger name) :
      name ∈ r.declarations.map Routing.Declaration.name := by
    obtain ⟨flavor, hflavor, rfl⟩ := (hkeeps.belongs name job hjob).resolves
    exact Routing.name_mem_of_resolve hr hflavor
  refine ⟨fun name message hmessage => ?_, fun name => ?_,
    fun name => ⟨ledger name, ?_, (hledger name).symm⟩⟩
  · rw [hkeeps.waiting name] at hmessage
    obtain ⟨job, hjob, rfl⟩ := List.mem_map.1 hmessage
    obtain ⟨hqueued, ⟨flavor, hflavor, hname⟩, hreadable⟩ := hkeeps.belongs name job hjob
    exact ⟨job, flavor, Job.decode_message hreadable, hqueued, hflavor, hname, hdeclared name job hjob⟩
  · refine ⟨_, hkeeps.takeJob name, fun hname => ?_⟩
    rw [List.head?_eq_none_iff, List.eq_nil_iff_forall_not_mem]
    exact fun job hjob => hname (hdeclared name job hjob)
  · rw [hkeeps.waiting name, List.map_map]
    exact List.map_congr_left fun job hjob => Job.decode_message (hkeeps.belongs name job hjob).readable

/-- A queued job without labels, of a run of that number. -/
def plainRun (number : String) : Job := Job.ofLabels [] .queued ⟨"run", none, .opaquely number, none, none⟩

/-- Of three jobs the third finds no room, and when one was taken the second still waits. -/
theorem messages_in_place_loneFlavor :
    let actions := [.forward (plainRun "1"), .forward (plainRun "2"), .forward (plainRun "3"), .take "lone"]
    let now := Machine.after (step Routing.loneTable) { capacity := 2 } actions
    (now.waiting "lone").map (fun message => Job.decode (Bytes.ofString message)) = [.ok (plainRun "2")] := by
  intro actions now
  have hurl (job : Job) (hjob : .forward job ∈ actions) : job.url.Stable := by
    simp only [actions, List.mem_cons, Action.forward.injEq, reduceCtorEq, List.not_mem_nil, or_false] at hjob
    rcases hjob with rfl | rfl | rfl <;> (show Url.parse _ = _; cbv)
  obtain ⟨jobs, hjobs, hledger⟩ := (messages_in_place Routing.compile_loneFlavor 2 actions hurl).2.2 "lone"
  have hhanded : handedOut "lone" (Machine.trace (step Routing.loneTable) { capacity := 2 } actions) =
      [plainRun "1"] := by
    cbv
  have hsent : sent "lone" (Machine.trace (step Routing.loneTable) { capacity := 2 } actions) =
      [plainRun "1", plainRun "2"] := by
    cbv
  rw [hhanded, hsent, List.singleton_append, List.cons.injEq] at hledger
  rw [hjobs, hledger.2]
  rfl

end Dispatching

end RunnerDispatch
