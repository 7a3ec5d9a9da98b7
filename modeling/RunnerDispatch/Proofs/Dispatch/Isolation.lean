import RunnerDispatch.Proofs.Dispatch.Ledger
import RunnerDispatch.Proofs.Queue.Clones

/-!
# Flavors share nothing but the flag

The jobs of all flavors pass through one queue. It keeps a line for each, and the flag that closes it is
all that the lines have in common.

* `Queue.Agree`: two queues that look alike to who knows one name.
* `Sharing.step`: one action: a job is dispatched, or something is asked of the queue itself.
* `Sharing.scope`: what an action is about: one line, the flag, or no line at all.
* `Sharing.agree_step_line`, `Sharing.agree_step_other`: an action on a line is answered by what that line
  holds, and **an action on another line leaves no trace in it**.
* `flavors_isolated`: what is done to other flavors may be left out of a run, and actions on different
  flavors may change places.
-/

namespace RunnerDispatch

/-! ## Queues under one name -/

namespace Queue

/-- Queues that look alike under one name. -/
structure Agree (name : String) (q q' : Queue) : Prop where
  capacity : q.capacity = q'.capacity
  closed : q.closed = q'.closed
  waiting : q.waiting name = q'.waiting name

variable {name : String} {q q' q'' : Queue} {job : Job} {flavor : Flavor}

theorem Agree.refl (name : String) (q : Queue) : Agree name q q := ⟨rfl, rfl, rfl⟩

theorem Agree.symm (h : Agree name q q') : Agree name q' q :=
  ⟨h.capacity.symm, h.closed.symm, h.waiting.symm⟩

theorem Agree.trans (h : Agree name q q') (h' : Agree name q' q'') : Agree name q q'' :=
  ⟨h.capacity.trans h'.capacity, h.closed.trans h'.closed, h.waiting.trans h'.waiting⟩

theorem Agree.accepts (h : Agree flavor.name q q') : q.Accepts flavor ↔ q'.Accepts flavor := by
  unfold Accepts pending
  rw [h.closed, h.waiting, h.capacity]

/-- **A job is taken or refused by what its own line holds.** -/
theorem Agree.result_add (h : Agree flavor.name q q') :
    (q.add job flavor).result = (q'.add job flavor).result := by
  unfold add
  rw [h.closed, h.waiting, h.capacity]
  split
  · rfl
  · dsimp only
    split <;> rfl

theorem Agree.add (h : Agree flavor.name q q') :
    Agree flavor.name (q.add job flavor).queue (q'.add job flavor).queue where
  capacity := by rw [capacity_add, capacity_add, h.capacity]
  closed := by rw [closed_add, closed_add, h.closed]
  waiting := by
    rw [waiting_add, waiting_add, h.waiting]
    simp only [h.accepts]

theorem agree_add_other (hne : flavor.name ≠ name) : Agree name (q.add job flavor).queue q where
  capacity := capacity_add
  closed := closed_add
  waiting := by
    rw [waiting_add, if_neg]
    rintro ⟨-, hname⟩
    exact hne hname

theorem Agree.take (h : Agree name q q') : Agree name (q.take name).2 (q'.take name).2 where
  capacity := h.capacity
  closed := h.closed
  waiting := by rw [waiting_take, waiting_take, h.waiting]

theorem agree_take_other {taken : String} (hne : taken ≠ name) : Agree name (q.take taken).2 q where
  capacity := rfl
  closed := rfl
  waiting := by rw [waiting_take, if_neg hne]

/-- **What is taken is what waits in that line.** -/
theorem Agree.takeJob (h : Agree name q q') : (q.takeJob name).1 = (q'.takeJob name).1 := by
  unfold Queue.takeJob Queue.take
  rw [h.waiting]

end Queue

/-! ## Actions on lines -/

namespace Sharing

open Queue (Agree agree_add_other agree_take_other)

/-- What is done to a queue that flavors share. -/
inductive Action
  | forward (job : Job)
  /-- A worker takes the next job under a name. -/
  | takeJob (name : String)
  | ask (op : Queue.Operation)

/-- What comes of it. -/
inductive Answer
  | forwarded (result : Except (DispatchFault QueueFault) Outcome)
  | taken (job : Except QueueFault (Option Job))
  | answer (a : Queue.Answer)

/-- One action. -/
def step (table : Routing.Table) : Machine Queue Action Answer
  | q, .forward job =>
    let d := forward table Queue.backend job q
    (.forwarded d.result, d.state)
  | q, .takeJob name => (.taken (q.takeJob name).1, (q.takeJob name).2)
  | q, .ask op => (.answer (q.perform op).1, (q.perform op).2)

/-- What an action is about. -/
inductive Scope
  /-- The line of a flavor. -/
  | line (name : String)
  /-- The flag that closes all lines. -/
  | flag
  /-- A job that is passed over or rejected is about no line. -/
  | nothing
  deriving DecidableEq

/-- Where a job goes if it is queued and its labels resolve. -/
def destination? (table : Routing.Table) (job : Job) : Option Flavor :=
  if job.status.isRoutable then (table.resolve job.labels.toList).toOption else none

/-- What an action is about. -/
def scope (table : Routing.Table) : Action → Scope
  | .forward job =>
    match destination? table job with
    | some flavor => .line flavor.name
    | none => .nothing
  | .takeJob name => .line name
  | .ask (.add _ flavor) => .line flavor.name
  | .ask (.take name) => .line name
  | .ask (.pending name) => .line name
  | .ask .close => .flag
  | .ask .canConnect => .flag

/-- Whether an action concerns the flavor of a name: it is about its line, or about the flag. -/
def Concerns (table : Routing.Table) (name : String) (action : Action) : Prop :=
  scope table action = .line name ∨ scope table action = .flag

instance (table : Routing.Table) (name : String) : DecidablePred (Concerns table name) := fun _ =>
  inferInstanceAs (Decidable (_ ∨ _))

variable {table : Routing.Table} {job : Job} {flavor : Flavor} {name : String} {q q' : Queue}

theorem destination?_eq_some_iff : destination? table job = some flavor ↔
    job.status.isRoutable = true ∧ table.resolve job.labels.toList = .ok flavor := by
  unfold destination?
  by_cases hs : job.status.isRoutable = true
  · rw [if_pos hs]
    cases table.resolve job.labels.toList <;> simp [hs, Except.toOption]
  · rw [if_neg hs]
    exact ⟨(nomatch ·), fun h => absurd h.1 hs⟩

/-- A job with a destination is added there, and the answer says whether it was. -/
theorem forward_destination (h : destination? table job = some flavor) (q : Queue) :
    let d := forward table Queue.backend job q
    d.state = (q.add job flavor).queue ∧
      d.result = ((q.add job flavor).result.map fun _ => Outcome.forwarded flavor).mapError .queue := by
  intro d
  obtain ⟨hs, hr⟩ := destination?_eq_some_iff.1 h
  rcases forward_cases table Queue.backend job q with
    ⟨hs', -⟩ | ⟨e, -, hr', -⟩ | ⟨f, -, hr', ha, hd, hstate, -⟩ | ⟨f, e, -, hr', ha, hd, hstate, -⟩
  · rw [hs] at hs'
    exact absurd hs' (by decide)
  · rw [hr] at hr'
    exact (nomatch hr')
  · obtain rfl : flavor = f := Except.ok.inj (hr.symm.trans hr')
    have ha' : (q.add job flavor).result = .ok () := ha
    refine ⟨hstate, ?_⟩
    rw [ha']
    exact hd
  · obtain rfl : flavor = f := Except.ok.inj (hr.symm.trans hr')
    have ha' : (q.add job flavor).result = .error e := ha
    refine ⟨hstate, ?_⟩
    rw [ha']
    exact hd

/-- A job without a destination changes nothing. -/
theorem forward_nowhere (h : destination? table job = none) (q : Queue) :
    (forward table Queue.backend job q).state = q := by
  rcases forward_cases table Queue.backend job q with
    ⟨-, -, hstate, -⟩ | ⟨e, -, -, -, hstate, -⟩ | ⟨f, hs, hr, -⟩ | ⟨f, e, hs, hr, -⟩
  · exact hstate
  · exact hstate
  · have := destination?_eq_some_iff.2 ⟨hs, hr⟩
    rw [h] at this
    exact (nomatch this)
  · have := destination?_eq_some_iff.2 ⟨hs, hr⟩
    rw [h] at this
    exact (nomatch this)

theorem scope_forward_line (h : scope table (.forward job) = .line name) :
    ∃ flavor, destination? table job = some flavor ∧ flavor.name = name := by
  simp only [scope] at h
  split at h
  · rename_i flavor hd
    exact ⟨flavor, hd, Scope.line.inj h⟩
  · exact (nomatch h)

/-- **An action on a line is answered by what that line holds**, and by the flag and the capacity. -/
theorem agree_step_line (h : Agree name q q') {action : Action} (hs : scope table action = .line name) :
    (step table q action).1 = (step table q' action).1 ∧
      Agree name (step table q action).2 (step table q' action).2 := by
  cases action with
  | forward job =>
    obtain ⟨flavor, hd, rfl⟩ := scope_forward_line hs
    obtain ⟨hstate, hresult⟩ := forward_destination hd q
    obtain ⟨hstate', hresult'⟩ := forward_destination hd q'
    simp only [step]
    rw [hstate, hstate', hresult, hresult', h.result_add]
    exact ⟨rfl, h.add⟩
  | takeJob taken =>
    obtain rfl : taken = name := Scope.line.inj hs
    exact ⟨congrArg Answer.taken h.takeJob, h.take⟩
  | ask op =>
    cases op with
    | add job flavor =>
      obtain rfl : flavor.name = name := Scope.line.inj hs
      exact ⟨congrArg (fun r => Answer.answer (.added r)) h.result_add, h.add⟩
    | take taken =>
      obtain rfl : taken = name := Scope.line.inj hs
      exact ⟨congrArg (fun line => Answer.answer (.taken (List.head? line))) h.waiting, h.take⟩
    | pending asked =>
      obtain rfl : asked = name := Scope.line.inj hs
      exact ⟨congrArg (fun line => Answer.answer (.pending (List.length line))) h.waiting, h⟩
    | close | canConnect => exact (nomatch hs)

/-- The flag is the same for all lines. -/
theorem agree_step_flag (h : Agree name q q') {action : Action} (hs : scope table action = .flag) :
    (step table q action).1 = (step table q' action).1 ∧
      Agree name (step table q action).2 (step table q' action).2 := by
  cases action with
  | forward job =>
    simp only [scope] at hs
    split at hs <;> exact (nomatch hs)
  | takeJob taken => exact (nomatch hs)
  | ask op =>
    cases op with
    | close => exact ⟨rfl, h.capacity, rfl, h.waiting⟩
    | canConnect => exact ⟨congrArg (fun closed => Answer.answer (.canConnect !closed)) h.closed, h⟩
    | add | take | pending => exact (nomatch hs)

/-- **An action on another line, or on none, leaves no trace in this one.** -/
theorem agree_step_other {action : Action} (hc : ¬ Concerns table name action) (q : Queue) :
    Agree name (step table q action).2 q := by
  cases action with
  | forward job =>
    simp only [step]
    cases hd : destination? table job with
    | none =>
      rw [forward_nowhere hd]
      exact Agree.refl name q
    | some flavor =>
      rw [(forward_destination hd q).1]
      apply agree_add_other
      rintro rfl
      apply hc
      left
      simp only [scope, hd]
  | takeJob taken => exact agree_take_other fun hname => hc (.inl (congrArg Scope.line hname))
  | ask op =>
    cases op with
    | add job flavor => exact agree_add_other fun hname => hc (.inl (congrArg Scope.line hname))
    | take taken => exact agree_take_other fun hname => hc (.inl (congrArg Scope.line hname))
    | pending asked => exact Agree.refl name q
    | close | canConnect => exact absurd (.inr rfl) hc

theorem agree_step (h : Agree name q q') {action : Action} (hc : Concerns table name action) :
    (step table q action).1 = (step table q' action).1 ∧
      Agree name (step table q action).2 (step table q' action).2 := by
  rcases hc with hs | hs
  · exact agree_step_line h hs
  · exact agree_step_flag h hs

/-- What is about one line does not concern another. -/
theorem not_concerns_of_line {action : Action} {line : String} (hs : scope table action = .line line)
    (hne : line ≠ name) : ¬ Concerns table name action := by
  rintro (h | h)
  · exact hne (Scope.line.inj (hs.symm.trans h))
  · exact (nomatch hs.symm.trans h)

/-- **Actions on different lines may change places**: both are answered alike, and afterwards the queues look
alike under every name. -/
theorem step_comm {a b : Action} {x y : String} (ha : scope table a = .line x) (hb : scope table b = .line y)
    (hxy : x ≠ y) (q : Queue) :
    (step table (step table q a).2 b).1 = (step table q b).1 ∧
      (step table (step table q b).2 a).1 = (step table q a).1 ∧
      ∀ name, Agree name (step table (step table q a).2 b).2 (step table (step table q b).2 a).2 := by
  have hafterA : Agree y (step table q a).2 q := agree_step_other (not_concerns_of_line ha hxy) q
  have hafterB : Agree x (step table q b).2 q := agree_step_other (not_concerns_of_line hb hxy.symm) q
  refine ⟨(agree_step_line hafterA hb).1, (agree_step_line hafterB ha).1, fun name => ?_⟩
  by_cases hx : x = name
  · -- under this name only the first action shows, whichever comes first
    subst hx
    have hlast : Agree x (step table (step table q a).2 b).2 (step table q a).2 :=
      agree_step_other (not_concerns_of_line hb hxy.symm) _
    exact hlast.trans (agree_step_line hafterB ha).2.symm
  by_cases hy : y = name
  · subst hy
    have hlast : Agree y (step table (step table q b).2 a).2 (step table q b).2 :=
      agree_step_other (not_concerns_of_line ha hxy) _
    exact (agree_step_line hafterA hb).2.trans hlast.symm
  · have hna : ¬ Concerns table name a := not_concerns_of_line ha hx
    have hnb : ¬ Concerns table name b := not_concerns_of_line hb hy
    have hab := (agree_step_other hnb (step table q a).2).trans (agree_step_other hna q)
    have hba := (agree_step_other hna (step table q b).2).trans (agree_step_other hnb q)
    exact hab.trans hba.symm

/-- **Flavors do not notice each other.** From any queue, whatever its capacity and whatever it holds: when
all that does not concern a flavor is left out of a run, everything else is answered as before, and the same
messages wait for the flavor in the end. What concerns it are the actions on its own line and those on the
flag. So neither a full line nor one that nobody empties has an effect on another. And two actions on different
lines may change places, whatever was done before. -/
theorem flavors_isolated (table : Routing.Table) (q : Queue) (actions : List Action) :
    (∀ name, let kept := actions.filter (Concerns table name)
      (Machine.trace (step table) q actions).filter (fun p => Concerns table name p.1) =
          Machine.trace (step table) q kept ∧
        (Machine.after (step table) q actions).waiting name =
          (Machine.after (step table) q kept).waiting name) ∧
    ∀ a b x y, scope table a = .line x → scope table b = .line y → x ≠ y →
      let now := Machine.after (step table) q actions
      (step table (step table now a).2 b).1 = (step table now b).1 ∧
        (step table (step table now b).2 a).1 = (step table now a).1 ∧
        ∀ name, Agree name (step table (step table now a).2 b).2 (step table (step table now b).2 a).2 := by
  refine ⟨fun name => ?_, fun a b x y ha hb hxy => step_comm ha hb hxy _⟩
  intro kept
  obtain ⟨htrace, hafter⟩ := Machine.trace_filter_of_unwinding (m := step table) (R := Agree name)
    (fun _ _ _ hc h => agree_step h hc) (fun s _ hc => agree_step_other hc s) Agree.trans (Agree.refl name q) actions
  exact ⟨htrace, hafter.waiting⟩

/-- While a second flavor's line is full and refuses a job, the default flavor takes one. -/
theorem flavors_isolated_fullLine :
    let other : Flavor := ⟨"other", by decide⟩
    let add (number : String) : Action := .ask (.add (Dispatching.plainRun number) other)
    let forward : Action := .forward (Dispatching.plainRun "3")
    let now := Machine.after (step Routing.loneTable) { capacity := 1 } [add "1"]
    (step Routing.loneTable now (add "2")).1 = .answer (.added (.error (.full other 1))) ∧
      (Machine.trace (step Routing.loneTable) { capacity := 1 } [add "1", add "2", forward]).filter
          (fun p => Concerns Routing.loneTable "lone" p.1) =
        [(forward, .forwarded (.ok (.forwarded Routing.loneTable.default)))] ∧
      (step Routing.loneTable (step Routing.loneTable now (add "2")).2 forward).1 =
        (step Routing.loneTable now forward).1 := by
  intro other add forward now
  have hadd : scope Routing.loneTable (add "2") = .line "other" := rfl
  have hforward : scope Routing.loneTable forward = .line "lone" := by cbv
  have hkept : [add "1", add "2", forward].filter (Concerns Routing.loneTable "lone") = [forward] := by cbv
  have hresult : Machine.trace (step Routing.loneTable) { capacity := 1 } [forward] =
      [(forward, .forwarded (.ok (.forwarded Routing.loneTable.default)))] := by
    cbv
  obtain ⟨hisolated, -⟩ := flavors_isolated Routing.loneTable { capacity := 1 } [add "1", add "2", forward]
  obtain ⟨-, hcomm⟩ := flavors_isolated Routing.loneTable { capacity := 1 } [add "1"]
  refine ⟨rfl, ?_, ?_⟩
  · have hfiltered := (hisolated "lone").1
    rw [hkept] at hfiltered
    exact hfiltered.trans hresult
  · exact (hcomm (add "2") forward "other" "lone" hadd hforward (by decide)).1

end Sharing

end RunnerDispatch
