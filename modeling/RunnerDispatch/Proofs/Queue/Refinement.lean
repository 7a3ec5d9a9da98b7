import RunnerDispatch.Proofs.Queue.Clones

/-!
# Queues refine bounded lists

Seen from outside a queue is one flag and a list of messages for each flavor, none longer than the
capacity. `Lines` is that machine, without lines that come and go and without handles that point anywhere.

* `Clones.Shows`: what the two machines have in common. All handles are one.
* `Clones.trace_eq`: **every call through any handle is answered as the abstract machine answers it.**
* `clones_refine_lines`: what follows for every run: no line grows beyond the capacity, **what was taken
  and what still waits is what was accepted, in that order**, a refused job leaves no trace, and a closed
  queue accepts nothing but gives out what it holds.
-/

namespace RunnerDispatch.Queue

/-- The abstract machine: a flag, a list for each name, and a number of handles. -/
structure Lines where
  closed : Bool := false
  line : String → List String := fun _ => []
  handles : Nat := 1

namespace Lines

/-- Another list under one name. -/
def put (s : Lines) (name : String) (line : List String) : Lines :=
  { s with line := fun n => if n = name then line else s.line n }

/-- One operation, when a line holds at most so many messages. -/
def ask (capacity : Nat) : Machine Lines Operation Answer
  | s, .add job flavor =>
    let line := s.line flavor.name
    if s.closed then (.added (.error .closed), s)
    else if capacity ≤ line.length then (.added (.error (.full flavor capacity)), s)
    else (.added (.ok ()), s.put flavor.name (line ++ [job.message]))
  | s, .take name => (.taken (s.line name).head?, s.put name (s.line name).tail)
  | s, .pending name => (.pending (s.line name).length, s)
  | s, .close => (.closed, { s with closed := true })
  | s, .canConnect => (.canConnect (!s.closed), s)

/-- One call. -/
def step (capacity : Nat) : Machine Lines Call Reply
  | s, .clone i =>
    if i < s.handles then (.cloned s.handles, { s with handles := s.handles + 1 })
    else (.noHandle, s)
  | s, .ask i op =>
    if i < s.handles then
      let (answer, s) := s.ask capacity op
      (.answer answer, s)
    else (.noHandle, s)

@[simp] theorem handles_ask (capacity : Nat) (s : Lines) (op : Operation) :
    (s.ask capacity op).2.handles = s.handles := by
  cases op with
  | add job flavor =>
    rw [ask]
    split
    · rfl
    · split <;> rfl
  | take | pending | close | canConnect => rfl

end Lines

/-! ## The simulation -/

/-- A queue of the given capacity that looks like the abstract machine. -/
structure Looks (capacity : Nat) (q : Queue) (s : Lines) : Prop where
  capacity : q.capacity = capacity
  closed : q.closed = s.closed
  waiting : ∀ name, q.waiting name = s.line name

/-- **Every operation is answered alike**, and the queues look alike afterwards. -/
theorem Looks.perform {capacity : Nat} {q : Queue} {s : Lines} (h : Looks capacity q s)
    (op : Operation) : (q.perform op).1 = (s.ask capacity op).1 ∧
      Looks capacity (q.perform op).2 (s.ask capacity op).2 := by
  cases op with
  | add job flavor =>
    have hlength : (s.line flavor.name).length = q.pending flavor.name := by
      rw [← h.waiting flavor.name]
      rfl
    simp only [Queue.perform, Lines.ask]
    -- both machines now branch on the same flag and the same length
    rw [hlength, ← h.closed, ← h.waiting flavor.name, ← h.capacity]
    rcases add_cases q job flavor with ⟨hc, hr, hq⟩ | ⟨hc, hf, hr, hq⟩ | ⟨⟨hc, hf⟩, hr, hq⟩
    · rw [if_pos hc, hr, hq]
      exact ⟨rfl, rfl, h.closed, h.waiting⟩
    · rw [if_neg (by rw [hc]; decide), if_pos hf, hr, hq]
      refine ⟨rfl, rfl, h.closed, fun name => ?_⟩
      rw [waiting_withLine]
      split
      · rename_i hn
        rw [hn, h.waiting name]
      · exact h.waiting name
    · rw [if_neg (by rw [hc]; decide), if_neg (Nat.not_le_of_lt hf), hr, hq]
      refine ⟨rfl, rfl, h.closed, fun name => ?_⟩
      rw [waiting_withLine]
      simp only [Lines.put, eq_comm (a := name), h.waiting name]
  | take taken =>
    refine ⟨congrArg (fun line => Answer.taken (List.head? line)) (h.waiting taken), h.capacity, h.closed,
      fun name => ?_⟩
    simp only [Queue.perform, Lines.ask, Lines.put]
    rw [waiting_take, ← h.waiting name, ← h.waiting taken]
    by_cases hn : taken = name
    · rw [if_pos hn, if_pos hn.symm, hn]
    · rw [if_neg hn, if_neg fun h => hn h.symm]
  | pending name =>
    exact ⟨congrArg (fun line => Answer.pending (List.length line)) (h.waiting name), h⟩
  | close => exact ⟨rfl, h.capacity, rfl, h.waiting⟩
  | canConnect => exact ⟨congrArg (fun closed => Answer.canConnect !closed) h.closed, h⟩

/-- **The handles are copies of one handle**, behind which the queue looks like the abstract machine. -/
def Clones.Shows (capacity : Nat) (s : Clones) (t : Lines) : Prop :=
  ∃ h, s.handles = List.replicate t.handles h ∧ Looks capacity (s.memory.load h) t

namespace Clones

variable {capacity : Nat} {s : Clones} {t : Lines}

theorem shows_start (capacity : Nat) : (start capacity).Shows capacity {} :=
  ⟨⟨0, 0, capacity⟩, rfl, rfl, rfl, fun _ => rfl⟩

/-- One call keeps the machines alike. -/
theorem Shows.step (hs : s.Shows capacity t) (call : Call) :
    (s.step call).1 = (t.step capacity call).1 ∧
      (s.step call).2.Shows capacity (t.step capacity call).2 := by
  obtain ⟨h, hhandles, hlooks⟩ := hs
  have hget : ∀ i, s.handles[i]? = if i < t.handles then some h else none := by
    intro i
    rw [hhandles, List.getElem?_replicate]
  cases call with
  | clone i =>
    simp only [Clones.step, Lines.step, hget i]
    by_cases hi : i < t.handles
    · simp only [hi, if_true]
      refine ⟨by rw [hhandles, List.length_replicate], h, ?_, hlooks.capacity, hlooks.closed, hlooks.waiting⟩
      rw [hhandles, List.replicate_succ']
    · simp only [hi, if_false]
      exact ⟨trivial, h, hhandles, hlooks⟩
  | ask i op =>
    simp only [Clones.step, Lines.step, hget i]
    by_cases hi : i < t.handles
    · obtain ⟨hanswer, hnext⟩ := hlooks.perform op
      simp only [hi, if_true]
      refine ⟨congrArg Reply.answer hanswer, h, ?_, ?_⟩
      · rw [hhandles, Lines.handles_ask]
      · rw [Memory.load_store _ _ (capacity_perform _ op)]
        exact hnext
    · simp only [hi, if_false]
      exact ⟨trivial, h, hhandles, hlooks⟩

/-- **Every run is answered as the abstract machine answers it.** -/
theorem trace_eq (hs : s.Shows capacity t) (calls : List Call) :
    Machine.trace step s calls = Machine.trace (Lines.step capacity) t calls ∧
      (Machine.after step s calls).Shows capacity (Machine.after (Lines.step capacity) t calls) :=
  Machine.trace_eq_of_simulation (fun _ _ call h => h.step call) hs calls

end Clones

/-! ## What is accepted is given out -/

/-- The messages that a run accepted under a name, in that order. -/
def accepted (name : String) : List (Call × Reply) → List String :=
  List.filterMap fun
    | (.ask _ (.add job flavor), .answer (.added (.ok ()))) =>
      if flavor.name = name then some job.message else none
    | _ => none

/-- The messages that a run took from a name, in that order. -/
def taken (name : String) : List (Call × Reply) → List String :=
  List.filterMap fun
    | (.ask _ (.take n), .answer (.taken message)) => if n = name then message else none
    | _ => none

theorem accepted_append (name : String) (r r' : List (Call × Reply)) :
    accepted name (r ++ r') = accepted name r ++ accepted name r' := List.filterMap_append

theorem taken_append (name : String) (r r' : List (Call × Reply)) :
    taken name (r ++ r') = taken name r ++ taken name r' := List.filterMap_append

namespace Lines

variable {capacity : Nat} {s : Lines} {name : String}

/-- Every line is within the capacity. -/
def Bounded (capacity : Nat) (s : Lines) : Prop := ∀ name, (s.line name).length ≤ capacity

/-- **What a call can do to the lines**: a message of an open queue with room is put last, a first message is
taken away, or nothing happens to them. -/
theorem step_cases (capacity : Nat) (s : Lines) (call : Call) :
    (∃ i job flavor, call = .ask i (.add job flavor) ∧ s.closed = false ∧
        (s.line flavor.name).length < capacity ∧ s.step capacity call =
          (.answer (.added (.ok ())), s.put flavor.name (s.line flavor.name ++ [job.message]))) ∨
      (∃ i n, call = .ask i (.take n) ∧ s.step capacity call =
          (.answer (.taken (s.line n).head?), s.put n (s.line n).tail)) ∨
      ((s.step capacity call).2.line = s.line ∧
        (s.closed = true → (s.step capacity call).2.closed = true) ∧
        ∀ name, accepted name [(call, (s.step capacity call).1)] = [] ∧
          taken name [(call, (s.step capacity call).1)] = []) := by
  cases call with
  | clone i =>
    refine .inr (.inr ?_)
    rw [step]
    split <;> exact ⟨rfl, id, fun _ => ⟨rfl, rfl⟩⟩
  | ask i op =>
    rw [step]
    by_cases hi : i < s.handles
    case neg =>
      rw [if_neg hi]
      cases op <;> exact .inr (.inr ⟨rfl, id, fun _ => ⟨rfl, rfl⟩⟩)
    rw [if_pos hi]
    cases op with
    | add job flavor =>
      simp only [ask]
      by_cases hc : s.closed = true
      · rw [if_pos hc]
        exact .inr (.inr ⟨rfl, id, fun _ => ⟨rfl, rfl⟩⟩)
      by_cases hf : capacity ≤ (s.line flavor.name).length
      · rw [if_neg hc, if_pos hf]
        exact .inr (.inr ⟨rfl, id, fun _ => ⟨rfl, rfl⟩⟩)
      · rw [if_neg hc, if_neg hf]
        exact .inl ⟨i, job, flavor, rfl, Bool.eq_false_iff.2 hc, Nat.lt_of_not_le hf, rfl⟩
    | take n => exact .inr (.inl ⟨i, n, rfl, rfl⟩)
    | close => exact .inr (.inr ⟨rfl, fun _ => rfl, fun _ => ⟨rfl, rfl⟩⟩)
    | pending | canConnect => exact .inr (.inr ⟨rfl, id, fun _ => ⟨rfl, rfl⟩⟩)

/-- One call loses nothing, adds nothing and moves nothing. -/
theorem line_step (capacity : Nat) (s : Lines) (call : Call) (name : String) :
    s.line name ++ accepted name [(call, (s.step capacity call).1)] =
      taken name [(call, (s.step capacity call).1)] ++ (s.step capacity call).2.line name := by
  rcases step_cases capacity s call with
    ⟨i, job, flavor, rfl, -, -, hs⟩ | ⟨i, n, rfl, hs⟩ | ⟨hline, -, hnone⟩
  · rw [hs]
    by_cases hn : flavor.name = name
    · simp [accepted, taken, put, hn]
    · simp [accepted, taken, put, hn, eq_comm (a := name)]
  · rw [hs]
    by_cases hn : n = name
    · subst hn
      cases s.line n <;> simp [accepted, taken, put]
    · simp [accepted, taken, put, hn, eq_comm (a := name)]
  · rw [(hnone name).1, (hnone name).2, hline, List.append_nil, List.nil_append]

/-- **What waited and what was accepted is what was taken and what waits now**, in that order. -/
theorem line_after (capacity : Nat) (s : Lines) (calls : List Call) (name : String) :
    s.line name ++ accepted name (Machine.trace (step capacity) s calls) =
      taken name (Machine.trace (step capacity) s calls) ++
        (Machine.after (step capacity) s calls).line name := by
  induction calls generalizing s with
  | nil => rw [Machine.trace, Machine.after]; simp [accepted, taken]
  | cons call calls ih =>
    -- what the step leaves in the line is what the rest of the run begins with
    have hstep := line_step capacity s call name
    have hrun := ih (s.step capacity call).2
    rw [Machine.trace, Machine.after_cons, ← List.singleton_append, accepted_append, taken_append,
      ← List.append_assoc, hstep, List.append_assoc, hrun, List.append_assoc]

theorem Bounded.step (hs : s.Bounded capacity) (call : Call) :
    (s.step capacity call).2.Bounded capacity := by
  intro name
  rcases step_cases capacity s call with
    ⟨i, job, flavor, rfl, -, hroom, hs'⟩ | ⟨i, n, rfl, hs'⟩ | ⟨hline, -⟩
  · simp only [hs', put]
    split
    · rw [List.length_append]
      exact hroom
    · exact hs name
  · simp only [hs', put]
    split
    · rw [List.length_tail]
      have := hs n
      omega
    · exact hs name
  · rw [hline]
    exact hs name

/-- **A closed machine stays closed and accepts nothing.** -/
theorem accepted_closed (hs : s.closed = true) (calls : List Call) (name : String) :
    accepted name (Machine.trace (step capacity) s calls) = [] := by
  induction calls generalizing s with
  | nil => rfl
  | cons call calls ih =>
    rw [Machine.trace, ← List.singleton_append, accepted_append]
    rcases step_cases capacity s call with
      ⟨_, _, _, rfl, hopen, -⟩ | ⟨i, n, rfl, hs'⟩ | ⟨-, hclosed, hnone⟩
    · exact absurd (hs.symm.trans hopen) (by decide)
    · rw [hs']
      exact ih (s := s.put n (s.line n).tail) hs
    · rw [(hnone name).1, ih (hclosed hs), List.nil_append]

/-- A refused job leaves the machine as it was. -/
theorem step_refused {i : Nat} {job : Job} {flavor : Flavor} {fault : QueueFault}
    (h : (s.step capacity (.ask i (.add job flavor))).1 = .answer (.added (.error fault))) :
    (s.step capacity (.ask i (.add job flavor))).2 = s := by
  revert h
  rw [step]
  split
  · simp only [ask]
    split
    · exact fun _ => rfl
    split
    · exact fun _ => rfl
    · exact (nomatch ·)
  · exact fun _ => rfl

/-- **Taking as often as messages wait gives them all out**, through any handle there is. -/
theorem taken_all {i : Nat} (hi : i < s.handles) (name : String) :
    taken name (Machine.trace (step capacity) s
      (List.replicate (s.line name).length (.ask i (.take name)))) = s.line name := by
  generalize hl : s.line name = line
  induction line generalizing s with
  | nil => rfl
  | cons message line ih =>
    have hs : s.step capacity (.ask i (.take name)) =
        (.answer (.taken (some message)), s.put name line) := by
      rw [step, if_pos hi, ask, hl]
      rfl
    rw [List.length_cons, List.replicate_succ, Machine.trace, ← List.singleton_append, taken_append, hs,
      ih (s := s.put name line) hi (if_pos rfl)]
    simp [taken]

end Lines

/-! ## What a user of a queue can rely on -/

variable {capacity : Nat} {s : Clones} {t : Lines}

theorem Clones.Shows.waiting {h : Handle} (hs : s.Shows capacity t) (hh : h ∈ s.handles) (name : String) :
    (s.memory.load h).waiting name = t.line name := by
  obtain ⟨h', hhandles, hlooks⟩ := hs
  rw [hhandles] at hh
  rw [List.eq_of_mem_replicate hh]
  exact hlooks.waiting name

theorem Clones.Shows.handles_length (hs : s.Shows capacity t) : s.handles.length = t.handles := by
  obtain ⟨h, hhandles, -⟩ := hs
  rw [hhandles, List.length_replicate]

/-- **A queue shared by any number of handles refines the abstract machine**, whatever its capacity. Every
run from a new queue is answered alike. At its end, through whichever handle one looks, no line is longer
than the capacity, what was taken followed by what waits is what was accepted, and all that waits can be
taken. A refused job changes no later answer, and a queue once closed accepts nothing, whatever is done. -/
theorem clones_refine_lines (capacity : Nat) (calls : List Call) :
    let history := Machine.trace Clones.step (Clones.start capacity) calls
    let now := Machine.after Clones.step (Clones.start capacity) calls
    history = Machine.trace (Lines.step capacity) {} calls ∧
    (∀ (i : Nat) (h : Handle) (name : String), now.handles[i]? = some h →
      let waiting := (now.memory.load h).waiting name
      waiting.length ≤ capacity ∧ taken name history ++ waiting = accepted name history ∧
      taken name (Machine.trace Clones.step now
        (List.replicate waiting.length (.ask i (.take name)))) = waiting) ∧
    (∀ i job flavor fault, (now.step (.ask i (.add job flavor))).1 = .answer (.added (.error fault)) →
      ∀ later, Machine.trace Clones.step (now.step (.ask i (.add job flavor))).2 later =
        Machine.trace Clones.step now later) ∧
    ∀ i < now.handles.length, ∀ later name,
      accepted name (Machine.trace Clones.step (now.step (.ask i .close)).2 later) = [] := by
  intro history now
  obtain ⟨hhistory, hnow⟩ := Clones.trace_eq (Clones.shows_start capacity) calls
  refine ⟨hhistory, fun i h name hh => ?_, fun i job flavor fault hrefused later => ?_,
    fun i hi later name => ?_⟩
  · have hmem : h ∈ now.handles := List.mem_of_getElem? hh
    have hwaiting := hnow.waiting hmem name
    have hbounded : Lines.Bounded capacity (Machine.after (Lines.step capacity) {} calls) :=
      Machine.after_induction (fun _ call hs => hs.step call) (fun _ => Nat.zero_le _) calls
    have hkept := Lines.line_after capacity {} calls name
    have hi : i < (Machine.after (Lines.step capacity) {} calls).handles := by
      rw [← hnow.handles_length]
      exact (List.getElem?_eq_some_iff.1 hh).1
    refine ⟨?_, ?_, ?_⟩
    · exact hwaiting ▸ hbounded name
    · rw [hwaiting, show history = _ from hhistory]
      exact hkept.symm
    · rw [hwaiting, (Clones.trace_eq hnow _).1]
      exact Lines.taken_all hi name
  · obtain ⟨hanswer, hnext⟩ := hnow.step (.ask i (.add job flavor))
    rw [Lines.step_refused (hanswer.symm.trans hrefused)] at hnext
    rw [(Clones.trace_eq hnext later).1, (Clones.trace_eq hnow later).1]
  · obtain ⟨-, hnext⟩ := hnow.step (.ask i .close)
    rw [(Clones.trace_eq hnext later).1]
    refine Lines.accepted_closed ?_ later name
    rw [hnow.handles_length] at hi
    rw [Lines.step, if_pos hi]
    rfl

/-- A job that asks for no label. -/
def plainJob : Job := ⟨∅, .queued, ⟨"a", none, .opaquely "", none, none⟩⟩

/-- With room for one job, a second one is refused through another handle, and that does not show later. -/
theorem clones_refine_lines_full :
    let flavor : Flavor := ⟨"a", by decide⟩
    let calls := [.clone 0, .ask 1 (.add plainJob flavor)]
    let now := Machine.after Clones.step (Clones.start 1) calls
    (now.step (.ask 0 (.add plainJob flavor))).1 = .answer (.added (.error (.full flavor 1))) ∧
      ∀ later, Machine.trace Clones.step (now.step (.ask 0 (.add plainJob flavor))).2 later =
        Machine.trace Clones.step now later := by
  intro flavor calls now
  have hrefused : (now.step (.ask 0 (.add plainJob flavor))).1 =
      .answer (.added (.error (.full flavor 1))) := rfl
  exact ⟨hrefused, (clones_refine_lines 1 calls).2.2.1 0 plainJob flavor _ hrefused⟩

end RunnerDispatch.Queue
