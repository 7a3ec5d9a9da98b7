import RunnerDispatch.Proofs.Shutdown.Session

/-!
# No signal is lost

What the state of a session has of its history, and what its listeners get of it.

* `Owes`: each listener is owed what was given and not settled since it subscribed. `Counts`: the handles that
  are left are counted. Each step keeps both, so every run does: `recalls_run`.
* `use_held`: what comes of a handle.
* `receive_after_lag`: a listener that was told what it missed gets the latest signal next.
* `no_signal_lost`: **every listener gets what is still owed to it**, whatever happened to the handles, and
  whoever gives a signal learns how many listen.
-/

namespace RunnerDispatch.Shutdown

variable {e : Event} {past since : List Event} {s : Session} {l handle : Nat}

/-! ## What the state has of the history -/

/-- Every listener that is left is owed what was given and not settled since it subscribed. -/
structure Owes (past : List Event) (s : Session) : Prop where
  sound : s.signal.Sound
  listens : ∀ l n, s.signal.owed? l = some n → ∃ since, Listens past l since
  owed : ∀ l since, Listens past l since → ∃ n, s.signal.owed? l = some n ∧ given since = had l since + n

/-- One event moves a listener as its history says. -/
theorem Moves.listens {owed owed' : Option Nat} (h : Moves l e owed owed')
    (before : ∀ n, owed = some n → ∃ since, Listens past l since) {n : Nat} (hn : owed' = some n) :
    ∃ since, Listens (past ++ [e]) l since := by
  cases h with
  | subscribes handle => exact ⟨[], lasts_concat.mpr (.inl ⟨⟨handle, rfl⟩, rfl⟩)⟩
  | signal handle m =>
    obtain ⟨k, hk, -⟩ := Option.map_eq_some_iff.mp hn
    obtain ⟨since, hsince⟩ := before k hk
    exact ⟨_, lasts_concat.mpr (.inr ⟨since, hsince, nofun, rfl⟩)⟩
  | receives what k =>
    obtain ⟨since, hsince⟩ := before _ rfl
    exact ⟨_, lasts_concat.mpr (.inr ⟨since, hsince, nofun, rfl⟩)⟩
  | leaves => cases hn
  | stays _ _ _ _ hleft =>
    obtain ⟨since, hsince⟩ := before n hn
    exact ⟨_, lasts_concat.mpr (.inr ⟨since, hsince, hleft, rfl⟩)⟩

theorem Moves.owed {owed owed' : Option Nat} (h : Moves l e owed owed')
    (before : ∀ since, Listens past l since → ∃ n, owed = some n ∧ given since = had l since + n)
    (hsince : Listens (past ++ [e]) l since) : ∃ n, owed' = some n ∧ given since = had l since + n := by
  obtain ⟨⟨handle, rfl⟩, rfl⟩ | ⟨since, hlistens, hne, rfl⟩ := lasts_concat.mp hsince
  · -- who has just subscribed is owed nothing yet
    cases h with
    | subscribes => exact ⟨0, rfl, rfl⟩
    | stays _ hsubscribed => exact absurd rfl (hsubscribed handle)
  · obtain ⟨n, hn, hgiven⟩ := before since hlistens
    rw [given_append, had_append, given_cons, had_cons, given_nil, had_nil]
    cases h with
    | subscribes => cases hn
    | signal handle m =>
      refine ⟨n + 1, by rw [hn]; rfl, ?_⟩
      simp only [gives, settles]
      omega
    | receives what k =>
      have hk : k + what.signals = n := Option.some.inj hn
      refine ⟨k, rfl, ?_⟩
      simp only [gives, settles, if_true]
      omega
    | leaves => exact absurd rfl hne
    | stays _ _ hgives hsettles => exact ⟨n, hn, by omega⟩

theorem Owes.step (h : Owes past s) (op : Operation) : Owes (past ++ [(op, (s.step op).1)]) (s.step op).2 where
  sound := h.sound.step op
  listens l _ hn := (moves_step h.sound op l).listens (h.listens l) hn
  owed l _ hsince := (moves_step h.sound op l).owed (h.owed l) hsince

/-- The handles that are left are those that the history has, and so many are counted. -/
structure Counts (past : List Event) (s : Session) : Prop where
  held : ∀ handle, s.handles[handle]? = some true ↔ Held past handle
  count : s.signal.handles = s.handles.count true

/-- Operations that only concern listeners. -/
theorem Counts.same (h : Counts past s) {s' : Session} (hhandles : s'.handles = s.handles)
    (hsignal : s'.signal.handles = s.signal.handles)
    (hclone : ∀ other handle, e ≠ (.use other .clone, .cloned handle))
    (hdrop : ∀ handle, e ≠ (.use handle .drop, .dropped)) : Counts (past ++ [e]) s' where
  held handle := by
    rw [hhandles, h.held handle, held_concat]
    constructor
    · exact fun hheld => .inr ⟨hheld, hdrop handle⟩
    · rintro (⟨other, hother⟩ | ⟨hheld, -⟩)
      · exact absurd hother (hclone other handle)
      · exact hheld
  count := by rw [hhandles, hsignal, h.count]

theorem Counts.clone (h : Counts past s) (handle : Nat) :
    Counts (past ++ [(.use handle .clone, .cloned s.handles.length)])
      { signal := s.signal.clone, handles := s.handles ++ [true] } where
  held i := by
    rw [held_concat, ← h.held i, getElem?_concat]
    by_cases hi : i = s.handles.length
    · rw [if_pos hi, hi]
      exact iff_of_true rfl (.inl ⟨handle, rfl⟩)
    · rw [if_neg hi]
      constructor
      · exact fun hheld => .inr ⟨hheld, nofun⟩
      · rintro (⟨other, hother⟩ | ⟨hheld, -⟩)
        · exact absurd (by cases hother; rfl) hi
        · exact hheld
  count := by
    rw [List.count_append, ← h.count]
    rfl

theorem Counts.drop (h : Counts past s) (hhandle : s.handles[handle]? = some true) :
    Counts (past ++ [(.use handle .drop, .dropped)])
      { signal := s.signal.dropHandle, handles := s.handles.set handle false } where
  held i := by
    rw [held_concat, ← h.held i]
    by_cases hi : i = handle
    · rw [hi, List.getElem?_set_self', hhandle]
      refine iff_of_false nofun ?_
      rintro (⟨other, hother⟩ | ⟨-, hne⟩)
      · cases hother
      · exact hne rfl
    · rw [List.getElem?_set_ne fun h => hi h.symm]
      constructor
      · exact fun hheld => .inr ⟨hheld, fun hdrop => hi (by cases hdrop; rfl)⟩
      · rintro (⟨other, hother⟩ | ⟨hheld, -⟩)
        · cases hother
        · exact hheld
  count := by
    obtain ⟨hlt, hget⟩ := List.getElem?_eq_some_iff.mp hhandle
    rw [List.count_set hlt, hget, ← h.count]
    rfl

theorem Counts.step (h : Counts past s) (op : Operation) :
    Counts (past ++ [(op, (s.step op).1)]) (s.step op).2 := by
  cases op with
  | use handle u =>
    rw [Session.step]
    split
    · rename_i hhandle
      cases u with
      | clone => exact h.clone handle
      | drop => exact h.drop hhandle
      | trigger => exact h.same rfl (handles_trigger s.signal) (by simp) (by simp)
      | subscribe | count => exact h.same rfl rfl (by simp) (by simp)
    · exact h.same rfl rfl (by simp) (by simp)
  | receive l =>
    have hhandles := handles_receive s.signal l
    rcases hr : s.signal.receive l with ⟨_ | what, signal⟩
    · simp only [Session.step, hr]
      exact h.same rfl rfl (by simp) (by simp)
    · rw [hr] at hhandles
      simp only [Session.step, hr]
      exact h.same rfl hhandles (by simp) (by simp)
  | leave l =>
    rw [Session.step]
    split
    · exact h.same rfl rfl (by simp) (by simp)
    · exact h.same rfl rfl (by simp) (by simp)

/-- Somebody can give a signal as long as a handle is held. -/
theorem Counts.handles_eq_zero_iff (h : Counts past s) :
    s.signal.handles = 0 ↔ ∀ handle, ¬ Held past handle := by
  rw [h.count, List.count_eq_zero, List.mem_iff_getElem?, not_exists]
  simp only [h.held]

/-- **What a run keeps.** -/
theorem recalls_run (operations : List Operation) :
    Owes (Session.step.trace {} operations) (Session.step.after {} operations) ∧
      Counts (Session.step.trace {} operations) (Session.step.after {} operations) := by
  refine Machine.trace_induction (P := fun past s => Owes past s ∧ Counts past s) ?_ ⟨?_, ?_⟩ operations
  · exact fun past s op h => ⟨h.1.step op, h.2.step op⟩
  · refine ⟨sound_start, nofun, ?_⟩
    rintro l since ⟨first, -, hsuffix, -⟩
    cases List.suffix_nil.mp hsuffix
  · refine ⟨fun handle => ?_, rfl⟩
    rw [held_nil]
    cases handle with
    | zero => exact iff_of_true rfl rfl
    | succ => exact iff_of_false nofun nofun

/-! ## What is asked of a session -/

theorem Owes.mem_listening (h : Owes past s) : l ∈ listening past ↔ (s.signal.owed? l).isSome := by
  rw [Option.isSome_iff_exists]
  constructor
  · rintro ⟨since, hsince⟩
    obtain ⟨n, hn, -⟩ := h.owed l since hsince
    exact ⟨n, hn⟩
  · rintro ⟨n, hn⟩
    exact h.listens l n hn

/-- Who is counted is who listens. -/
theorem Owes.receivers_eq (h : Owes past s) : s.signal.receivers = (listening past).ncard := by
  rw [receivers_eq_ncard]
  congr 1
  ext l
  rw [h.mem_listening, Set.mem_ofPred_eq]

/-- **What a listener gets follows from what it is owed.** -/
theorem Owes.receive (h : Owes past s) {n : Nat} (hsince : Listens past l since)
    (hgiven : given since = had l since + n) : (s.step (.receive l)).1 = .received (s.signal.reply n) := by
  obtain ⟨m, hm, hgiven'⟩ := h.owed l since hsince
  have hmn : m = n := by omega
  rw [step_receive_some h.sound hm, hmn]

/-- A listener that is left can leave. -/
theorem Owes.leave (h : Owes past s) (hl : l ∈ listening past) : (s.step (.leave l)).1 = .left := by
  rw [h.mem_listening, owed?, Option.isSome_map] at hl
  rw [Session.step, if_pos hl]

/-- **What comes of a handle that is left**: a listener that nobody else is, a handle that nobody else has, and
how many listen. -/
theorem use_held (howes : Owes past s) (hcounts : Counts past s) (hheld : Held past handle) :
    (s.step (.use handle .trigger)).1 = .triggered (listening past).ncard ∧
    (s.step (.use handle .count)).1 = .counted (listening past).ncard ∧
    (∃ l, l ∉ listening past ∧ (s.step (.use handle .subscribe)).1 = .subscribed l) ∧
    (∃ other, ¬ Held past other ∧ (s.step (.use handle .clone)).1 = .cloned other) ∧
    (s.step (.use handle .drop)).1 = .dropped := by
  have huse : ∀ u, s.step (.use handle u) = s.use handle u := by
    intro u
    rw [Session.step, if_pos ((hcounts.held handle).mpr hheld)]
  rw [← howes.receivers_eq]
  simp only [huse]
  refine ⟨rfl, rfl, ⟨s.signal.subscribe.1, ?_, rfl⟩, ⟨s.handles.length, ?_, rfl⟩, rfl⟩
  · rw [howes.mem_listening, owed?_new]
    simp
  · rw [← hcounts.held, List.getElem?_eq_none le_rfl]
    simp

/-- Operations that give no signal, and are not those of one listener. -/
def Quiet (l : Nat) : Operation → Prop
  | .use _ u => u ≠ .trigger
  | .receive i => i ≠ l
  | .leave i => i ≠ l

/-- Nothing that is quiet moves a listener. -/
theorem quiet_event (h : Quiet l e.1) : e ≠ (.leave l, .left) ∧ gives e = 0 ∧ settles l e = 0 := by
  obtain ⟨op, answer⟩ := e
  cases op with
  | use handle u =>
    refine ⟨nofun, ?_, rfl⟩
    cases u with
    | trigger => exact absurd rfl h
    | subscribe | count | clone | drop => rfl
  | receive i =>
    refine ⟨nofun, rfl, ?_⟩
    cases answer with
    | received what => exact if_neg h
    | subscribed | triggered | counted | cloned | dropped | left | gone => rfl
  | leave i => exact ⟨fun hleave => h (by cases hleave; rfl), rfl, rfl⟩

/-- A quiet run leaves a listener as it is. -/
theorem quiet_trace {later : List Operation} (h : ∀ op ∈ later, Quiet l op) (s : Session) :
    (.leave l, .left) ∉ Session.step.trace s later ∧ given (Session.step.trace s later) = 0 ∧
      had l (Session.step.trace s later) = 0 := by
  have hquiet : ∀ e ∈ Session.step.trace s later, Quiet l e.1 := by
    intro e he
    refine h e.1 ?_
    rw [← Machine.map_fst_trace Session.step s later]
    exact List.mem_map_of_mem he
  refine ⟨fun hmem => (quiet_event (hquiet _ hmem)).1 rfl, ?_, ?_⟩
  · refine List.sum_eq_zero fun n hn => ?_
    obtain ⟨e, he, rfl⟩ := List.mem_map.mp hn
    exact (quiet_event (hquiet e he)).2.1
  · refine List.sum_eq_zero fun n hn => ?_
    obtain ⟨e, he, rfl⟩ := List.mem_map.mp hn
    exact (quiet_event (hquiet e he)).2.2

/-- **After the report the signal is still there**, until its listener takes it. -/
theorem receive_after_lag {operations later : List Operation} {missed : Nat}
    (hsince : Listens (Session.step.trace {} operations) l since)
    (hlag : ((Session.step.after {} operations).step (.receive l)).1 = .received (.lagged missed))
    (hgiven : given since = had l since + (missed + 1)) (hlater : ∀ op ∈ later, Quiet l op) :
    ((Session.step.after {} (operations ++ .receive l :: later)).step (.receive l)).1 = .received .signal := by
  obtain ⟨howes, -⟩ := recalls_run (operations ++ .receive l :: later)
  set now := Session.step.after {} operations
  obtain ⟨hstay, hnone, hhad⟩ := quiet_trace hlater (now.step (.receive l)).2
  set more := Session.step.trace (now.step (.receive l)).2 later
  have hpast : Session.step.trace {} (operations ++ .receive l :: later) =
      Session.step.trace {} operations ++ (.receive l, .received (.lagged missed)) :: more := by
    rw [Machine.trace_append, Machine.trace, hlag]
  have hends : (.leave l, .left) ∉ (.receive l, .received (.lagged missed)) :: more := by
    rw [List.mem_cons, not_or]
    exact ⟨by simp, hstay⟩
  rw [hpast] at howes
  -- the report settles all but one signal, and what follows neither gives nor settles any
  refine howes.receive (n := 1) (hsince.append hends) ?_
  rw [given_append, given_cons, hnone, had_append, had_cons, hhad]
  simp only [gives, settles, if_true, Received.signals]
  omega

/-- **No signal is lost.** Every handle that is left can be used, and whoever gives a signal learns how many
listen. A listener that is owed one gets it, and one that is owed more is told how many it missed and then gets
the latest, unless another is given meanwhile. Only where nothing is owed there is nothing to get, and no more to
come once no handle is left. -/
theorem no_signal_lost (operations : List Operation) :
    let past := Session.step.trace {} operations
    let now := Session.step.after {} operations
    (∀ handle, Held past handle →
      (now.step (.use handle .trigger)).1 = .triggered (listening past).ncard ∧
      (now.step (.use handle .count)).1 = .counted (listening past).ncard ∧
      (∃ l, l ∉ listening past ∧ (now.step (.use handle .subscribe)).1 = .subscribed l) ∧
      (∃ other, ¬ Held past other ∧ (now.step (.use handle .clone)).1 = .cloned other) ∧
      (now.step (.use handle .drop)).1 = .dropped) ∧
    ∀ l since, Listens past l since →
      (now.step (.leave l)).1 = .left ∧
      had l since ≤ given since ∧
      (given since = had l since → (∃ handle, Held past handle) →
        (now.step (.receive l)).1 = .received .empty) ∧
      (given since = had l since → (¬ ∃ handle, Held past handle) →
        (now.step (.receive l)).1 = .received .closed) ∧
      (given since = had l since + 1 → (now.step (.receive l)).1 = .received .signal) ∧
      ∀ missed, 0 < missed → given since = had l since + (missed + 1) →
        (now.step (.receive l)).1 = .received (.lagged missed) ∧
        ∀ later, (∀ op ∈ later, Quiet l op) →
          ((Session.step.after now (.receive l :: later)).step (.receive l)).1 = .received .signal := by
  intro past now
  obtain ⟨howes, hcounts⟩ := recalls_run operations
  refine ⟨fun handle hheld => use_held howes hcounts hheld, fun l since hsince => ?_⟩
  obtain ⟨n, -, hn⟩ := howes.owed l since hsince
  refine ⟨howes.leave ⟨since, hsince⟩, by omega, fun hgiven hheld => ?_, fun hgiven hheld => ?_, fun hgiven => ?_,
    fun missed hpos hgiven => ?_⟩
  · have hsome : now.signal.handles ≠ 0 := fun h0 => by
      obtain ⟨handle, hhandle⟩ := hheld
      exact hcounts.handles_eq_zero_iff.mp h0 handle hhandle
    rw [howes.receive hsince (n := 0) hgiven, reply, if_neg hsome]
  · have hnone : now.signal.handles = 0 := hcounts.handles_eq_zero_iff.mpr (not_exists.mp hheld)
    rw [howes.receive hsince (n := 0) hgiven, reply, if_pos hnone]
  · exact howes.receive hsince hgiven
  · obtain ⟨k, rfl⟩ := Nat.exists_eq_succ_of_ne_zero hpos.ne'
    have hlag : (now.step (.receive l)).1 = .received (.lagged (k + 1)) := howes.receive hsince hgiven
    refine ⟨hlag, fun later hlater => ?_⟩
    rw [← Machine.after_append]
    exact receive_after_lag hsince hlag hgiven hlater

/-- Two signals are given to a listener before the last handle goes. It hears of both. -/
theorem no_signal_lost_lastHandle :
    let operations : List Operation := [.use 0 .subscribe, .use 0 .trigger, .use 0 .trigger, .use 0 .drop]
    ((Session.step.after {} [.use 0 .subscribe]).step (.use 0 .trigger)).1 = .triggered
      (listening (Session.step.trace {} [.use 0 .subscribe])).ncard ∧
    ((Session.step.after {} operations).step (.receive 0)).1 = .received (.lagged 1) ∧
    ((Session.step.after {} (operations ++ [.receive 0, .use 0 .clone])).step (.receive 0)).1 =
      .received .signal := by
  intro operations
  have hheld : Held (Session.step.trace {} [.use 0 .subscribe]) 0 := .inl ⟨rfl, by decide⟩
  have hlistens : Listens (Session.step.trace {} operations) 0
      [(.use 0 .trigger, .triggered 1), (.use 0 .trigger, .triggered 1), (.use 0 .drop, .dropped)] :=
    ⟨(.use 0 .subscribe, .subscribed 0), ⟨0, rfl⟩, ⟨[], rfl⟩, by decide⟩
  obtain ⟨-, -, -, -, -, hlag⟩ := (no_signal_lost operations).2 0 _ hlistens
  obtain ⟨hreport, hsignal⟩ := hlag 1 Nat.one_pos rfl
  refine ⟨((no_signal_lost [.use 0 .subscribe]).1 0 hheld).1, hreport, ?_⟩
  exact hsignal [.use 0 .clone] (by simp [Quiet])

end RunnerDispatch.Shutdown
