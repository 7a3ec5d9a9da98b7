import RunnerDispatch.Proofs.Run
import RunnerDispatch.Proofs.Shutdown.Owed

/-!
# Sessions with a signal to stop

A session starts with one handle. Handles and listeners come and go in any order, through any handle that is
left, and what came of it all is its history. Who has a handle, who listens, and how many signals were given
and had since are read off the history alone.

* `Session.step`: one operation. Through a handle that is gone, or for a listener that is gone, nothing comes
  of it.
* `Held`, `Listens`: handles and listeners that are left. `held_concat`, `lasts_concat`: what one more event
  changes.
* `given`, `had`: signals of a history.
* `Moves`, `moves_step`: **what one operation does to one listener**, as one case for each.
-/

namespace RunnerDispatch.Shutdown

/-! ## Sessions -/

/-- What a handle is used for. -/
inductive Use
  | subscribe
  | trigger
  | count
  | clone
  | drop
  deriving DecidableEq, Repr

inductive Operation
  | use (handle : Nat) (use : Use)
  | receive (listener : Nat)
  | leave (listener : Nat)
  deriving DecidableEq, Repr

/-- What comes of an operation. -/
inductive Answer
  | subscribed (listener : Nat)
  | triggered (listeners : Nat)
  | counted (listeners : Nat)
  | cloned (handle : Nat)
  | dropped
  | received (what : Received)
  | left
  /-- There is no such handle or listener, or not any more. -/
  | gone
  deriving DecidableEq, Repr

/-- The signal, and which of the handles are left. -/
structure Session where
  signal : Shutdown := {}
  handles : List Bool := [true]
  deriving DecidableEq, Repr

namespace Session

/-- What a handle that is left does. -/
def use (s : Session) (handle : Nat) : Use → Answer × Session
  | .subscribe =>
    let (listener, signal) := s.signal.subscribe
    (.subscribed listener, { s with signal })
  | .trigger =>
    let t := s.signal.trigger
    (.triggered t.listeners, { s with signal := t.state })
  | .count => (.counted s.signal.receivers, s)
  | .clone =>
    (.cloned s.handles.length, { signal := s.signal.clone, handles := s.handles ++ [true] })
  | .drop => (.dropped, { signal := s.signal.dropHandle, handles := s.handles.set handle false })

/-- One operation. -/
def step : Machine Session Operation Answer
  | s, .use handle u => if s.handles[handle]? = some true then s.use handle u else (.gone, s)
  | s, .receive l =>
    match s.signal.receive l with
    | (some what, signal) => (.received what, { s with signal })
    | (none, _) => (.gone, s)
  | s, .leave l =>
    if (s.signal.due? l).isSome then (.left, { s with signal := s.signal.drop l }) else (.gone, s)

end Session

/-! ## Histories -/

/-- An operation, and what came of it. -/
abbrev Event := Operation × Answer

/-- What began with some event, and did not end since. -/
def Lasts (begins : Event → Prop) (ends : Event) (past since : List Event) : Prop :=
  ∃ first, begins first ∧ first :: since <:+ past ∧ ends ∉ since

/-- A listener that subscribed, and did not leave since. -/
def Listens (past : List Event) (l : Nat) (since : List Event) : Prop :=
  Lasts (fun e => ∃ handle, e = (.use handle .subscribe, .subscribed l)) (.leave l, .left) past since

/-- The listeners that are left. -/
def listening (past : List Event) : Set Nat := {l | ∃ since, Listens past l since}

/-- A handle that was cloned, or the first one, and was not dropped since. -/
def Held (past : List Event) (handle : Nat) : Prop :=
  (handle = 0 ∧ (.use handle .drop, .dropped) ∉ past) ∨
    ∃ since, Lasts (fun e => ∃ other, e = (.use other .clone, .cloned handle))
      (.use handle .drop, .dropped) past since

/-- Events that give a signal. -/
def gives : Event → Nat
  | (.use _ .trigger, .triggered _) => 1
  | _ => 0

/-- How many signals are settled for a listener by an event. -/
def settles (l : Nat) : Event → Nat
  | (.receive i, .received what) => if i = l then what.signals else 0
  | _ => 0

/-- How many signals were given. -/
def given (past : List Event) : Nat := (past.map gives).sum

/-- How many signals a listener had, or missed and was told so. -/
def had (l : Nat) (past : List Event) : Nat := (past.map (settles l)).sum

variable {begins : Event → Prop} {ends e : Event} {past since : List Event}
variable {s : Session} {l handle : Nat}

/-- What lasts after one more event lasted before, or begins with it. -/
theorem lasts_concat : Lasts begins ends (past ++ [e]) since ↔
    (begins e ∧ since = []) ∨ ∃ before, Lasts begins ends past before ∧ e ≠ ends ∧ since = before ++ [e] := by
  constructor
  · rintro ⟨first, hfirst, hsuffix, hends⟩
    -- the event itself is the first of what lasts, or it is the last and the rest was there before
    rcases List.suffix_concat_iff.mp hsuffix with h | ⟨t, ht, hsuffix⟩
    · cases h
    · cases t with
      | nil =>
        obtain ⟨rfl, rfl⟩ := List.cons.inj ht
        exact .inl ⟨hfirst, rfl⟩
      | cons first' before =>
        obtain ⟨rfl, hsince⟩ : first = first' ∧ since = before ++ [e] := List.cons.inj ht
        rw [hsince, List.mem_append, List.mem_singleton, not_or] at hends
        exact .inr ⟨before, ⟨first, hfirst, hsuffix, hends.1⟩, fun h => hends.2 h.symm, hsince⟩
  · rintro (⟨hbegins, rfl⟩ | ⟨before, ⟨first, hfirst, hsuffix, hends⟩, hne, rfl⟩)
    · exact ⟨e, hbegins, List.suffix_append past [e], List.not_mem_nil⟩
    · refine ⟨first, hfirst, List.suffix_concat_iff.mpr (.inr ⟨first :: before, rfl, hsuffix⟩), ?_⟩
      rw [List.mem_append, List.mem_singleton, not_or]
      exact ⟨hends, fun h => hne h.symm⟩

theorem Lasts.append (h : Lasts begins ends past since) {more : List Event} (hmore : ends ∉ more) :
    Lasts begins ends (past ++ more) (since ++ more) := by
  obtain ⟨first, hfirst, ⟨t, rfl⟩, hends⟩ := h
  refine ⟨first, hfirst, ⟨t, by rw [List.append_assoc, List.cons_append]⟩, ?_⟩
  rw [List.mem_append, not_or]
  exact ⟨hends, hmore⟩

theorem held_nil : Held [] handle ↔ handle = 0 := by
  constructor
  · rintro (⟨h, -⟩ | ⟨since, first, -, hsuffix, -⟩)
    · exact h
    · cases List.suffix_nil.mp hsuffix
  · exact fun h => .inl ⟨h, List.not_mem_nil⟩

/-- A handle was there and is not dropped, or it is a new one. -/
theorem held_concat : Held (past ++ [e]) handle ↔
    (∃ other, e = (.use other .clone, .cloned handle)) ∨
      (Held past handle ∧ e ≠ (.use handle .drop, .dropped)) := by
  simp only [Held, lasts_concat, List.mem_append, List.mem_singleton, not_or]
  constructor
  · rintro (⟨h0, hpast, he⟩ | ⟨since, ⟨hclone, -⟩ | ⟨before, hlasts, he, -⟩⟩)
    · exact .inr ⟨.inl ⟨h0, hpast⟩, fun h => he h.symm⟩
    · exact .inl hclone
    · exact .inr ⟨.inr ⟨before, hlasts⟩, he⟩
  · rintro (hclone | ⟨⟨h0, hpast⟩ | ⟨since, hlasts⟩, he⟩)
    · exact .inr ⟨[], .inl ⟨hclone, rfl⟩⟩
    · exact .inl ⟨h0, hpast, fun h => he h.symm⟩
    · exact .inr ⟨since ++ [e], .inr ⟨since, hlasts, he, rfl⟩⟩

theorem given_append (past more : List Event) : given (past ++ more) = given past + given more := by
  rw [given, List.map_append, List.sum_append, given, given]

theorem had_append (l : Nat) (past more : List Event) :
    had l (past ++ more) = had l past + had l more := by
  rw [had, List.map_append, List.sum_append, had, had]

@[simp] theorem given_nil : given [] = 0 := rfl

@[simp] theorem had_nil (l : Nat) : had l [] = 0 := rfl

theorem given_cons (e : Event) (past : List Event) : given (e :: past) = gives e + given past := List.sum_cons

theorem had_cons (l : Nat) (e : Event) (past : List Event) : had l (e :: past) = settles l e + had l past :=
  List.sum_cons

/-! ## What an operation does to a listener -/

/-- What a listener is owed, before and after an event. -/
inductive Moves (l : Nat) : Event → Option Nat → Option Nat → Prop
  | subscribes (handle : Nat) : Moves l (.use handle .subscribe, .subscribed l) none (some 0)
  | signal (handle n : Nat) (owed : Option Nat) :
      Moves l (.use handle .trigger, .triggered n) owed (owed.map (· + 1))
  | receives (what : Received) (n : Nat) :
      Moves l (.receive l, .received what) (some (n + what.signals)) (some n)
  | leaves (owed : Option Nat) : Moves l (.leave l, .left) owed none
  /-- Events that are none of the others. -/
  | stays {e : Event} (owed : Option Nat) (hsubscribed : ∀ handle, e ≠ (.use handle .subscribe, .subscribed l))
      (hgives : gives e = 0) (hsettles : settles l e = 0) (hleft : e ≠ (.leave l, .left)) : Moves l e owed owed

/-- Where nothing came of an operation, every listener stays as it is. -/
theorem moves_gone (op : Operation) (l : Nat) (owed : Option Nat) : Moves l (op, .gone) owed owed := by
  refine .stays owed nofun ?_ ?_ nofun
  · cases op with
    | use handle u => cases u <;> rfl
    | receive | leave => rfl
  · cases op <;> rfl

/-- A listener that is there gets what follows from what it is owed. -/
theorem step_receive_some (hs : s.signal.Sound) {n : Nat} (hn : s.signal.owed? l = some n) :
    s.step (.receive l) = (.received (s.signal.reply n), { s with signal := (s.signal.receive l).2 }) := by
  have hgets : (s.signal.receive l).1 = some (s.signal.reply n) := by
    rw [receive_fst hs l, hn]
    rfl
  rcases hr : s.signal.receive l with ⟨what, signal⟩
  rw [hr] at hgets
  cases hgets
  simp only [Session.step, hr]

theorem step_receive_none (hn : s.signal.owed? l = none) : s.step (.receive l) = (.gone, s) := by
  have hr : s.signal.receive l = (none, s.signal) := receive_none (Option.map_eq_none_iff.mp hn)
  simp only [Session.step, hr]

/-- **What one operation does to one listener.** -/
theorem moves_step (hs : s.signal.Sound) (op : Operation) (l : Nat) :
    Moves l (op, (s.step op).1) (s.signal.owed? l) ((s.step op).2.signal.owed? l) := by
  cases op with
  | use handle u =>
    rw [Session.step]
    split
    · cases u with
      | subscribe =>
        simp only [Session.use, owed?_subscribe]
        split
        · rename_i hl
          rw [hl, owed?_new]
          exact .subscribes handle
        · rename_i hl
          exact .stays _ (fun _ h => hl (by cases h; rfl)) rfl rfl nofun
      | trigger =>
        simp only [Session.use, owed?_trigger hs]
        exact .signal handle _ _
      | count | clone | drop => exact .stays _ nofun rfl rfl nofun
    · exact moves_gone _ l _
  | receive i =>
    have howed := owed?_receive hs i l
    cases hi : s.signal.owed? i with
    | none =>
      rw [step_receive_none hi]
      exact moves_gone _ l _
    | some n =>
      rw [hi, Option.map_some] at howed
      rw [step_receive_some hs hi]
      simp only [howed]
      split
      · rename_i hl
        have hmoves := Moves.receives (l := i) (s.signal.reply n) (n - (s.signal.reply n).signals)
        rw [Nat.sub_add_cancel (signals_reply_le s.signal n)] at hmoves
        rw [hl, hi]
        exact hmoves
      · rename_i hl
        exact .stays _ nofun rfl (if_neg fun h => hl h.symm) nofun
  | leave i =>
    rw [Session.step]
    split
    · simp only [owed?_drop]
      split
      · rename_i hl
        rw [hl]
        exact .leaves _
      · rename_i hl
        exact .stays _ nofun rfl rfl fun h => hl (by cases h; rfl)
    · exact moves_gone _ l _

/-- Every operation leaves the listeners behind the signals. -/
theorem Sound.step (hs : s.signal.Sound) (op : Operation) : (s.step op).2.signal.Sound := by
  cases op with
  | use handle u =>
    rw [Session.step]
    split
    · cases u with
      | subscribe => exact hs.subscribe
      | trigger => exact hs.trigger
      | count | clone | drop => exact hs
    · exact hs
  | receive i =>
    cases hi : s.signal.owed? i with
    | none =>
      rw [step_receive_none hi]
      exact hs
    | some n =>
      rw [step_receive_some hs hi]
      exact hs.receive i
  | leave i =>
    rw [Session.step]
    split
    · exact hs.drop i
    · exact hs

end RunnerDispatch.Shutdown
