import RunnerDispatch.Shutdown
import Mathlib

/-!
# What listeners are owed

A listener is owed the signals from the one that it is to get next to the latest. Only the latest is kept, so
what it is owed says all about what it gets.

* `Shutdown.due?`, `Shutdown.owed?`: which signal a listener is to get next, and how many it is owed. None once
  it is gone.
* `Shutdown.Sound`: no listener is ahead of the signals. Every operation keeps that.
* `owed?_subscribe`, `owed?_drop`, `owed?_trigger`, `owed?_receive`: **what each operation does to it.**
* `receive_fst`: **what a listener gets follows from what it is owed.**
* `receivers_eq_ncard`: who is counted is who is owed something, or nothing yet.
-/

namespace RunnerDispatch

/-- How many signals are no longer owed to a listener that got this. -/
def Received.signals : Received → Nat
  | .signal => 1
  | .lagged missed => missed
  | .empty | .closed => 0

namespace Shutdown

/-- The number of the signal that a listener is to get next. -/
def due? (s : Shutdown) (l : Nat) : Option Nat := s.listeners[l]?.join

/-- How many signals a listener is owed. -/
def owed? (s : Shutdown) (l : Nat) : Option Nat := (s.due? l).map (s.next - ·)

/-- No listener is ahead of the signals. -/
def Sound (s : Shutdown) : Prop := ∀ l due, s.due? l = some due → due ≤ s.next

/-- What a listener gets that is owed so many signals. -/
def reply (s : Shutdown) : Nat → Received
  | 0 => if s.handles = 0 then .closed else .empty
  | 1 => .signal
  | n + 2 => .lagged (n + 1)

variable {s : Shutdown} {l due : Nat}

/-! ## Listeners that come and go -/

/-- A list with one more value. -/
theorem getElem?_concat {α : Type} (as : List α) (a : α) (i : Nat) :
    (as ++ [a])[i]? = if i = as.length then some a else as[i]? := by
  rcases Nat.lt_trichotomy i as.length with hi | hi | hi
  · rw [List.getElem?_append_left hi, if_neg hi.ne]
  · rw [hi, List.getElem?_concat_length, if_pos rfl]
  · have hnone : (as ++ [a])[i]? = none :=
      List.getElem?_eq_none (by rw [List.length_append, List.length_singleton]; omega)
    rw [hnone, if_neg hi.ne', List.getElem?_eq_none hi.le]

theorem due?_subscribe (s : Shutdown) (l : Nat) :
    s.subscribe.2.due? l = if l = s.subscribe.1 then some s.next else s.due? l := by
  have hfst : s.subscribe.1 = s.listeners.length := rfl
  have hsnd : s.subscribe.2.listeners = s.listeners ++ [some s.next] := rfl
  rw [due?, due?, hfst, hsnd, getElem?_concat]
  split <;> rfl

/-- No such listener was there before. -/
theorem due?_new (s : Shutdown) : s.due? s.subscribe.1 = none := by
  have hnone : s.listeners[s.subscribe.1]? = none := List.getElem?_eq_none le_rfl
  rw [due?, hnone]
  rfl

/-- One listener moves, or goes. -/
theorem due?_set (s : Shutdown) (i l : Nat) (a : Option Nat) :
    ({ s with listeners := s.listeners.set i a } : Shutdown).due? l =
      if l = i then s.listeners[i]?.bind fun _ => a else s.due? l := by
  rw [due?, due?]
  by_cases hl : l = i
  · rw [if_pos hl, hl, List.getElem?_set_self']
    cases s.listeners[i]? <;> rfl
  · rw [if_neg hl, List.getElem?_set_ne fun h => hl h.symm]

theorem due?_drop (s : Shutdown) (i l : Nat) : (s.drop i).due? l = if l = i then none else s.due? l := by
  rw [drop, due?_set, Option.bind_fun_none]

theorem owed?_subscribe (s : Shutdown) (l : Nat) :
    s.subscribe.2.owed? l = if l = s.subscribe.1 then some 0 else s.owed? l := by
  rw [owed?, due?_subscribe]
  split
  · exact congrArg some (Nat.sub_self s.next)
  · rfl

theorem owed?_new (s : Shutdown) : s.owed? s.subscribe.1 = none := by
  rw [owed?, due?_new]
  rfl

theorem owed?_drop (s : Shutdown) (i l : Nat) :
    (s.drop i).owed? l = if l = i then none else s.owed? l := by
  rw [owed?, due?_drop]
  split <;> rfl

/-! ## Signals that are given -/

theorem due?_trigger (s : Shutdown) (l : Nat) : s.trigger.state.due? l = s.due? l := by
  simp only [trigger]
  split <;> rfl

@[simp] theorem handles_trigger (s : Shutdown) : s.trigger.state.handles = s.handles := by
  simp only [trigger]
  split <;> rfl

/-- Where anyone listens, a signal is kept. -/
theorem next_trigger (h : s.due? l = some due) : s.trigger.state.next = s.next + 1 := by
  have hmem : some due ∈ s.listeners := List.mem_of_getElem? (Option.join_eq_some_iff.mp h)
  have hsome : s.receivers ≠ 0 := (List.countP_pos_iff.mpr ⟨some due, hmem, rfl⟩).ne'
  simp only [trigger, if_neg hsome]

/-- **A signal is owed to everyone who listens.** -/
theorem owed?_trigger (hs : s.Sound) (l : Nat) : s.trigger.state.owed? l = (s.owed? l).map (· + 1) := by
  rw [owed?, owed?, due?_trigger]
  cases hl : s.due? l with
  | none => rfl
  | some due =>
    rw [next_trigger hl]
    exact congrArg some (Nat.succ_sub (hs l due hl))

/-! ## Signals that are had -/

/-- **What `receive` comes to** for a listener that is there: it moves on by what it got. -/
theorem receive_eq (hs : s.Sound) (hl : s.due? l = some due) : s.receive l =
    (some (s.reply (s.next - due)),
      { s with listeners := s.listeners.set l (some (due + (s.reply (s.next - due)).signals)) }) := by
  obtain ⟨owed, hnext⟩ := Nat.exists_eq_add_of_le (hs l due hl)
  have howed : s.next - due = owed := by omega
  have hjoin : s.listeners[l]?.join = some due := hl
  simp only [receive, hjoin, howed]
  -- nothing is owed, or the latest signal alone, or others before it that are gone
  match owed with
  | 0 =>
    have hsame : s.listeners.set l (some due) = s.listeners := by
      obtain ⟨hlt, hget⟩ := List.getElem?_eq_some_iff.mp (Option.join_eq_some_iff.mp hl)
      rw [← hget, List.set_getElem_self hlt]
    rw [if_pos (by omega), reply]
    split <;> rw [Received.signals, Nat.add_zero, hsame]
  | 1 =>
    rw [if_neg (by omega), if_pos (by omega), hnext]
    rfl
  | n + 2 =>
    have hlatest : s.next - 1 = due + (n + 1) := by omega
    rw [if_neg (by omega), if_neg (by omega), hlatest, Nat.add_sub_cancel_left]
    rfl

theorem receive_none (hl : s.due? l = none) : s.receive l = (none, s) := by
  have hjoin : s.listeners[l]?.join = none := hl
  simp only [receive, hjoin]

/-- **What a listener gets follows from what it is owed.** -/
theorem receive_fst (hs : s.Sound) (l : Nat) : (s.receive l).1 = (s.owed? l).map s.reply := by
  rw [owed?]
  cases hl : s.due? l with
  | none => rw [receive_none hl]; rfl
  | some due => rw [receive_eq hs hl]; rfl

/-- Nobody gets more signals than it is owed. -/
theorem signals_reply_le (s : Shutdown) (n : Nat) : (s.reply n).signals ≤ n := by
  match n with
  | 0 =>
    rw [reply]
    split <;> exact le_rfl
  | 1 => exact le_rfl
  | n + 2 => exact Nat.le_succ (n + 1)

/-- **A listener is owed what it did not get**, and nobody else is concerned. -/
theorem owed?_receive (hs : s.Sound) (i l : Nat) : (s.receive i).2.owed? l =
    if l = i then (s.owed? i).map (fun n => n - (s.reply n).signals) else s.owed? l := by
  rw [owed?, owed?, owed?]
  cases hi : s.due? i with
  | none =>
    rw [receive_none hi]
    split
    · rename_i hl
      rw [hl, hi]
      rfl
    · rfl
  | some due =>
    have hthere : s.listeners[i]? = some (some due) := Option.join_eq_some_iff.mp hi
    rw [receive_eq hs hi, due?_set, hthere]
    split
    · exact congrArg some (Nat.sub_sub s.next due _).symm
    · rfl

/-! ## No listener gets ahead -/

theorem sound_start : ({} : Shutdown).Sound := by
  intro l due h
  cases h

theorem Sound.subscribe (hs : s.Sound) : s.subscribe.2.Sound := by
  intro l due h
  rw [due?_subscribe] at h
  split at h
  · exact (Option.some.inj h).ge
  · exact hs l due h

theorem Sound.drop (hs : s.Sound) (i : Nat) : (s.drop i).Sound := by
  intro l due h
  rw [due?_drop] at h
  split at h
  · cases h
  · exact hs l due h

theorem Sound.trigger (hs : s.Sound) : s.trigger.state.Sound := by
  intro l due h
  rw [due?_trigger] at h
  rw [next_trigger h]
  exact Nat.le_succ_of_le (hs l due h)

theorem Sound.receive (hs : s.Sound) (i : Nat) : (s.receive i).2.Sound := by
  cases hi : s.due? i with
  | none =>
    rw [receive_none hi]
    exact hs
  | some due =>
    have hthere : s.listeners[i]? = some (some due) := Option.join_eq_some_iff.mp hi
    rw [receive_eq hs hi]
    intro l moved h
    rw [due?_set, hthere] at h
    split at h
    · have hle := signals_reply_le s (s.next - due)
      have hdue := hs i due hi
      have hmoved := Option.some.inj h
      dsimp only
      omega
    · exact hs l moved h

@[simp] theorem handles_receive (s : Shutdown) (l : Nat) : (s.receive l).2.handles = s.handles := by
  rw [receive]
  split
  · rfl
  · dsimp only
    split
    · rfl
    · split <;> rfl

/-! ## Who is counted -/

/-- A list has as many values as indices that have one. -/
theorem countP_isSome_eq_card {α : Type} (as : List (Option α)) :
    as.countP Option.isSome = ((Finset.range as.length).filter fun i => as[i]?.join.isSome).card := by
  induction as using List.reverseRecOn with
  | nil => rfl
  | append_singleton as a ih =>
    have hlast : (as ++ [a])[as.length]?.join = a := by rw [List.getElem?_concat_length]; rfl
    have hinit : ((Finset.range as.length).filter fun i => (as ++ [a])[i]?.join.isSome) =
        (Finset.range as.length).filter fun i => as[i]?.join.isSome :=
      Finset.filter_congr fun i hi => by rw [List.getElem?_append_left (Finset.mem_range.mp hi)]
    rw [List.countP_append, List.length_append, List.length_singleton, Finset.range_add_one,
      Finset.filter_insert, hlast, hinit, ih, List.countP_singleton]
    split
    · exact (Finset.card_insert_of_notMem (by simp)).symm
    · rfl

theorem countP_isSome_eq_ncard {α : Type} (as : List (Option α)) :
    as.countP Option.isSome = {i : Nat | (as[i]?.join).isSome}.ncard := by
  rw [countP_isSome_eq_card, ← Set.ncard_coe_finset]
  congr 1
  ext i
  rw [Finset.mem_coe, Finset.mem_filter, Finset.mem_range, Set.mem_ofPred_eq]
  refine and_iff_right_of_imp fun h => ?_
  by_contra hi
  rw [List.getElem?_eq_none (Nat.le_of_not_lt hi)] at h
  cases h

/-- **Who is counted is who is owed something**, or nothing yet. -/
theorem receivers_eq_ncard (s : Shutdown) : s.receivers = {l | (s.owed? l).isSome}.ncard := by
  simp only [owed?, Option.isSome_map]
  exact countP_isSome_eq_ncard s.listeners

end Shutdown

end RunnerDispatch
