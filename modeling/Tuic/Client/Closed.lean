import Mathlib.Logic.Function.Basic
import Tuic.Transition.System

/-! # The closed flag of a client connection

`IsClosed` (`client/src/relay/connection.rs`): a flag and a list of wakers, which
`manage_connection` and `heartbeat` wait at, and which `listen_incoming` sets once when the
connection ends. The model takes single accesses as steps: a poll loads the flag, and when it is
unset pushes its waker under the mutex of the list; `set` stores the flag, and drains the list under
that mutex.

`noticesClose_sharp` is the exact condition under which a completed `set` leaves no waiter behind:
the list is not drained while a waiter is between its load of the unset flag and its push, unless
that waiter has an earlier waker in the list or a wake pending. -/

namespace Tuic.Client

open Transition

/-- The tasks that wait for the end of a connection. -/
inductive Waiter where
  /-- `manage_connection`, in `new_conn.wait_close().await`. -/
  | manageConnection
  /-- `heartbeat`, in the first branch of its `select!`. -/
  | heartbeat
  deriving DecidableEq, Repr

/-- Where a waiter stands. -/
inductive WaitPc where
  /-- Not in `wait_close()`. -/
  | away
  /-- In `poll`, before the load of the flag. -/
  | load
  /-- The flag was unset; before the push of the waker. -/
  | push
  /-- The poll was pending. -/
  | parked
  /-- The poll was ready. -/
  | ready
  deriving DecidableEq, Repr

/-- Where `set` stands. -/
inductive SetPc where
  /-- Before the store of the flag. -/
  | store
  /-- Before the drain of the list. -/
  | drain
  /-- It has returned. -/
  | finished
  deriving DecidableEq, Repr

/-- `IsClosedInner`. -/
structure IsClosed where
  /-- The flag. -/
  isClosed : Bool
  /-- The wakers of the waiting tasks, one for each poll that was pending. -/
  waker : List Waiter

/-- The flag with the tasks at it. -/
structure Closing where
  /-- What the tasks share. -/
  inner : IsClosed
  /-- Where each waiter stands. -/
  waiters : Waiter → WaitPc
  /-- Where `set` stands. -/
  set : SetPc
  /-- The waiters with a wake pending. -/
  woken : Waiter → Bool

/-- A step at the flag. -/
inductive CloseAction where
  /-- A waiter calls `wait_close()` and polls what it got. -/
  | waitClose (w : Waiter)
  /-- A poll makes its next access. -/
  | poll (w : Waiter)
  /-- A waiter whose poll was pending polls again. -/
  | repoll (w : Waiter)
  /-- The interval of `heartbeat` ticks, and its `select!` drops the other branch. -/
  | tick
  /-- `set` makes its next access. -/
  | set
  deriving DecidableEq, Repr

namespace Closing

/-- A waiter moves on. -/
def move (s : Closing) (w : Waiter) (pc : WaitPc) : Closing :=
  { s with waiters := Function.update s.waiters w pc }

/-- The task of a waiter runs, which uses up a pending wake. -/
def resume (s : Closing) (w : Waiter) (pc : WaitPc) : Closing :=
  { s.move w pc with woken := Function.update s.woken w false }

/-- The effect of an action. -/
def step (s : Closing) : CloseAction → Option Closing
  | .waitClose w => if s.waiters w = .away then some (s.move w .load) else none
  | .poll w =>
    match s.waiters w with
    | .load => some (s.move w (if s.inner.isClosed then .ready else .push))
    | .push => some { s.move w .parked with inner.waker := s.inner.waker ++ [w] }
    | .away | .parked | .ready => none
  | .repoll w => if s.waiters w = .parked then some (s.resume w .load) else none
  | .tick =>
    if s.waiters .heartbeat = .parked then some (s.resume .heartbeat .away) else none
  | .set =>
    match s.set with
    | .store => some { s with inner.isClosed := true, set := .drain }
    | .drain => some { s with
        inner.waker := []
        set := .finished
        woken := fun w => s.woken w || s.inner.waker.contains w }
    | .finished => none

end Closing

/-- The closed flag of one connection. -/
def closingSystem : System Closing CloseAction where
  init := ⟨⟨false, []⟩, fun _ => .away, .store, fun _ => false⟩
  step := Closing.step

namespace Closing

variable {s s' : Closing} {a : CloseAction}

/-- A waiter that is parked with its waker in the list, and no wake pending for it. -/
def Stranded (s : Closing) (w : Waiter) : Prop :=
  s.waiters w = .parked ∧ w ∈ s.inner.waker ∧ s.woken w = false

/-- **The close is noticed**: once `set` has completed, nobody is stranded. -/
def NoticesClose (s : Closing) : Prop := s.set = .finished → ∀ w, ¬ s.Stranded w

/-- Waiter `w` is past its load of the unset flag, before its push, and the next drain of the list
will not wake it. -/
def unregistered (s : Closing) (w : Waiter) : Bool :=
  s.waiters w == .push && !s.inner.waker.contains w && !s.woken w

/-- `set` drains the list while some waiter is in that window. -/
def racingDrain (s : Closing) : CloseAction → Bool
  | .set =>
    s.set == .drain && (s.unregistered .manageConnection || s.unregistered .heartbeat)
  | _ => false

/-! ## What a step does -/

/-- The steps at the flag, one case each. -/
inductive Step (s : Closing) : CloseAction → Closing → Prop where
  /-- A waiter begins to poll. -/
  | waitClose (w : Waiter) (hw : s.waiters w = .away) : Step s (.waitClose w) (s.move w .load)
  /-- A waiter finds the flag set. -/
  | sawSet (w : Waiter) (hw : s.waiters w = .load) (hflag : s.inner.isClosed = true) :
      Step s (.poll w) (s.move w .ready)
  /-- A waiter finds the flag unset. -/
  | sawUnset (w : Waiter) (hw : s.waiters w = .load) (hflag : s.inner.isClosed = false) :
      Step s (.poll w) (s.move w .push)
  /-- A waiter pushes its waker and parks. -/
  | push (w : Waiter) (hw : s.waiters w = .push) :
      Step s (.poll w) { s.move w .parked with inner.waker := s.inner.waker ++ [w] }
  /-- A parked waiter polls once more. -/
  | repoll (w : Waiter) (hw : s.waiters w = .parked) : Step s (.repoll w) (s.resume w .load)
  /-- The tick of `heartbeat` wins against its wait. -/
  | tick (hw : s.waiters .heartbeat = .parked) : Step s .tick (s.resume .heartbeat .away)
  /-- The flag is stored. -/
  | store (hset : s.set = .store) : Step s .set { s with inner.isClosed := true, set := .drain }
  /-- The list is drained. -/
  | drain (hset : s.set = .drain) : Step s .set { s with
      inner.waker := []
      set := .finished
      woken := fun w => s.woken w || s.inner.waker.contains w }

/-- Every step is one of these. -/
theorem step_cases (h : closingSystem.step s a = some s') : Step s a s' := by
  have h : s.step a = some s' := h
  cases a with
  | waitClose w =>
    simp only [step] at h
    split at h
    · rename_i hw
      cases h
      exact .waitClose w hw
    · cases h
  | poll w =>
    simp only [step] at h
    split at h
    · rename_i hw
      cases h
      by_cases hflag : s.inner.isClosed = true
      · rw [if_pos hflag]
        exact .sawSet w hw hflag
      · rw [if_neg hflag]
        exact .sawUnset w hw (by simpa using hflag)
    · rename_i hw
      cases h
      exact .push w hw
    all_goals cases h
  | repoll w =>
    simp only [step] at h
    split at h
    · rename_i hw
      cases h
      exact .repoll w hw
    · cases h
  | tick =>
    simp only [step] at h
    split at h
    · rename_i hw
      cases h
      exact .tick hw
    · cases h
  | set =>
    simp only [step] at h
    split at h
    · rename_i hset
      cases h
      exact .store hset
    · rename_i hset
      cases h
      exact .drain hset
    · cases h

/-- Where the waiter that moved stands now, and that the others stay. -/
theorem move_cases {w v : Waiter} {pc pc' : WaitPc} (h : (s.move w pc).waiters v = pc') :
    (v = w ∧ pc' = pc) ∨ v ≠ w ∧ s.waiters v = pc' := by
  have h : Function.update s.waiters w pc v = pc' := h
  by_cases hv : v = w
  · rw [hv, Function.update_self] at h
    exact Or.inl ⟨hv, h.symm⟩
  · rw [Function.update_of_ne hv] at h
    exact Or.inr ⟨hv, h⟩

/-! ## The invariant -/

/-- What holds in every state of a run without racing drains. -/
structure Covered (s : Closing) : Prop where
  /-- A parked waiter has its waker in the list or a wake pending. -/
  registered : ∀ w, s.waiters w = .parked → w ∈ s.inner.waker ∨ s.woken w = true
  /-- Past its first access `set` has set the flag. -/
  stored : s.set ≠ .store → s.inner.isClosed = true
  /-- Once `set` has completed, a waiter that is parked or about to be has a wake pending. -/
  awake : s.set = .finished → ∀ w, s.waiters w = .push ∨ s.waiters w = .parked → s.woken w = true

/-- A waiter that moves on without parking leaves everybody as well covered as before, as long as it
does not pass the load of a set flag. -/
theorem Covered.move (hc : s.Covered) {w : Waiter} {pc : WaitPc} (hpark : pc ≠ .parked)
    (hpush : pc = .push → s.inner.isClosed = false) : (s.move w pc).Covered where
  registered v hv := by
    rcases move_cases hv with ⟨-, hpc⟩ | ⟨-, hv⟩
    · exact absurd hpc.symm hpark
    · exact hc.registered v hv
  stored := hc.stored
  awake hset v hv := by
    have hset : s.set = .finished := hset
    have hflag : s.inner.isClosed = true := hc.stored (by rw [hset]; decide)
    rcases hv with hv | hv
    · rcases move_cases hv with ⟨-, hpc⟩ | ⟨-, hv⟩
      · rw [hpush hpc.symm] at hflag
        cases hflag
      · exact hc.awake hset v (Or.inl hv)
    · rcases move_cases hv with ⟨-, hpc⟩ | ⟨-, hv⟩
      · exact absurd hpc.symm hpark
      · exact hc.awake hset v (Or.inr hv)

/-- So does one that runs again: only its own wake is used up. -/
theorem Covered.resume (hc : s.Covered) {w : Waiter} {pc : WaitPc} (hpc : pc = .load ∨ pc = .away) :
    (s.resume w pc).Covered := by
  -- a waiter that is parked or about to be is another one
  have hother : ∀ {v pc'}, (s.resume w pc).waiters v = pc' → pc' = .push ∨ pc' = .parked →
      v ≠ w ∧ s.waiters v = pc' := by
    intro v pc' hv hpc'
    have hv : (s.move w pc).waiters v = pc' := hv
    rcases move_cases hv with ⟨-, rfl⟩ | hv
    · rcases hpc with rfl | rfl <;> rcases hpc' with h | h <;> cases h
    · exact hv
  have hwoken : ∀ {v}, v ≠ w → (s.resume w pc).woken v = s.woken v :=
    fun hne => Function.update_of_ne hne _ _
  refine ⟨fun v hv => ?_, hc.stored, fun hset v hv => ?_⟩
  · obtain ⟨hne, hv⟩ := hother hv (Or.inr rfl)
    rw [hwoken hne]
    exact hc.registered v hv
  · rcases hv with hv | hv
    · obtain ⟨hne, hv⟩ := hother hv (Or.inl rfl)
      rw [hwoken hne]
      exact hc.awake hset v (Or.inl hv)
    · obtain ⟨hne, hv⟩ := hother hv (Or.inr rfl)
      rw [hwoken hne]
      exact hc.awake hset v (Or.inr hv)

/-- A waiter in the window is found by `racingDrain`. -/
theorem registered_of_not_racing (hset : s.set = .drain) (hrace : s.racingDrain .set = false)
    {w : Waiter} (hw : s.waiters w = .push) : w ∈ s.inner.waker ∨ s.woken w = true := by
  have hno : s.unregistered w = false := by
    simp only [racingDrain, hset, beq_self_eq_true, Bool.true_and, Bool.or_eq_false_iff] at hrace
    cases w with
    | manageConnection => exact hrace.1
    | heartbeat => exact hrace.2
  by_contra hnot
  rw [not_or] at hnot
  simp [unregistered, hw, hnot.1, hnot.2] at hno

/-- **Every step that is not a racing drain keeps the waiters covered.** -/
theorem Covered.step (hc : s.Covered) (h : Step s a s') (hrace : s.racingDrain a = false) :
    s'.Covered := by
  cases h with
  | waitClose w hw => exact hc.move (by decide) fun hpc => by cases hpc
  | sawSet w hw hflag => exact hc.move (by decide) fun hpc => by cases hpc
  | sawUnset w hw hflag => exact hc.move (by decide) fun _ => hflag
  | repoll w hw => exact hc.resume (Or.inl rfl)
  | tick hw => exact hc.resume (Or.inr rfl)
  -- the waiter was awake before its push, and a pending wake is not lost by it
  | push w hw =>
    refine ⟨fun v hv => ?_, hc.stored, fun hset v hv => ?_⟩
    · rcases move_cases hv with ⟨rfl, -⟩ | ⟨-, hv⟩
      · exact Or.inl (List.mem_append_right _ (List.mem_singleton_self _))
      · exact (hc.registered v hv).imp_left (List.mem_append_left _)
    · have hpending : s.woken w = true := hc.awake hset w (Or.inl hw)
      rcases hv with hv | hv
      · rcases move_cases hv with ⟨-, hpc⟩ | ⟨-, hv⟩
        · cases hpc
        · exact hc.awake hset v (Or.inl hv)
      · rcases move_cases hv with ⟨rfl, -⟩ | ⟨-, hv⟩
        · exact hpending
        · exact hc.awake hset v (Or.inr hv)
  | store hset => exact ⟨hc.registered, fun _ => rfl, fun hfin => by cases hfin⟩
  -- the drain wakes everybody in the list; who is not in it yet has a wake pending by `hrace`
  | drain hset =>
    have hwake : ∀ {w}, w ∈ s.inner.waker ∨ s.woken w = true →
        (s.woken w || s.inner.waker.contains w) = true := by
      intro w hw
      rw [Bool.or_eq_true, List.contains_iff_mem]
      exact hw.symm
    refine ⟨fun w hw => Or.inr (hwake (hc.registered w hw)),
      fun _ => hc.stored (by rw [hset]; decide), fun _ w hw => hwake ?_⟩
    rcases hw with hw | hw
    · exact registered_of_not_racing hset hrace hw
    · exact hc.registered w hw

/-- The invariant in every state of a run without racing drains. -/
theorem covered_of_reachable
    (h : closingSystem.ReachableBy (fun s a => s.racingDrain a = false) s) : s.Covered := by
  refine h.invariant ⟨fun w hw => ?_, fun hset => absurd rfl hset, fun hset => ?_⟩
    fun s a s' _ hc hrace hstep => hc.step (step_cases hstep) hrace
  · cases hw
  · cases hset

/-- **The close is noticed, exactly.** In every run in which `set` does not drain the list while
some waiter is between its load of the unset flag and its push, a completed `set` strands nobody.
And from every state in which it does, one more step, the push of that waiter, strands it. -/
theorem noticesClose_sharp (s : Closing) :
    (closingSystem.ReachableBy (fun s a => s.racingDrain a = false) s → s.NoticesClose) ∧
    (∀ a s', closingSystem.Reachable s → s.racingDrain a = true →
      closingSystem.step s a = some s' →
      ∃ w s'', closingSystem.step s' (.poll w) = some s'' ∧ ¬ s''.NoticesClose) := by
  constructor
  · rintro hs hset w ⟨hw, -, hpending⟩
    rw [(covered_of_reachable hs).awake hset w (Or.inr hw)] at hpending
    cases hpending
  · intro a s' _ hrace hstep
    unfold racingDrain at hrace
    split at hrace
    · rw [Bool.and_eq_true, beq_iff_eq] at hrace
      obtain ⟨hset, hany⟩ := hrace
      obtain ⟨w, hw⟩ : ∃ w, s.unregistered w = true := by
        rcases Bool.or_eq_true_iff.mp hany with hw | hw
        · exact ⟨_, hw⟩
        · exact ⟨_, hw⟩
      simp only [unregistered, Bool.and_eq_true, beq_iff_eq, Bool.not_eq_true'] at hw
      obtain ⟨⟨hpush, hlist⟩, hwoken⟩ := hw
      have hstep : s.step .set = some s' := hstep
      rw [step, hset] at hstep
      cases hstep
      -- the drain did not reach the waiter, and nothing keeps it from pushing after it
      refine ⟨w, _, by show Closing.step _ (.poll w) = _; rw [step, hpush], fun hno => ?_⟩
      refine hno rfl w ⟨Function.update_self _ _ _, List.mem_singleton_self _, ?_⟩
      show (s.woken w || s.inner.waker.contains w) = false
      rw [hwoken, hlist]
      rfl
    · cases hrace

/-- `set` runs between the load and the push of `manage_connection`. -/
theorem not_noticesClose : ¬ ∀ s, closingSystem.Reachable s → s.NoticesClose := by
  intro hall
  obtain ⟨s, hs, hbad⟩ := System.exists_reachable_of_run closingSystem
    [.waitClose .manageConnection, .poll .manageConnection, .set, .set, .poll .manageConnection]
    (fun s : Closing => decide (s.set = .finished ∧ s.waiters .manageConnection = .parked ∧
      .manageConnection ∈ s.inner.waker ∧ s.woken .manageConnection = false)) (by decide)
  obtain ⟨hset, hstranded⟩ := of_decide_eq_true hbad
  exact hall s hs hset _ hstranded

end Closing

end Tuic.Client
