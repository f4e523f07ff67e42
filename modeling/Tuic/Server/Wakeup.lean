import Tuic.Server.Authenticate
import Tuic.Transition.System
import Tuic.Transition.Pool

/-! # Wake-ups at the authentication barrier

The barrier under interleaving of its single atomic accesses (`wakeupSystem`): any number of tasks
poll `IsAuthenticated`, any number of tasks take the success path (store the flag, then drain the
list of wakers), the failure path and the timeout drain the list at any time, and the connection may
be closed at any time.

`noLostWakeup_sharp` is the exact condition under which a completed success path leaves no task
behind: no drain of a success path falls between a poller's load of the unset flag and its push,
unless that poller has an earlier waker in the list or a wake pending. The flag is tested outside
the mutex of the list, so nothing in the code enforces it. -/

namespace Tuic.Server

open Transition

/-- Where a success path stands: `set_authenticated()`, then `wake()`. -/
inductive SetPc where
  /-- Before the store of the flag. -/
  | store
  /-- Before the drain of the list. -/
  | drain
  /-- Both are done. -/
  | finished
  deriving DecidableEq, Repr

/-- The barrier and the tasks at it. A poller is named, and its waker is given, by its index. -/
structure Wakeup where
  /-- The shared flags and the list of wakers. -/
  barrier : IsAuthenticated Nat
  /-- The polling tasks. -/
  pollers : List PollPc
  /-- The tasks on the success path. -/
  setters : List SetPc
  /-- The pollers with a wake pending. -/
  woken : List Nat

/-- A step at the barrier. -/
inductive WakeupAction where
  /-- A task begins to poll. -/
  | start
  /-- A poll makes its next access. -/
  | poll (i : Nat)
  /-- A task whose poll was pending polls again: it was woken, or another branch of its `select!`
  was. -/
  | repoll (i : Nat)
  /-- A task enters the success path. -/
  | authenticate
  /-- A success path makes its next access. -/
  | set (j : Nat)
  /-- A failed authentication or the timeout drains the list. -/
  | wake
  /-- The connection ends. -/
  | close
  deriving DecidableEq, Repr

namespace Wakeup

/-- Drain the list and wake what was in it. -/
def drain (s : Wakeup) : Wakeup :=
  { s with barrier := s.barrier.wake.1, woken := s.barrier.wake.2 ++ s.woken }

/-- The effect of an action. -/
def step (s : Wakeup) : WakeupAction → Option Wakeup
  | .start => some { s with pollers := s.pollers ++ [.loadClosed] }
  | .poll i =>
    match s.pollers[i]? with
    | none => none
    | some pc =>
      match s.barrier.pollStep i pc with
      | none => none
      | some (barrier, pc) => some { s with barrier := barrier, pollers := s.pollers.set i pc }
  | .repoll i =>
    if s.pollers[i]? = some .parked then
      some { s with
        pollers := s.pollers.set i .loadClosed
        woken := s.woken.filter (· ≠ i) }
    else none
  | .authenticate => some { s with setters := s.setters ++ [.store] }
  -- `set_authenticated()` and `wake()` are two calls, and other tasks may run between them
  | .set j =>
    match s.setters[j]? with
    | some .store =>
      some { s with barrier := s.barrier.setAuthenticated, setters := s.setters.set j .drain }
    | some .drain => some { s.drain with setters := s.setters.set j .finished }
    | _ => none
  | .wake => some s.drain
  | .close =>
    some { s with
      barrier := s.barrier.setClosed.1
      woken := s.barrier.setClosed.2 ++ s.woken }

end Wakeup

/-- The barrier of a connection, with everything that goes on at it. -/
def wakeupSystem : System Wakeup WakeupAction where
  init := ⟨.new .new, [], [], []⟩
  step := Wakeup.step

namespace Wakeup

variable {s s' : Wakeup} {a : WakeupAction}

/-- Some success path has completed: the flag was set, and the list drained after that. -/
def Completed (s : Wakeup) : Prop := .finished ∈ s.setters

/-- A parked task that no wake is pending for. -/
def Stranded (s : Wakeup) (i : Nat) : Prop :=
  s.pollers[i]? = some .parked ∧ i ∈ s.barrier.broadcast ∧ i ∉ s.woken

/-- **No lost wake-up**: once a success path has completed, and while the connection is not closed,
no task is parked in the list without a wake pending. -/
def NoLostWakeup (s : Wakeup) : Prop :=
  s.Completed → s.barrier.isConnectionClosed.check = false → ∀ i, ¬ s.Stranded i

/-- Poller `i` is past its load of the unset flag, before its push, and the next drain of the list
will not wake it. -/
def unregistered (s : Wakeup) (i : Nat) : Bool :=
  s.pollers[i]? == some .push && !s.barrier.broadcast.contains i && !s.woken.contains i

/-- A success path drains the list of an open connection while some poller is in that window. -/
def racingDrain (s : Wakeup) : WakeupAction → Bool
  | .set j =>
    s.setters[j]? == some .drain && !s.barrier.isConnectionClosed.check &&
      (List.range s.pollers.length).any s.unregistered
  | _ => false

/-! ## What a step does -/

/-- The steps at the barrier, one case each. -/
inductive Step (s : Wakeup) : WakeupAction → Wakeup → Prop where
  /-- A task begins to poll. -/
  | start : Step s .start { s with pollers := s.pollers ++ [.loadClosed] }
  /-- A poller finds the connection closed. -/
  | sawClosed (i : Nat) (hi : s.pollers[i]? = some .loadClosed) :
      Step s (.poll i) { s with pollers := s.pollers.set i (.ready false) }
  /-- A poller finds the connection open. -/
  | sawOpen (i : Nat) (hi : s.pollers[i]? = some .loadClosed) :
      Step s (.poll i) { s with pollers := s.pollers.set i .loadAuthenticated }
  /-- A poller finds the flag set. -/
  | sawSet (i : Nat) (hi : s.pollers[i]? = some .loadAuthenticated) :
      Step s (.poll i) { s with pollers := s.pollers.set i (.ready true) }
  /-- A poller finds the flag unset. -/
  | sawUnset (i : Nat) (hi : s.pollers[i]? = some .loadAuthenticated)
      (hflag : s.barrier.isAuthenticated = false) :
      Step s (.poll i) { s with pollers := s.pollers.set i .push }
  /-- A poller pushes its waker and parks. -/
  | push (i : Nat) (hi : s.pollers[i]? = some .push) :
      Step s (.poll i) { s with
        barrier := { s.barrier with broadcast := s.barrier.broadcast ++ [i] }
        pollers := s.pollers.set i .parked }
  /-- A parked task polls again, which uses up a pending wake. -/
  | repoll (i : Nat) (hi : s.pollers[i]? = some .parked) :
      Step s (.repoll i) { s with
        pollers := s.pollers.set i .loadClosed
        woken := s.woken.filter (· ≠ i) }
  /-- A task enters the success path. -/
  | authenticate : Step s .authenticate { s with setters := s.setters ++ [.store] }
  /-- A success path stores the flag. -/
  | store (j : Nat) (hj : s.setters[j]? = some .store) :
      Step s (.set j) { s with
        barrier := s.barrier.setAuthenticated
        setters := s.setters.set j .drain }
  /-- A success path drains the list. -/
  | drain (j : Nat) (hj : s.setters[j]? = some .drain) :
      Step s (.set j) { s.drain with setters := s.setters.set j .finished }
  /-- Some other path drains the list. -/
  | wake : Step s .wake s.drain
  /-- The connection ends. -/
  | close : Step s .close { s with
      barrier := s.barrier.setClosed.1
      woken := s.barrier.setClosed.2 ++ s.woken }

/-- Every step is one of these. -/
theorem step_cases (h : wakeupSystem.step s a = some s') : Step s a s' := by
  have h : s.step a = some s' := h
  cases a with
  | start =>
    cases h
    exact .start
  | poll i =>
    simp only [step] at h
    split at h
    · cases h
    rename_i pc hi
    cases pc with
    | loadClosed =>
      simp only [IsAuthenticated.pollStep] at h
      split at h
      · cases h
      · rename_i hp
        split at hp
        · cases hp
          cases h
          exact .sawClosed i hi
        · cases hp
          cases h
          exact .sawOpen i hi
    | loadAuthenticated =>
      simp only [IsAuthenticated.pollStep] at h
      split at h
      · cases h
      · rename_i hp
        split at hp
        · cases hp
          cases h
          exact .sawSet i hi
        · rename_i hflag
          cases hp
          cases h
          exact .sawUnset i hi (by simpa using hflag)
    | push =>
      cases h
      exact .push i hi
    | parked => cases h
    | ready b => cases h
  | repoll i =>
    simp only [step] at h
    split at h
    · rename_i hi
      cases h
      exact .repoll i hi
    · cases h
  | authenticate =>
    cases h
    exact .authenticate
  | set j =>
    simp only [step] at h
    split at h
    · rename_i hj
      cases h
      exact .store j hj
    · rename_i hj
      cases h
      exact .drain j hj
    · cases h
  | wake =>
    cases h
    exact .wake
  | close =>
    cases h
    exact .close

/-! ## The invariant -/

/-- A parked task has its waker in the list or a wake pending. -/
def Registered (s : Wakeup) : Prop :=
  All (fun i pc => pc = .parked → i ∈ s.barrier.broadcast ∨ i ∈ s.woken) s.pollers

/-- A success path past its store has set the flag. -/
def Stored (s : Wakeup) : Prop :=
  ∀ pc ∈ s.setters, pc ≠ .store → s.barrier.isAuthenticated = true

/-- Once a success path has completed on an open connection, every poller that is parked or about to
be has a wake pending. -/
def Awake (s : Wakeup) : Prop :=
  s.barrier.isConnectionClosed.check = false → s.Completed →
    All (fun i pc => pc = .push ∨ pc = .parked → i ∈ s.woken) s.pollers

/-- Every step keeps parked tasks registered. -/
theorem Registered.step (hr : s.Registered) (h : Step s a s') : s'.Registered := by
  cases h with
  | start => exact All.spawn hr (fun hpc => by cases hpc) fun _ _ _ hp => hp
  | sawClosed i hi => exact All.set hr (fun hpc => by cases hpc) fun _ _ _ _ hp => hp
  | sawOpen i hi => exact All.set hr (fun hpc => by cases hpc) fun _ _ _ _ hp => hp
  | sawSet i hi => exact All.set hr (fun hpc => by cases hpc) fun _ _ _ _ hp => hp
  | sawUnset i hi hflag => exact All.set hr (fun hpc => by cases hpc) fun _ _ _ _ hp => hp
  | push i hi =>
    refine All.set hr (fun _ => Or.inl (by simp)) fun j pc _ _ hp hpc => ?_
    exact (hp hpc).imp_left fun hb => List.mem_append_left _ hb
  | repoll i hi =>
    -- only the wake of the task that polls is used up
    refine All.set hr (fun hpc => by cases hpc) fun j pc hne _ hp hpc => ?_
    exact (hp hpc).imp_right fun hw => List.mem_filter.mpr ⟨hw, by simpa using hne⟩
  | authenticate => exact hr
  | store j hj => exact hr
  | drain j hj => exact hr.mono fun i pc _ hp hpc => Or.inr (List.mem_append.mpr (hp hpc))
  | wake => exact hr.mono fun i pc _ hp hpc => Or.inr (List.mem_append.mpr (hp hpc))
  | close => exact hr.mono fun i pc _ hp hpc => (hp hpc).imp_right (List.mem_append_right _)

/-- Every step keeps the flag set for those who set it. -/
theorem Stored.step (hst : s.Stored) (h : Step s a s') : s'.Stored := by
  cases h with
  | authenticate =>
    intro pc hpc hne
    rcases List.mem_append.mp hpc with hpc | hpc
    · exact hst pc hpc hne
    · exact absurd (List.mem_singleton.mp hpc) hne
  | store j hj => exact fun _ _ _ => rfl
  | drain j hj =>
    have hflag : s.barrier.isAuthenticated = true :=
      hst .drain (List.mem_of_getElem? hj) (by decide)
    exact fun _ _ _ => hflag
  | start => exact hst
  | sawClosed i hi => exact hst
  | sawOpen i hi => exact hst
  | sawSet i hi => exact hst
  | sawUnset i hi hflag => exact hst
  | push i hi => exact hst
  | repoll i hi => exact hst
  | wake => exact hst
  | close => exact hst

/-- A poller in the window is found by `racingDrain`. -/
theorem registered_of_not_racing {i j : Nat} (hj : s.setters[j]? = some .drain)
    (hopen : s.barrier.isConnectionClosed.check = false) (hrace : s.racingDrain (.set j) = false)
    (hi : s.pollers[i]? = some .push) : i ∈ s.barrier.broadcast ∨ i ∈ s.woken := by
  by_contra hnot
  rw [not_or] at hnot
  have hany : (List.range s.pollers.length).any s.unregistered = true :=
    List.any_eq_true.mpr ⟨i, List.mem_range.mpr (List.getElem?_eq_some_iff.mp hi).1, by
      simp [unregistered, hi, hnot.1, hnot.2]⟩
  simp [racingDrain, hj, hopen, hany] at hrace

/-- Every step that is not a racing drain keeps the pollers awake. -/
theorem Awake.step (haw : s.Awake) (hr : s.Registered) (hst : s.Stored) (h : Step s a s')
    (hrace : s.racingDrain a = false) : s'.Awake := by
  cases h with
  | start =>
    exact fun ho hc => All.spawn (haw ho hc) (by rintro (hpc | hpc) <;> cases hpc)
      fun _ _ _ hp => hp
  | sawClosed i hi =>
    exact fun ho hc => All.set (haw ho hc) (by rintro (hpc | hpc) <;> cases hpc)
      fun _ _ _ _ hp => hp
  | sawOpen i hi =>
    exact fun ho hc => All.set (haw ho hc) (by rintro (hpc | hpc) <;> cases hpc)
      fun _ _ _ _ hp => hp
  | sawSet i hi =>
    exact fun ho hc => All.set (haw ho hc) (by rintro (hpc | hpc) <;> cases hpc)
      fun _ _ _ _ hp => hp
  | sawUnset i hi hflag =>
    -- after a completed success path no load finds the flag unset
    intro _ hc
    rw [hst .finished hc (by decide)] at hflag
    cases hflag
  -- the poller was awake before its push, and a pending wake is not lost by it
  | push i hi =>
    exact fun ho hc => All.set (haw ho hc) (fun _ => haw ho hc i .push hi (Or.inl rfl))
      fun _ _ _ _ hp => hp
  | repoll i hi =>
    refine fun ho hc => All.set (haw ho hc) (by rintro (hpc | hpc) <;> cases hpc)
      fun j pc hne _ hp hpc => ?_
    exact List.mem_filter.mpr ⟨hp hpc, by simpa using hne⟩
  | authenticate =>
    intro ho hc
    refine haw ho ?_
    rcases List.mem_append.mp hc with hc | hc
    · exact hc
    · cases List.mem_singleton.mp hc
  | store j hj =>
    intro ho hc
    refine haw ho ?_
    rcases List.mem_or_eq_of_mem_set hc with hc | hc
    · exact hc
    · cases hc
  -- the drain wakes everybody in the list; who is not in it yet has a wake pending by `hrace`
  | drain j hj =>
    intro ho hc i pc hi hpc
    refine List.mem_append.mpr ?_
    rcases hpc with rfl | rfl
    · exact registered_of_not_racing hj ho hrace hi
    · exact hr i _ hi rfl
  | wake =>
    exact fun ho hc => (haw ho hc).mono fun i pc _ hp hpc => List.mem_append_right _ (hp hpc)
  | close =>
    intro ho
    cases ho

/-- The invariant in every state of a run without racing drains. -/
theorem covered_of_reachable
    (h : wakeupSystem.ReachableBy (fun s a => s.racingDrain a = false) s) :
    s.Registered ∧ s.Stored ∧ s.Awake := by
  refine h.invariant (I := fun s => s.Registered ∧ s.Stored ∧ s.Awake) ⟨All.nil, ?_, ?_⟩ ?_
  · intro pc hpc
    cases hpc
  · exact fun _ _ => All.nil
  · rintro s a s' - ⟨hr, hst, haw⟩ hrace hstep
    have hcases := step_cases hstep
    exact ⟨hr.step hcases, hst.step hcases, haw.step hr hst hcases hrace⟩

/-- A success path can drain the list at any time. -/
theorem step_drain {j : Nat} (hj : s.setters[j]? = some .drain) :
    wakeupSystem.step s (.set j) = some { s.drain with setters := s.setters.set j .finished } := by
  show s.step (.set j) = _
  rw [step, hj]

/-- A poller past both loads pushes its waker, whatever the flags are by now. -/
theorem step_push {i : Nat} (hi : s.pollers[i]? = some .push) :
    wakeupSystem.step s (.poll i) = some { s with
      barrier := { s.barrier with broadcast := s.barrier.broadcast ++ [i] }
      pollers := s.pollers.set i .parked } := by
  show s.step (.poll i) = _
  rw [step, hi]
  rfl

/-- **No lost wake-up, exactly.** In every run in which no success path drains the list while some
poller is between its load of the unset flag and its push, a completed success path leaves no task
parked without a wake. And from every reachable state in which one does, one more step, the push of
that poller, strands it. -/
theorem noLostWakeup_sharp (s : Wakeup) :
    (wakeupSystem.ReachableBy (fun s a => s.racingDrain a = false) s → s.NoLostWakeup) ∧
    (∀ a s', wakeupSystem.Reachable s → s.racingDrain a = true →
      wakeupSystem.step s a = some s' →
      ∃ i s'', wakeupSystem.step s' (.poll i) = some s'' ∧ ¬ s''.NoLostWakeup) := by
  constructor
  · rintro hs hc hopen i ⟨hi, -, hw⟩
    exact hw ((covered_of_reachable hs).2.2 hopen hc i _ hi (Or.inr rfl))
  · intro a s' _ hrace hstep
    unfold racingDrain at hrace
    split at hrace
    · rename_i j
      simp only [Bool.and_eq_true, beq_iff_eq, List.any_eq_true, Bool.not_eq_true', unregistered]
        at hrace
      obtain ⟨⟨hj, hopen⟩, i, -, ⟨hi, hb⟩, hw⟩ := hrace
      rw [step_drain hj] at hstep
      cases hstep
      -- the drain did not reach the poller, and nothing keeps it from pushing after it
      refine ⟨i, _, step_push hi, fun hno => ?_⟩
      have hcompleted : .finished ∈ s.setters.set j .finished :=
        List.mem_set (List.getElem?_eq_some_iff.mp hj).1 _
      refine hno hcompleted hopen i ⟨?_, by simp, ?_⟩
      · exact getElem?_set_of_some hi
      · intro hmem
        have hmem : i ∈ s.barrier.broadcast ++ s.woken := hmem
        simp only [List.contains_eq_mem, decide_eq_false_iff_not] at hb hw
        exact (List.mem_append.mp hmem).elim hb hw
    · cases hrace

/-- The flag is stored and the list drained between the load and the push of one poller. -/
theorem not_noLostWakeup : ¬ ∀ s, wakeupSystem.Reachable s → s.NoLostWakeup := by
  intro hall
  obtain ⟨s, hs, hbad⟩ := System.exists_reachable_of_run wakeupSystem
    [.start, .poll 0, .poll 0, .authenticate, .set 0, .set 0, .poll 0]
    (fun s : Wakeup => decide (SetPc.finished ∈ s.setters ∧
      s.barrier.isConnectionClosed.check = false ∧ s.pollers[0]? = some PollPc.parked ∧
      0 ∈ s.barrier.broadcast ∧ 0 ∉ s.woken)) (by decide)
  obtain ⟨hc, hopen, hi, hb, hw⟩ := of_decide_eq_true hbad
  exact hall s hs hc hopen 0 ⟨hi, hb, hw⟩

end Wakeup

end Tuic.Server
