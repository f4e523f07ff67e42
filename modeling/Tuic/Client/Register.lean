import Mathlib.Tactic.ByContra
import Tuic.Transition.System

/-! # Requests and the connection manager

`Register` and `Wait` (`client/src/relay/request.rs`): `listen_requests` clones its `Register` for
every request, and `manage_connection` waits until there is one by looking at the strong count of
the `Arc` inside. The model takes single accesses as steps: `Wait::poll` reads the count, upgrades
its weak reference, stores the waker under the mutex and drops the reference again;
`Register::clone` clones the `Arc`, and takes the waker out under the mutex and wakes it; a request
drops its `Register` when it ends.

`requestWakes_sharp` is the exact condition under which a request never finds the manager asleep: no
clone takes the waker between the manager's read of the count and its store of the waker, unless an
earlier waker is still there or a wake is pending. -/

namespace Tuic.Client

open Transition

/-- Where the manager stands with its `Wait`. -/
inductive WaitReqPc where
  /-- Not in `wait_req.clone().await`. -/
  | away
  /-- In `poll`, before the read of the strong count. -/
  | read
  /-- The count was one; before the upgrade. -/
  | upgrade
  /-- It holds a strong reference; before the store of the waker. -/
  | store
  /-- The waker is stored; before the strong reference is dropped. -/
  | release
  /-- The poll was pending. -/
  | parked
  deriving DecidableEq, Repr

/-- Where `listen_requests` stands. -/
inductive ListenPc where
  /-- Waiting for a request. -/
  | idle
  /-- In `reg.clone()`: the `Arc` is cloned, the waker not yet taken. -/
  | taking
  deriving DecidableEq, Repr

/-- The strong references of a poll in progress. -/
def WaitReqPc.refs : WaitReqPc → Nat
  | .away | .read | .upgrade | .parked => 0
  | .store | .release => 1

/-- The strong references of a clone in progress. -/
def ListenPc.refs : ListenPc → Nat
  | .idle => 0
  | .taking => 1

/-- A `Register` and a `Wait` on it, with the tasks that hold them. -/
structure Registry where
  /-- The strong count of the `Arc`. -/
  strongCount : Nat
  /-- Whether the waker of the manager is in the mutex. -/
  waker : Bool
  /-- The requests that hold a `Register`. -/
  requests : Nat
  /-- `listen_requests`, which holds one too. -/
  listener : ListenPc
  /-- `manage_connection`. -/
  manager : WaitReqPc
  /-- Whether a wake is pending for the manager. -/
  woken : Bool
  deriving DecidableEq, Repr

/-- A step of one of the tasks. -/
inductive RegistryAction where
  /-- A request comes in, and the `Arc` is cloned for it. -/
  | clone
  /-- The clone takes the waker and wakes it; the task of the request is spawned. -/
  | take
  /-- A request ends, and its `Register` is dropped. -/
  | finish
  /-- The manager awaits its `Wait`. -/
  | wait
  /-- The poll makes its next access. -/
  | poll
  /-- The manager polls again. -/
  | repoll
  deriving DecidableEq, Repr

namespace Registry

/-- One access of `Wait::poll`. -/
def pollStep (s : Registry) : Option Registry :=
  match s.manager with
  | .read =>
    some { s with manager := if s.strongCount > 1 then .away else .upgrade }
  -- without a strong reference left there would be nothing to store the waker in
  | .upgrade =>
    if s.strongCount = 0 then some { s with manager := .parked }
    else some { s with strongCount := s.strongCount + 1, manager := .store }
  | .store => some { s with waker := true, manager := .release }
  | .release => some { s with strongCount := s.strongCount - 1, manager := .parked }
  | .away | .parked => none

/-- The effect of an action. -/
def step (s : Registry) : RegistryAction → Option Registry
  | .clone =>
    match s.listener with
    | .idle => some { s with strongCount := s.strongCount + 1, listener := .taking }
    | .taking => none
  | .take =>
    match s.listener with
    | .taking => some { s with
        waker := false
        woken := s.woken || s.waker
        requests := s.requests + 1
        listener := .idle }
    | .idle => none
  | .finish =>
    match s.requests with
    | n + 1 => some { s with strongCount := s.strongCount - 1, requests := n }
    | 0 => none
  | .wait => if s.manager = .away then some { s with manager := .read } else none
  | .poll => s.pollStep
  | .repoll =>
    if s.manager = .parked then some { s with manager := .read, woken := false } else none

end Registry

/-- The registry of the client, from `Register::new()` on. -/
def registrySystem : System Registry RegistryAction where
  init := ⟨1, false, 0, .idle, .away, false⟩
  step := Registry.step

namespace Registry

variable {s s' : Registry} {a : RegistryAction}

/-- Whether the manager is inside `Wait::poll`. -/
def polling (s : Registry) : Bool :=
  match s.manager with
  | .read | .upgrade | .store | .release => true
  | .away | .parked => false

/-- **A request wakes the manager**: when some request holds a `Register`, and neither a clone nor a
poll is in progress, the manager is not parked without a wake pending. -/
def RequestWakes (s : Registry) : Prop :=
  0 < s.requests → s.listener = .idle → s.polling = false →
    ¬ (s.manager = .parked ∧ s.woken = false)

/-- A clone takes the waker while the manager has read the count and not stored its waker yet, with
no earlier waker to take and no wake pending. -/
def racingTake (s : Registry) : RegistryAction → Bool
  | .take =>
    s.listener == .taking && (s.manager == .upgrade || s.manager == .store) && !s.waker && !s.woken
  | _ => false

/-! ## What a step does -/

/-- The steps of the registry, one case each. -/
inductive Step (s : Registry) : RegistryAction → Registry → Prop where
  /-- The `Arc` is cloned. -/
  | clone (hl : s.listener = .idle) :
      Step s .clone { s with strongCount := s.strongCount + 1, listener := .taking }
  /-- The waker is taken. -/
  | take (hl : s.listener = .taking) :
      Step s .take { s with
        waker := false
        woken := s.woken || s.waker
        requests := s.requests + 1
        listener := .idle }
  /-- A request ends. -/
  | finish (n : Nat) (hn : s.requests = n + 1) :
      Step s .finish { s with strongCount := s.strongCount - 1, requests := n }
  /-- The manager begins to wait. -/
  | wait (hm : s.manager = .away) : Step s .wait { s with manager := .read }
  /-- The manager finds a request. -/
  | found (hm : s.manager = .read) (hcount : 1 < s.strongCount) :
      Step s .poll { s with manager := .away }
  /-- The manager finds none. -/
  | foundNone (hm : s.manager = .read) (hcount : s.strongCount ≤ 1) :
      Step s .poll { s with manager := .upgrade }
  /-- The `Register` is gone altogether. -/
  | gone (hm : s.manager = .upgrade) (hcount : s.strongCount = 0) :
      Step s .poll { s with manager := .parked }
  /-- The weak reference is upgraded. -/
  | upgrade (hm : s.manager = .upgrade) :
      Step s .poll { s with strongCount := s.strongCount + 1, manager := .store }
  /-- The waker is stored. -/
  | store (hm : s.manager = .store) : Step s .poll { s with waker := true, manager := .release }
  /-- The strong reference is dropped, and the poll is pending. -/
  | release (hm : s.manager = .release) :
      Step s .poll { s with strongCount := s.strongCount - 1, manager := .parked }
  /-- The manager polls again, which uses up a pending wake. -/
  | repoll (hm : s.manager = .parked) :
      Step s .repoll { s with manager := .read, woken := false }

/-- Every step is one of these. -/
theorem step_cases (h : registrySystem.step s a = some s') : Step s a s' := by
  have h : s.step a = some s' := h
  cases a with
  | clone =>
    simp only [step] at h
    split at h
    · rename_i hl
      cases h
      exact .clone hl
    · cases h
  | take =>
    simp only [step] at h
    split at h
    · rename_i hl
      cases h
      exact .take hl
    · cases h
  | finish =>
    simp only [step] at h
    split at h
    · rename_i n hn
      cases h
      exact .finish n hn
    · cases h
  | wait =>
    simp only [step] at h
    split at h
    · rename_i hm
      cases h
      exact .wait hm
    · cases h
  | poll =>
    simp only [step, pollStep] at h
    split at h
    · rename_i hm
      cases h
      by_cases hcount : s.strongCount > 1
      · rw [if_pos hcount]
        exact .found hm hcount
      · rw [if_neg hcount]
        exact .foundNone hm (by omega)
    · rename_i hm
      split at h
      · rename_i hcount
        cases h
        exact .gone hm hcount
      · cases h
        exact .upgrade hm
    · rename_i hm
      cases h
      exact .store hm
    · rename_i hm
      cases h
      exact .release hm
    all_goals cases h
  | repoll =>
    simp only [step] at h
    split at h
    · rename_i hm
      cases h
      exact .repoll hm
    · cases h

/-! ## The strong count -/

/-- **The strong count is the number of references there are**: the one of `listen_requests`, one
for each request, and those of a clone and a poll in progress. -/
def Counted (s : Registry) : Prop :=
  s.strongCount = 1 + s.requests + s.listener.refs + s.manager.refs

/-- Every step keeps count. -/
theorem Counted.step (hc : s.Counted) (h : Step s a s') : s'.Counted := by
  unfold Counted at hc ⊢
  cases h with
  | clone hl =>
    rw [hl] at hc
    simp only [hc, ListenPc.refs]
    omega
  | take hl =>
    rw [hl] at hc
    simp only [hc, ListenPc.refs]
    omega
  | finish n hn =>
    rw [hn] at hc
    simp only [hc]
    omega
  | wait hm =>
    rw [hm] at hc
    exact hc
  | found hm hcount =>
    rw [hm] at hc
    exact hc
  | foundNone hm hcount =>
    rw [hm] at hc
    exact hc
  | gone hm hcount => omega
  | upgrade hm =>
    rw [hm] at hc
    simp only [hc, WaitReqPc.refs]
  | store hm =>
    rw [hm] at hc
    exact hc
  | release hm =>
    rw [hm] at hc
    simp only [hc, WaitReqPc.refs]
    omega
  | repoll hm =>
    rw [hm] at hc
    exact hc

/-! ## The invariant -/

/-- What holds in every state of a run without racing takes. -/
structure Covered (s : Registry) : Prop where
  /-- The strong count is right. -/
  counted : s.Counted
  /-- A manager that has stored its waker still has it there, or has a wake pending. -/
  registered : s.manager = .release ∨ s.manager = .parked → s.waker = true ∨ s.woken = true
  /-- When there is a request, a manager that has read the count before has a wake pending. -/
  awake : 0 < s.requests →
    s.manager = .upgrade ∨ s.manager = .store ∨ s.manager = .release ∨ s.manager = .parked →
    s.woken = true

/-- A manager in the window is found by `racingTake`. -/
theorem registered_of_not_racing (hl : s.listener = .taking) (hrace : s.racingTake .take = false)
    (hm : s.manager = .upgrade ∨ s.manager = .store) : s.waker = true ∨ s.woken = true := by
  by_contra hnot
  rw [not_or, Bool.not_eq_true, Bool.not_eq_true] at hnot
  rcases hm with hm | hm <;> simp [racingTake, hl, hm, hnot.1, hnot.2] at hrace

/-- **Every step that is not a racing take keeps the manager covered.** -/
theorem Covered.step (hc : s.Covered) (h : Step s a s') (hrace : s.racingTake a = false) :
    s'.Covered := by
  have hcounted := hc.counted.step h
  cases h with
  | clone hl => exact ⟨hcounted, hc.registered, hc.awake⟩
  -- the take wakes a manager whose waker is there; one in the window has a wake pending by `hrace`
  | take hl =>
    have hwake : s.waker = true ∨ s.woken = true → (s.woken || s.waker) = true := by
      intro hw
      rw [Bool.or_eq_true]
      exact hw.symm
    refine ⟨hcounted, fun hm => Or.inr (hwake (hc.registered hm)), fun _ hm => hwake ?_⟩
    rcases hm with hm | hm | hm
    · exact registered_of_not_racing hl hrace (Or.inl hm)
    · exact registered_of_not_racing hl hrace (Or.inr hm)
    · exact hc.registered hm
  | finish n hn => exact ⟨hcounted, hc.registered, fun _ => hc.awake (by omega)⟩
  | wait hm => exact ⟨hcounted, by simp, by simp⟩
  | found hm hcount => exact ⟨hcounted, by simp, by simp⟩
  | foundNone hm hcount =>
    -- the count says that there is no request
    refine ⟨hcounted, by simp, fun hreq _ => ?_⟩
    have hcount' := hc.counted
    unfold Counted at hcount'
    have hreq : 0 < s.requests := hreq
    omega
  | gone hm hcount =>
    have hcount' := hc.counted
    unfold Counted at hcount'
    omega
  | upgrade hm => exact ⟨hcounted, by simp, fun hreq _ => hc.awake hreq (Or.inl hm)⟩
  | store hm =>
    exact ⟨hcounted, fun _ => Or.inl rfl, fun hreq _ => hc.awake hreq (Or.inr (Or.inl hm))⟩
  | release hm =>
    exact ⟨hcounted, fun _ => hc.registered (Or.inl hm),
      fun hreq _ => hc.awake hreq (Or.inr (Or.inr (Or.inl hm)))⟩
  | repoll hm => exact ⟨hcounted, by simp, by simp⟩

/-- The count is right in every state of every run. -/
theorem counted_of_reachable (h : registrySystem.Reachable s) : s.Counted := by
  refine h.invariant ?_ fun s a s' _ hc _ hstep => hc.step (step_cases hstep)
  rfl

/-- The invariant in every state of a run without racing takes. -/
theorem covered_of_reachable
    (h : registrySystem.ReachableBy (fun s a => s.racingTake a = false) s) : s.Covered := by
  refine h.invariant ⟨rfl, ?_, ?_⟩ fun s a s' _ hc hrace hstep => hc.step (step_cases hstep) hrace
  · rintro (hm | hm) <;> cases hm
  · intro hreq
    cases hreq

/-- From the window on, the rest of the poll parks the manager and leaves the rest as it is. -/
theorem run_poll (hm : s.manager = .upgrade ∨ s.manager = .store) (hcount : 0 < s.strongCount) :
    ∃ n s', registrySystem.run s (List.replicate n .poll) = some s' ∧ s'.manager = .parked ∧
      s'.requests = s.requests ∧ s'.listener = s.listener ∧ s'.woken = s.woken := by
  -- the last two accesses
  have hstore : ∀ s : Registry, s.manager = .store →
      registrySystem.run s [.poll, .poll] =
        some { s with waker := true, manager := .parked, strongCount := s.strongCount - 1 } := by
    rintro ⟨c, w, r, l, m, k⟩ hm
    cases hm
    rfl
  rcases hm with hm | hm
  · have hupgrade : registrySystem.step s .poll =
        some { s with strongCount := s.strongCount + 1, manager := .store } := by
      show s.pollStep = _
      rw [pollStep, hm]
      exact if_neg (by omega)
    have hrun : registrySystem.run s (List.replicate 3 .poll) = registrySystem.run
        { s with strongCount := s.strongCount + 1, manager := .store } [.poll, .poll] := by
      rw [List.replicate_succ, System.run, hupgrade]
      rfl
    exact ⟨3, _, hrun.trans (hstore _ rfl), rfl, rfl, rfl, rfl⟩
  · exact ⟨2, _, hstore s hm, rfl, rfl, rfl, rfl⟩

/-- **A request wakes the manager, exactly.** In every run in which no clone takes the waker between
the manager's read of the count and its store of the waker, no request finds the manager parked
without a wake. And after every reachable state in which one does, the rest of the poll parks the
manager that way. -/
theorem requestWakes_sharp (s : Registry) :
    (registrySystem.ReachableBy (fun s a => s.racingTake a = false) s → s.RequestWakes) ∧
    (∀ a s', registrySystem.Reachable s → s.racingTake a = true →
      registrySystem.step s a = some s' →
      ∃ n s'', registrySystem.run s' (List.replicate n .poll) = some s'' ∧ ¬ s''.RequestWakes) := by
  constructor
  · rintro hs hreq - - ⟨hm, hwoken⟩
    rw [(covered_of_reachable hs).awake hreq (Or.inr (Or.inr (Or.inr hm)))] at hwoken
    cases hwoken
  · intro a s' hs hrace hstep
    have hcounted := counted_of_reachable hs
    unfold racingTake at hrace
    split at hrace
    · simp only [Bool.and_eq_true, Bool.or_eq_true, beq_iff_eq, Bool.not_eq_true'] at hrace
      obtain ⟨⟨⟨hl, hm⟩, hwaker⟩, hwoken⟩ := hrace
      cases step_cases hstep with
      | take _ =>
        -- the clone found no waker, and nothing keeps the manager from parking after it
        obtain ⟨n, s'', hrun, hm', hreq', hl', hwoken'⟩ :=
          run_poll (s := { s with
            waker := false, woken := s.woken || s.waker, requests := s.requests + 1,
            listener := .idle }) hm (by unfold Counted at hcounted; show 0 < s.strongCount; omega)
        refine ⟨n, s'', hrun, fun hno => hno ?_ hl' ?_ ⟨hm', ?_⟩⟩
        · rw [hreq']
          exact Nat.succ_pos _
        · rw [polling, hm']
        · rw [hwoken', hwoken, hwaker]
          rfl
    · cases hrace

/-- A request registers between the manager's read of the count and its store of the waker. -/
theorem not_requestWakes : ¬ ∀ s, registrySystem.Reachable s → s.RequestWakes := by
  intro hall
  obtain ⟨s, hs, hbad⟩ := System.exists_reachable_of_run registrySystem
    [.wait, .poll, .clone, .take, .poll, .poll, .poll]
    (fun s : Registry => decide (0 < s.requests ∧ s.listener = .idle ∧ s.polling = false ∧
      s.manager = .parked ∧ s.woken = false)) (by decide)
  obtain ⟨hreq, hl, hpoll, hparked⟩ := of_decide_eq_true hbad
  exact hall s hs hreq hl hpoll hparked

end Registry

end Tuic.Client
