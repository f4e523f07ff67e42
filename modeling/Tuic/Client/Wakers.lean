import Mathlib.Data.List.Count
import Tuic.Client.Closed

/-! # How many wakers are kept

The list of wakers of `IsClosed` has a capacity of two, one for `manage_connection` and one for
`heartbeat`. A poll that is pending pushes a waker, and nothing takes it away again before `set`:
not the next poll of the same task, and not the end of the wait, when a tick makes `heartbeat` drop
the future it polled. A step that leaves such an entry behind is `stale`.

Without such steps the list stays within bounds (`open_of_reachableBy`). With them it has one more
entry after every tick (`exists_waker_replicate`). -/

namespace Tuic.Client.Closing

open Transition

variable {s s' : Closing} {a : CloseAction}

/-- The task is in `wait_close().await`. -/
def waiting (s : Closing) (w : Waiter) : Bool :=
  match s.waiters w with
  | .load | .push | .parked => true
  | .away | .ready => false

/-- **The list is bounded**: there is at most one entry for a task that waits, and none for one that
does not. -/
def Bounded (s : Closing) : Prop :=
  ∀ w, s.inner.waker.count w ≤ if s.waiting w then 1 else 0

/-- A step before `set` that leaves an entry behind: `heartbeat` stops waiting with its waker in the
list, or a task pushes its waker once more. -/
def stale (s : Closing) : CloseAction → Bool
  | .tick => s.set == .store && s.inner.waker.contains .heartbeat
  | .poll w => s.set == .store && s.waiters w == .push && s.inner.waker.contains w
  | .waitClose _ | .repoll _ | .set => false

/-- The two tasks have all entries. -/
theorem length_waker (l : List Waiter) :
    l.length = l.count .manageConnection + l.count .heartbeat := by
  induction l with
  | nil => rfl
  | cons w l ih =>
    cases w with
    | manageConnection =>
      rw [List.length_cons, List.count_cons_self, List.count_cons_of_ne (by decide)]
      omega
    | heartbeat =>
      rw [List.length_cons, List.count_cons_self, List.count_cons_of_ne (by decide)]
      omega

/-- So there are at most two. -/
theorem Bounded.length_le (h : s.Bounded) : s.inner.waker.length ≤ 2 := by
  have hle : ∀ w, s.inner.waker.count w ≤ 1 := by
    intro w
    have hw := h w
    split_ifs at hw <;> omega
  have hmanage := hle .manageConnection
  have hbeat := hle .heartbeat
  rw [length_waker]
  omega

/-! ## Without stale entries -/

/-- The flag and the list before `set`. -/
structure Open (s : Closing) : Prop where
  /-- The flag is unset. -/
  unset : s.inner.isClosed = false
  /-- The list is bounded. -/
  bounded : s.Bounded

/-- The same entries are within the bound if who has one still waits. -/
theorem Bounded.of_waiting (h : s.Bounded) (hlist : s'.inner.waker = s.inner.waker)
    (hwait : ∀ w, s.waiting w = true → s'.waiting w = true ∨ s.inner.waker.count w = 0) :
    s'.Bounded := by
  intro w
  have hw := h w
  rw [hlist]
  by_cases hbefore : s.waiting w = true
  · rw [if_pos hbefore] at hw
    rcases hwait w hbefore with hafter | hzero
    · rw [if_pos hafter]
      exact hw
    · rw [hzero]
      exact Nat.zero_le _
  · rw [if_neg hbefore] at hw
    exact Nat.le_trans hw (Nat.zero_le _)

/-- A task that moves on without a push keeps the bound if it still waits or has no entry. -/
theorem Open.move (h : s.Open) {w : Waiter} {pc : WaitPc}
    (hw : pc = .load ∨ pc = .push ∨ s.inner.waker.count w = 0) : (s.move w pc).Open := by
  refine ⟨h.unset, h.bounded.of_waiting rfl fun v hv => ?_⟩
  by_cases hvw : v = w
  · subst hvw
    have hpc : (s.move v pc).waiters v = pc := Function.update_self _ _ _
    rcases hw with rfl | rfl | hzero
    · exact Or.inl (by rw [waiting, hpc])
    · exact Or.inl (by rw [waiting, hpc])
    · exact Or.inr hzero
  · have hpc : (s.move w pc).waiters v = s.waiters v := Function.update_of_ne hvw _ _
    exact Or.inl (by rw [waiting, hpc]; exact hv)

/-- A task that has no entry may push one. -/
theorem Open.push (h : s.Open) {w : Waiter} (hw : s.inner.waker.count w = 0) :
    Open { s.move w .parked with inner.waker := s.inner.waker ++ [w] } := by
  refine ⟨h.unset, fun v => ?_⟩
  have hv := h.bounded v
  by_cases hvw : v = w
  · subst hvw
    have hpc : (s.move v .parked).waiters v = .parked := Function.update_self _ _ _
    simp [waiting, hpc, hw]
  · have hpc : (s.move w .parked).waiters v = s.waiters v := Function.update_of_ne hvw _ _
    have hcount : (s.inner.waker ++ [w]).count v = s.inner.waker.count v := by
      have hne : ¬ (w == v) = true := by simpa using Ne.symm hvw
      rw [List.count_append, List.count_singleton, if_neg hne, Nat.add_zero]
    simp only [waiting, hpc, hcount] at hv ⊢
    exact hv

/-- **Every step that is not stale keeps the bound** until `set` begins. -/
theorem Open.step (h : s.set = .store → s.Open) (hstale : s.stale a = false) (hs : Step s a s')
    (hset : s'.set = .store) : s'.Open := by
  cases hs with
  | waitClose w hw => exact (h hset).move (Or.inl rfl)
  | sawSet w hw hflag =>
    rw [(h hset).unset] at hflag
    cases hflag
  | sawUnset w hw hflag => exact (h hset).move (Or.inr (Or.inl rfl))
  | push w hw =>
    have hset : s.set = .store := hset
    have hnone : w ∉ s.inner.waker := by simpa [stale, hset, hw] using hstale
    exact (h hset).push (List.count_eq_zero.mpr hnone)
  | repoll w hw =>
    have hs : (s.move w .load).Open := (h hset).move (Or.inl rfl)
    exact ⟨hs.unset, hs.bounded⟩
  | tick hw =>
    have hset : s.set = .store := hset
    have hnone : .heartbeat ∉ s.inner.waker := by simpa [stale, hset] using hstale
    have hs : (s.move .heartbeat .away).Open :=
      (h hset).move (Or.inr (Or.inr (List.count_eq_zero.mpr hnone)))
    exact ⟨hs.unset, hs.bounded⟩
  | store _ => cases hset
  | drain _ => cases hset

/-- **Without stale entries the list is bounded** until `set` begins. -/
theorem open_of_reachableBy (h : closingSystem.ReachableBy (fun s a => s.stale a = false) s) :
    s.set = .store → s.Open := by
  refine h.invariant (I := fun s => s.set = .store → s.Open)
    (fun _ => ⟨rfl, fun w => Nat.zero_le _⟩) ?_
  intro s a s' _ hs hstale hstep
  exact Open.step hs hstale (step_cases hstep)

/-! ## With stale entries -/

/-- What a stale step does. -/
theorem stale_cases (hstale : s.stale a = true) (hs : Step s a s') :
    s.set = .store ∧
      (.heartbeat ∈ s.inner.waker ∧ s' = s.resume .heartbeat .away ∨
        ∃ w ∈ s.inner.waker,
          s' = { s.move w .parked with inner.waker := s.inner.waker ++ [w] }) := by
  cases hs with
  | tick hw =>
    simp only [stale, Bool.and_eq_true, beq_iff_eq, List.contains_iff_mem] at hstale
    exact ⟨hstale.1, Or.inl ⟨hstale.2, rfl⟩⟩
  | push w hw =>
    simp only [stale, Bool.and_eq_true, beq_iff_eq, List.contains_iff_mem] at hstale
    obtain ⟨⟨hset, -⟩, hmem⟩ := hstale
    exact ⟨hset, Or.inr ⟨w, hmem, rfl⟩⟩
  | sawSet w hw hflag => simp [stale, hw] at hstale
  | sawUnset w hw hflag => simp [stale, hw] at hstale
  | waitClose w hw => cases hstale
  | repoll w hw => cases hstale
  | store hset => cases hstale
  | drain hset => cases hstale

/-- **A stale step breaks the bound.** -/
theorem not_bounded_of_stale (hstale : s.stale a = true) (hs : Step s a s') :
    s'.set = .store ∧ ¬ s'.Bounded := by
  obtain ⟨hset, ⟨hmem, rfl⟩ | ⟨w, hmem, rfl⟩⟩ := stale_cases hstale hs
  · -- the task is away, and its entry is still there
    refine ⟨hset, fun hbounded => ?_⟩
    have hcount := hbounded .heartbeat
    have hpc : (s.resume .heartbeat .away).waiters .heartbeat = .away := by simp [resume, move]
    have hpos : 0 < (s.resume .heartbeat .away).inner.waker.count .heartbeat :=
      List.count_pos_iff.mpr hmem
    simp only [waiting, hpc, Bool.false_eq_true, if_false] at hcount
    omega
  · -- there was an entry before the push
    refine ⟨hset, fun hbounded => ?_⟩
    have hcount := hbounded w
    have hpos : 0 < s.inner.waker.count w := List.count_pos_iff.mpr hmem
    simp only [List.count_append, List.count_singleton_self] at hcount
    split_ifs at hcount <;> omega

/-- One iteration of `heartbeat`: it polls the flag, and the tick wins. -/
def iteration : List CloseAction :=
  [.waitClose .heartbeat, .poll .heartbeat, .poll .heartbeat, .tick]

/-- **Each iteration leaves one more entry.** -/
theorem run_iteration (haway : s.waiters .heartbeat = .away) (hflag : s.inner.isClosed = false) :
    ∃ s', closingSystem.run s iteration = some s' ∧ s'.waiters .heartbeat = .away ∧
      s'.set = s.set ∧ s'.inner = { s.inner with waker := s.inner.waker ++ [.heartbeat] } := by
  simp [System.run, iteration, closingSystem, Closing.step, move, resume, haway, hflag]

/-- **There is no bound**: after `n` iterations there are `n` entries. -/
theorem exists_waker_replicate (n : Nat) :
    ∃ s, closingSystem.Reachable s ∧ s.set = .store ∧ s.waiters .heartbeat = .away ∧
      s.inner = ⟨false, List.replicate n .heartbeat⟩ := by
  induction n with
  | zero => exact ⟨_, .init, rfl, rfl, rfl⟩
  | succ n ih =>
    obtain ⟨s, hs, hset, haway, hinner⟩ := ih
    obtain ⟨s', hrun, haway', hset', hinner'⟩ := run_iteration haway (by rw [hinner])
    refine ⟨s', hs.run hrun, hset'.trans hset, haway', ?_⟩
    rw [hinner', hinner, List.replicate_succ']

/-- **The list of wakers stays bounded exactly without stale entries.** In every run in which,
before `set`, no tick makes `heartbeat` leave with its waker in the list and no task pushes its
waker once more, the list has at most one entry for each task that waits, and at most two, in every
state before `set`. And every such step breaks the bound. -/
theorem bounded_sharp (s : Closing) :
    (closingSystem.ReachableBy (fun s a => s.stale a = false) s → s.set = .store →
      s.Bounded ∧ s.inner.waker.length ≤ 2) ∧
    (∀ a s', closingSystem.Reachable s → s.stale a = true → closingSystem.step s a = some s' →
      s'.set = .store ∧ ¬ s'.Bounded) := by
  constructor
  · intro h hset
    have hbounded := (open_of_reachableBy h hset).bounded
    exact ⟨hbounded, hbounded.length_le⟩
  · intro a s' _ hstale hstep
    exact not_bounded_of_stale hstale (step_cases hstep)

/-- Three ticks leave three entries for a task that does not wait. -/
theorem not_bounded :
    ∃ s, closingSystem.Reachable s ∧ s.set = .store ∧ s.waiting .heartbeat = false ∧
      s.inner.waker.length = 3 ∧ ¬ s.Bounded := by
  obtain ⟨s, hs, hset, haway, hinner⟩ := exists_waker_replicate 3
  have hlength : s.inner.waker.length = 3 := by rw [hinner]; rfl
  refine ⟨s, hs, hset, by rw [waiting, haway], hlength, fun hbounded => ?_⟩
  have hle := hbounded.length_le
  omega

end Tuic.Client.Closing
