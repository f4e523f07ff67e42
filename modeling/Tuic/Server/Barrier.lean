import Tuic.Server.Frame

/-! # Handlers at the barrier

A handler that polls the barrier before the client is authenticated is parked, with its waker in the
list, until some task drains the list. Two statements about that, with every poll taken as one step:

* `registered_of_reachable`, `drained_of_reachable` — a parked handler has its waker in the list or
  a wake pending, and once the flag is set, a drain is still to come or every parked handler has a
  wake pending. No handler is left behind by an authentication.
* `noneStranded_sharp` — when the connection ends first, that is not so. `set_closed` wakes nobody,
  and the failure path and the timeout drain the list before it. Handlers are left behind exactly
  when one is parked without a wake pending as `set_closed` is executed. -/

namespace Tuic.Server

open ByteCodec Transition

/-! ## Handlers that wait -/

/-- A handler that has set the flag drains the list next. -/
theorem TaskStep.drains {token : List Digest} {c c' : Connection} {i : Nat} {t t' : Task}
    (h : TaskStep token c i t c' t') (hpc : t.pc = .wakeAuthenticated) :
    c' = c.wake := by
  cases h with
  | wakeAuthenticated _ => rfl
  | poll cmd h => rcases h with h | ⟨h, -⟩ <;> rw [hpc] at h <;> cases h
  | _ => simp_all

namespace Established

variable {cfg : Config} {s s' : Established} {a : Action}

/-- Handler `i` is parked at the barrier. -/
def Parked (s : Established) (i : Nat) : Prop :=
  ∃ t cmd, s.tasks[i]? = some t ∧ t.pc = .parked cmd

/-- **A handler is parked** because it was, or because it has just polled the barrier and found both
flags unset. -/
theorem Step.parked (h : Step cfg s a s') {j : Nat} (hp : s'.Parked j) :
    (s.Parked j ∧ ∀ outcome, a ≠ .task j outcome) ∨
      s.conn.isAuthenticated.isConnectionClosed.check = false ∧
        s.conn.isAuthenticated.isAuthenticated = false ∧
        .handler j ∈ s'.conn.isAuthenticated.broadcast := by
  obtain ⟨t', cmd, hj, hpc⟩ := hp
  rcases h.task_cases hj with ⟨hj, hother⟩ | ⟨-, hfresh⟩ | ⟨-, t, -, -, hstep⟩ |
    ⟨ev, t, recv, rfl, hj₀, -, rfl⟩
  · exact Or.inl ⟨⟨t', cmd, hj, hpc⟩, hother⟩
  · rw [hfresh.1] at hpc
    cases hpc
  · have hentered := hstep.enteredBy
    rw [hpc] at hentered
    exact Or.inr hentered
  · exact Or.inl ⟨⟨t, cmd, hj₀, hpc⟩, by simp⟩

/-- **A parked handler is registered**, in every reachable state. -/
theorem registered_of_reachable {C : Established → Action → Prop}
    (h : (connectionSystem cfg).ReachableBy C s) (i : Nat) (hp : s.Parked i) :
    s.conn.Registered (.handler i) := by
  revert i
  refine h.invariant (I := fun s => ∀ i, s.Parked i → s.conn.Registered (.handler i)) ?_ ?_
  · rintro i ⟨t, cmd, hi, -⟩
    cases hi
  · intro s a s' _ ih _ hs i hp
    have hstep := step_cases hs
    -- who was parked keeps its waker or gets a wake; who parks pushes its waker
    rcases hstep.parked hp with ⟨hold, hother⟩ | ⟨-, -, hmem⟩
    · exact hstep.registered hother (ih i hold)
    · exact Or.inl hmem

/-! ## Nobody is left behind by an authentication -/

/-- Once the flag is set, a handler that has set it is still to drain the list, or every parked
handler has a wake pending. -/
def Drained (s : Established) : Prop :=
  s.conn.isAuthenticated.isAuthenticated = true →
    (∃ (i : Nat) (t : Task), s.tasks[i]? = some t ∧ t.pc = .wakeAuthenticated) ∨
      ∀ i, s.Parked i → .handler i ∈ s.conn.woken

/-- With the flag set, the wakes of parked handlers stay pending until they poll. -/
theorem woken_of_parked (h : Step cfg s a s')
    (hflag : s.conn.isAuthenticated.isAuthenticated = true)
    (hw : ∀ i, s.Parked i → .handler i ∈ s.conn.woken) (i : Nat) (hp : s'.Parked i) :
    .handler i ∈ s'.conn.woken := by
  rcases h.parked hp with ⟨hold, hother⟩ | ⟨-, hunset, -⟩
  · exact h.woken hother (hw i hold)
  · rw [hflag] at hunset
    cases hunset

/-- The handler that drains the list wakes every parked handler. -/
theorem woken_of_drain {i : Nat} {t t' : Task} (h : Step cfg s a s')
    (hreg : ∀ i, s.Parked i → s.conn.Registered (.handler i))
    (hflag : s.conn.isAuthenticated.isAuthenticated = true) (hpc : t.pc = .wakeAuthenticated)
    (hstep : TaskStep cfg.token s.conn i t s'.conn t') (j : Nat) (hp : s'.Parked j) :
    .handler j ∈ s'.conn.woken := by
  have hconn := hstep.drains hpc
  rcases h.parked hp with ⟨hold, -⟩ | ⟨-, hunset, -⟩
  · rw [hconn]
    exact Connection.mem_wake_woken.mpr (hreg j hold)
  · rw [hflag] at hunset
    cases hunset

/-- Every step keeps a drain to come, or the wakes. -/
theorem Drained.step (hd : s.Drained) (hreg : ∀ i, s.Parked i → s.conn.Registered (.handler i))
    (h : Step cfg s a s') : s'.Drained := by
  intro hflag'
  by_cases hflag : s.conn.isAuthenticated.isAuthenticated = true
  · rcases hd hflag with ⟨i, t, hi, hpc⟩ | hw
    -- either that handler is still to drain the list, or it does so in this step
    · rcases h.task_keep hi with ⟨recv, hi', -⟩ | ⟨outcome, t', -, -, hstep⟩
      · exact Or.inl ⟨i, _, hi', hpc⟩
      · exact Or.inr (woken_of_drain h hreg hflag hpc hstep)
    · exact Or.inr (woken_of_parked h hflag hw)
  · -- the flag has just been set, by a handler that goes on to drain the list
    rcases h.flag_cases with heq | ⟨-, i, t, -, -, hi'⟩
    · exact absurd (heq ▸ hflag') hflag
    · exact Or.inl ⟨i, _, hi', rfl⟩

/-- **No handler is left behind by an authentication**, in every reachable state. -/
theorem drained_of_reachable {C : Established → Action → Prop}
    (h : (connectionSystem cfg).ReachableBy C s) : s.Drained := by
  refine h.invariant (I := Drained) ?_ ?_
  · intro hflag
    cases hflag
  · intro s a s' hs hd _ hstep
    exact hd.step (registered_of_reachable hs) (step_cases hstep)

/-! ## When the connection ends first -/

/-- Handler `i` is parked with its waker in the list, and no wake is pending for it. -/
def Stranded (s : Established) (i : Nat) : Prop :=
  s.Parked i ∧ .handler i ∈ s.conn.isAuthenticated.broadcast ∧ .handler i ∉ s.conn.woken

/-- After `set_closed` no handler is stranded. -/
def NoneStranded (s : Established) : Prop := s.handle = .closed → ∀ i, ¬ s.Stranded i

/-- Handler `i` is parked, and no wake is pending for it. -/
def asleep (s : Established) (i : Nat) : Bool :=
  match s.tasks[i]?.map Task.pc with
  | some (.parked _) => !s.conn.woken.contains (.handler i)
  | _ => false

/-- `set_closed` is executed while some handler is asleep. -/
def strandingClose (s : Established) : Action → Bool
  | .handle .go =>
    match s.handle with
    | .selected (.error _) => (List.range s.tasks.length).any s.asleep
    | _ => false
  | _ => false

/-- `asleep` decides what it is named for. -/
theorem asleep_iff {i : Nat} :
    s.asleep i = true ↔ s.Parked i ∧ .handler i ∉ s.conn.woken := by
  unfold asleep Parked
  cases hi : s.tasks[i]? with
  | none => simp
  | some t =>
    cases hpc : t.pc <;> simp [hpc]

/-- Some handler is asleep. -/
theorem any_asleep_iff :
    (List.range s.tasks.length).any s.asleep = true ↔
      ∃ i, s.Parked i ∧ .handler i ∉ s.conn.woken := by
  simp only [List.any_eq_true, List.mem_range]
  constructor
  · rintro ⟨i, -, hi⟩
    exact ⟨i, asleep_iff.mp hi⟩
  · rintro ⟨i, hi⟩
    obtain ⟨t, _, ht, -⟩ := hi.1
    exact ⟨i, (List.getElem?_eq_some_iff.mp ht).1, asleep_iff.mpr hi⟩

/-- No task ever awaits `IsClosed`. -/
theorem waker_of_reachable {C : Established → Action → Prop}
    (h : (connectionSystem cfg).ReachableBy C s) :
    s.conn.isAuthenticated.isConnectionClosed.waker = none :=
  h.invariant (I := fun s => s.conn.isAuthenticated.isConnectionClosed.waker = none) rfl
    fun _ _ _ _ hw _ hstep => (step_cases hstep).extends.waker hw

/-- The handle task gets to its end by `set_closed`. -/
theorem Step.handle_closed (h : Step cfg s a s') (hclosed : s'.handle = .closed) :
    s.handle = .closed ∨ ∃ err, a = .handle .go ∧ s.handle = .selected (.error err) ∧
      s' = { s with conn := s.conn.setClosed, handle := .closed } := by
  cases h with
  | setClosed err hhandle => exact Or.inr ⟨err, rfl, hhandle, rfl⟩
  | listenerEnds reason b hhandle hc => cases hclosed
  | pollReady hhandle res hpoll => cases hclosed
  | timeout hhandle => cases hclosed
  | timeoutClose hhandle => cases hclosed
  | timeoutWake hhandle => cases hclosed
  | unreachable hhandle => cases hclosed
  | accept st t b hhandle hfresh => exact Or.inl hclosed
  | receive r rest b hhandle hrecv => exact Or.inl hclosed
  | pollPending hhandle hpoll => exact Or.inl hclosed
  | task i outcome t t' conn hi hstep => exact Or.inl hclosed
  | reply k outcome pc pc' events hk hstep => exact Or.inl hclosed
  | session sid st u hstep => exact Or.inl hclosed
  | stream i ev t recv hi hrecv => exact Or.inl hclosed
  | peerClose err => exact Or.inl hclosed
  | drop hhandle htasks hreplies => exact Or.inl hclosed

/-- After `set_closed` the flag is set, and every parked handler has a wake pending. -/
def AwakeAfterClose (s : Established) : Prop :=
  s.handle = .closed → s.conn.isAuthenticated.isConnectionClosed.check = true ∧
    ∀ i, s.Parked i → .handler i ∈ s.conn.woken

/-- Every step that is not a stranding `set_closed` keeps that. -/
theorem AwakeAfterClose.step (hc : s.AwakeAfterClose) (h : Step cfg s a s')
    (hok : s.strandingClose a = false) : s'.AwakeAfterClose := by
  intro hclosed
  rcases h.handle_closed hclosed with hold | ⟨err, rfl, hhandle, rfl⟩
  · obtain ⟨hflag, hw⟩ := hc hold
    refine ⟨h.extends.closed hflag, fun i hp => ?_⟩
    rcases h.parked hp with ⟨hpold, hother⟩ | ⟨hopen, -⟩
    · exact h.woken hother (hw i hpold)
    · rw [hflag] at hopen
      cases hopen
  -- this is the step of `set_closed`: everybody parked has a wake, since it strands nobody
  · refine ⟨rfl, fun i hp => List.mem_append_right _ ?_⟩
    by_contra hw
    have hany : (List.range s.tasks.length).any s.asleep = true := any_asleep_iff.mpr ⟨i, hp, hw⟩
    simp [strandingClose, hhandle, hany] at hok

/-- A handler with a wake pending finds out that the connection has ended. -/
theorem step_of_woken {i : Nat} {t : Task} {cmd : Command} (hi : s.tasks[i]? = some t)
    (hpc : t.pc = .parked cmd) (hw : .handler i ∈ s.conn.woken)
    (hclosed : s.conn.isAuthenticated.isConnectionClosed.check = true) :
    ∃ s', (connectionSystem cfg).step s (.task i .ok) = some s' ∧
      s'.tasks[i]? = some { t with pc := .fail .authenticationTimeout } := by
  have hres : (s.conn.poll (.handler i)).2 = some false := by
    rcases s.conn.poll_cases (.handler i) with ⟨-, hres, -⟩ | ⟨hopen, -⟩ | ⟨hopen, -⟩
    · exact hres
    · rw [hclosed] at hopen
      cases hopen
    · rw [hclosed] at hopen
      cases hopen
  refine ⟨{ s with
    conn := (s.conn.poll (.handler i)).1
    tasks := s.tasks.set i { t with pc := .fail .authenticationTimeout } }, ?_, ?_⟩
  · show s.step cfg (.task i .ok) = _
    simp only [step, hi, Task.step, hpc, if_pos hw, hres, Pc.ofPoll]
  · exact getElem?_set_of_some hi

/-- **Handlers left behind by the end of a connection, exactly.** In every run in which `set_closed`
is executed only when every parked handler has a wake pending, no handler is stranded in any state
after it, and every one that is still parked can go on and returns `AuthenticationTimeout`. And
every `set_closed` that is executed while a handler is asleep strands that handler. -/
theorem noneStranded_sharp (cfg : Config) :
    (∀ s, (connectionSystem cfg).ReachableBy (fun s a => s.strandingClose a = false) s →
      s.NoneStranded ∧ (s.handle = .closed → ∀ i t cmd, s.tasks[i]? = some t → t.pc = .parked cmd →
        ∃ s', (connectionSystem cfg).step s (.task i .ok) = some s' ∧
          s'.tasks[i]? = some { t with pc := .fail .authenticationTimeout })) ∧
    (∀ s a s', (connectionSystem cfg).Reachable s → s.strandingClose a = true →
      (connectionSystem cfg).step s a = some s' → ¬ s'.NoneStranded) := by
  constructor
  · intro s hs
    have hc : s.AwakeAfterClose :=
      hs.invariant (I := AwakeAfterClose) (fun h => by cases h)
        fun _ _ _ _ hc hok hstep => hc.step (step_cases hstep) hok
    refine ⟨fun hclosed i hstr => hstr.2.2 ((hc hclosed).2 i hstr.1), ?_⟩
    intro hclosed i t cmd hi hpc
    obtain ⟨hflag, hw⟩ := hc hclosed
    exact step_of_woken hi hpc (hw i ⟨t, cmd, hi, hpc⟩) hflag
  · intro s a s' hs hstr hstep hnone
    unfold strandingClose at hstr
    split at hstr
    · split at hstr
      · rename_i err hhandle
        obtain ⟨i, hp, hw⟩ := any_asleep_iff.mp hstr
        have hb : .handler i ∈ s.conn.isAuthenticated.broadcast :=
          (registered_of_reachable hs i hp).resolve_right hw
        -- `set_closed` wakes nobody, since no task awaits `IsClosed`
        have hwaker := waker_of_reachable hs
        have hs' : s' = { s with conn := s.conn.setClosed, handle := .closed } := by
          have hstep : s.handleStep .go = some s' := hstep
          simp only [handleStep, hhandle] at hstep
          exact (Option.some.inj hstep).symm
        subst hs'
        refine hnone rfl i ⟨hp, hb, fun hw' => ?_⟩
        have hw' : .handler i ∈
            s.conn.isAuthenticated.isConnectionClosed.waker.toList ++ s.conn.woken := hw'
        rw [hwaker] at hw'
        exact hw hw'
      · cases hstr
    · cases hstr

/-- A handler waits when the peer closes the connection, and nobody wakes it. -/
theorem not_noneStranded :
    ¬ ∀ s, (connectionSystem ⟨[], 1500⟩).Reachable s → s.NoneStranded := by
  intro hall
  obtain ⟨s, hs, hbad⟩ := System.exists_reachable_of_run (connectionSystem ⟨[], 1500⟩)
    [.handle .acceptUniStream, .stream 0 (.data [4, 4]), .task 0 .ok, .task 0 .ok,
      .peerClose .applicationClosed, .handle .listenerEnds, .handle .go]
    (fun s => decide (s.handle = .closed ∧ s.asleep 0 = true ∧
      .handler 0 ∈ s.conn.isAuthenticated.broadcast)) (by decide)
  obtain ⟨hclosed, hasleep, hb⟩ := of_decide_eq_true hbad
  obtain ⟨hp, hw⟩ := asleep_iff.mp hasleep
  exact hall s hs hclosed 0 ⟨hp, hb, hw⟩

end Established

end Tuic.Server
