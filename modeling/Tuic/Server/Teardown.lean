import Tuic.Server.Barrier
import Tuic.Server.Gate
import Tuic.Server.NoPanic

/-! # The end of a connection

When the QUIC connection is lost, nobody tells the tasks of a connection to stop: the handle task
finds out by its listeners, a handler by its stream or by the operation it waits for, and a session
task by its channel, when the last sender is dropped with the session table. This file says what is
left when all of that has come to an end (`Torn`, `Torn.released`): no socket, no session, and no
task but handlers that are parked at the barrier, of a client that was never authenticated.

The tasks wait for each other in one place only, a handler for room in the channel of a session
(`Task.goes_on`), and a session task with a full channel can always go on. -/

namespace Tuic.Server

open ByteCodec Transition

/-! ## What can go on -/

/-- `connect` can always go on, to its next place or to its end. -/
theorem exists_connectStep (i : Nat) (recv : RecvStream) (pc : ConnectPc) :
    ∃ outcome, connectStep i recv pc outcome ≠ none := by
  cases pc with
  | resolve addr =>
    refine ⟨.fail ⟨.other, ""⟩, ?_⟩
    cases addr <;> simp [connectStep]
  | attempt addrs =>
    refine ⟨.fail ⟨.other, ""⟩, ?_⟩
    cases addrs <;> simp [connectStep]
  | respond isSucceeded => exact ⟨.ok, by simp [connectStep]⟩
  | tunnel up down => exact ⟨.fail ⟨.other, ""⟩, by simp [connectStep]⟩
  | finish => exact ⟨.ok, by simp [connectStep]⟩

/-- A relay task whose stream is over can go on, unless it waits for room in the channel of a
session. -/
theorem exists_relayStep (u : Udp) (i : Nat) {recv : RecvStream} (r : Relay)
    (hstream : recv.status ≠ .receiving) :
    (∃ outcome, relayStep u i recv r outcome ≠ none) ∨
      ∃ p sid, r = .send (.push p sid) ∧ u.sendStep true (.push p sid) = none := by
  cases r with
  | readPayload assocId len addr =>
    refine Or.inl ⟨.ok, ?_⟩
    by_cases hlen : len.toNat ≤ recv.unread.length
    · simp [relayStep, hlen]
    · simp [relayStep, hlen, hstream]
  | dissociate assocId => exact Or.inl ⟨.ok, by simp [relayStep]⟩
  | connect pc =>
    obtain ⟨outcome, hstep⟩ := exists_connectStep i recv pc
    refine Or.inl ⟨outcome, ?_⟩
    cases h : connectStep i recv pc outcome with
    | none => exact absurd h hstep
    | some next =>
      obtain ⟨events, recv', pc'⟩ := next
      cases pc' <;> simp [relayStep, h]
  | send call =>
    cases h : u.sendStep true call with
    | some next =>
      obtain ⟨u', n⟩ := next
      refine Or.inl ⟨.ok, ?_⟩
      cases n <;> simp [relayStep, Outcome.succeeds, h]
    | none =>
      cases call with
      | lookup p =>
        cases hp : u.map.lookup p.assocId <;> simp [Udp.sendStep, hp] at h
      | create p => simp [Udp.sendStep] at h
      | insert p sid => simp [Udp.sendStep] at h
      | push p sid => exact Or.inr ⟨p, sid, rfl, h⟩

/-- **A handler whose stream is over can go on**, unless it has returned or panicked, is parked
without a wake pending, or waits for room in the channel of a session. -/
theorem Task.goes_on (token : List Digest) (c : Connection) (i : Nat) {t : Task}
    (hstream : t.recv.status ≠ .receiving) (hpanic : t.pc ≠ .panicked) :
    (∃ outcome, t.step token c i outcome ≠ none) ∨ t.returned = true ∨
      (∃ cmd, t.pc = .parked cmd ∧ .handler i ∉ c.woken) ∨
      ∃ p sid, t.pc = .relay (.send (.push p sid)) ∧
        c.udpSessions.sendStep true (.push p sid) = none := by
  cases hpc : t.pc with
  | read =>
    refine Or.inl ⟨.ok, ?_⟩
    cases hread : Command.readFrom t.recv.data with
    | ok r => simp [Task.step, hpc, Task.readCommand, hread]
    | error e =>
      cases e with
      | io err => simp [Task.step, hpc, Task.readCommand, hread, hstream]
      | panic => simp [Task.step, hpc, Task.readCommand, hread]
  | setAuthenticated => exact Or.inl ⟨.ok, by simp [Task.step, hpc]⟩
  | wakeAuthenticated => exact Or.inl ⟨.ok, by simp [Task.step, hpc]⟩
  | closeFailed => exact Or.inl ⟨.ok, by simp [Task.step, hpc]⟩
  | wakeFailed => exact Or.inl ⟨.ok, by simp [Task.step, hpc]⟩
  | await cmd => exact Or.inl ⟨.ok, by simp [Task.step, hpc]⟩
  | parked cmd =>
    by_cases hwoken : .handler i ∈ c.woken
    · exact Or.inl ⟨.ok, by simp [Task.step, hpc, hwoken]⟩
    · exact Or.inr (Or.inr (Or.inl ⟨cmd, rfl, hwoken⟩))
  | dispatch cmd => exact Or.inl ⟨.ok, by simp [Task.step, hpc]⟩
  | relay r =>
    rcases exists_relayStep c.udpSessions i r hstream with ⟨outcome, hstep⟩ | ⟨p, sid, rfl, hfull⟩
    · refine Or.inl ⟨outcome, ?_⟩
      cases h : relayStep c.udpSessions i t.recv r outcome with
      | none => exact absurd h hstep
      | some next => simp [Task.step, hpc, h]
    · exact Or.inr (Or.inr (Or.inr ⟨p, sid, rfl, hfull⟩))
  | fail err => exact Or.inl ⟨.ok, by simp [Task.step, hpc]⟩
  | done => exact Or.inr (Or.inl (by simp [Task.returned, hpc]))
  | failed err => exact Or.inr (Or.inl (by simp [Task.returned, hpc]))
  | panicked => exact absurd hpc hpanic

/-- A reply task that has not returned can go on. -/
theorem exists_replyStep (cell : UdpPacketFrom) (k : Nat) {pc : ReplyPc} (hdone : pc ≠ .done)
    (hpanic : pc ≠ .panicked) : ∃ outcome, replyStep cell k pc outcome ≠ none := by
  refine ⟨.ok, ?_⟩
  cases pc with
  | check r => cases cell <;> simp [replyStep]
  | packetTo src r => cases src <;> simp [replyStep]
  | done => exact absurd rfl hdone
  | panicked => exact absurd rfl hpanic

/-- The steps of a session task for which nothing needs to come in. -/
def SessionStep.isOwn : SessionStep → Bool
  | .take | .disconnected | .sendTo _ | .handOn => true
  | .recvFrom _ _ | .recvFail => false

/-- **A session task can go on**, unless its channel is empty and somebody may still put something
into it. -/
theorem Udp.session_goes_on (maxPktSize : Nat) (u : Udp) (hasSender : Bool) {sid : SessionId}
    {ses : UdpSession} (hses : u.sessions[sid]? = some ses) (hrun : ses.running = true) :
    (∃ st : SessionStep, st.isOwn = true ∧ u.sessionStep maxPktSize hasSender sid st ≠ none) ∨
      ses.queue = [] ∧ hasSender = true := by
  cases hsending : ses.sending with
  | some p => exact Or.inl ⟨.sendTo true, rfl, by simp [Udp.sessionStep, hses, hrun, hsending]⟩
  | none =>
    cases hqueue : ses.queue with
    | cons p queue =>
      exact Or.inl ⟨.take, rfl, by simp [Udp.sessionStep, hses, hrun, hsending, hqueue]⟩
    | nil =>
      cases hasSender with
      | false =>
        exact Or.inl ⟨.disconnected, rfl, by
          simp [Udp.sessionStep, hses, hrun, hsending, hqueue]⟩
      | true => exact Or.inr ⟨rfl, rfl⟩

/-! ## A lost connection at rest -/

/-- The steps that the tasks of a connection make on their own, when nothing comes in and no time
passes. -/
def Action.isOwn : Action → Bool
  | .handle .listenerEnds | .handle .go => true
  | .handle _ => false
  | .task _ _ | .reply _ _ => true
  | .session _ st => st.isOwn
  | .stream _ _ | .peerClose _ | .drop => false

namespace Established

variable {cfg : Config} {s s' : Established} {a : Action}

/-- **A lost connection at rest**: its streams are over, no task can go on, and the session table is
dropped, if it can be. -/
structure Torn (cfg : Config) (s : Established) : Prop where
  /-- The QUIC connection is lost. -/
  lost : s.conn.controller ≠ none
  /-- So are its streams. -/
  streams : ∀ t ∈ s.tasks, t.recv.status ≠ .receiving
  /-- No task can go on. -/
  own : ∀ a : Action, a.isOwn = true → (connectionSystem cfg).step s a = none
  /-- The session table is dropped with the last task that has it. -/
  dropped : (connectionSystem cfg).step s .drop = none ∨ s.conn.udpSessions.map = ∅

/-- **A handler at rest**: when its stream is over, no step of it is left and the channels have
room, it has returned, or is parked without a wake pending. -/
theorem handler_at_rest (hs : (connectionSystem cfg).Reachable s) {i : Nat} {t : Task}
    (hi : s.tasks[i]? = some t) (hstream : t.recv.status ≠ .receiving)
    (hown : ∀ outcome, (connectionSystem cfg).step s (.task i outcome) = none)
    (hroom : ∀ (sid : SessionId) (ses : UdpSession),
      s.conn.udpSessions.sessions[sid]? = some ses → ses.running = true → ses.queue = []) :
    t.returned = true ∨ ∃ cmd, t.pc = .parked cmd ∧ .handler i ∉ s.conn.woken := by
  have hpanic : t.pc ≠ .panicked := by
    intro hpc
    have hsound := (sound_of_reachable hs i t hi).2
    rw [hpc] at hsound
    exact hsound
  rcases Task.goes_on cfg.token s.conn i hstream hpanic with
    ⟨outcome, hstep⟩ | hret | hparked | ⟨p, sid, hpc, hfull⟩
  · have hnone := hown outcome
    simp only [connectionSystem, Established.step, hi] at hnone
    split at hnone
    · cases hnone
    · exact absurd ‹_› hstep
  · exact Or.inl hret
  · exact Or.inr hparked
  · -- the channel is not full
    have hcall : s.udpPool.calls[i]? = some (some (.push p sid)) := by
      rw [getElem?_calls hi, Task.call, hpc]
      rfl
    obtain ⟨ses, hses, -⟩ :=
      (UdpPool.wf_of_reachable (udpPool_of_reachable hs)).calls i _ sid hcall rfl
    have hses' : s.conn.udpSessions.sessions[sid]? = some ses := hses
    cases hrun : ses.running with
    | false => simp [Udp.sendStep, hses', hrun] at hfull
    | true =>
      have hqueue := hroom sid ses hses' hrun
      simp [Udp.sendStep, hses', hrun, hqueue] at hfull

namespace Torn

/-- The handle task has come to its end. -/
theorem handle_eq (h : s.Torn cfg) (hs : (connectionSystem cfg).Reachable s) :
    s.handle = .closed := by
  have hok := (unpanicked_of_reachable hs).2
  have hgo : s.handleStep .go = none := h.own (.handle .go) rfl
  have hends : s.handleStep .listenerEnds = none := h.own (.handle .listenerEnds) rfl
  obtain ⟨reason, hreason⟩ := Option.ne_none_iff_exists'.mp h.lost
  cases hhandle : s.handle with
  | closed => rfl
  | listening b => simp [handleStep, hhandle, hreason] at hends
  | timeoutClose => simp [handleStep, hhandle] at hgo
  | timeoutWake => simp [handleStep, hhandle] at hgo
  | selected res =>
    cases res with
    | ok u => simp [handleStep, hhandle] at hgo
    | error err => simp [handleStep, hhandle] at hgo
  | panicked =>
    rw [hhandle] at hok
    exact hok.elim

/-- Every reply task has returned. -/
theorem replies_done (h : s.Torn cfg) (hs : (connectionSystem cfg).Reachable s) :
    ∀ pc ∈ s.replies, pc = .done := by
  intro pc hpc
  obtain ⟨k, hk⟩ := List.mem_iff_getElem?.mp hpc
  by_contra hdone
  obtain ⟨outcome, hstep⟩ := exists_replyStep s.conn.udpPacketFrom k hdone
    ((unpanicked_of_reachable hs).1 pc hpc)
  have hnone := h.own (.reply k outcome) rfl
  simp only [connectionSystem, Established.step, hk] at hnone
  split at hnone
  · cases hnone
  · exact hstep ‹_›

/-- A session that runs has an empty channel, and somebody may still put something into it. -/
theorem session_held (h : s.Torn cfg) {sid : SessionId} {ses : UdpSession}
    (hses : s.conn.udpSessions.sessions[sid]? = some ses) (hrun : ses.running = true) :
    ses.queue = [] ∧ s.udpPool.Held sid := by
  rcases Udp.session_goes_on cfg.maxPktSize s.conn.udpSessions (s.udpPool.hasSender sid) hses
    hrun with ⟨st, hown, hstep⟩ | ⟨hqueue, hsender⟩
  · have hnone := h.own (.session sid st) hown
    simp only [connectionSystem, Established.step] at hnone
    split at hnone
    · cases hnone
    · exact absurd ‹_› hstep
  · exact ⟨hqueue, UdpPool.hasSender_iff.mp hsender⟩

/-- Every handler has returned, or is parked without a wake pending. -/
theorem task_cases (h : s.Torn cfg) (hs : (connectionSystem cfg).Reachable s) {i : Nat} {t : Task}
    (hi : s.tasks[i]? = some t) :
    t.returned = true ∨ ∃ cmd, t.pc = .parked cmd ∧ .handler i ∉ s.conn.woken :=
  handler_at_rest hs hi (h.streams t (List.mem_of_getElem? hi))
    (fun outcome => h.own (.task i outcome) rfl) fun _ _ hses hrun => (h.session_held hses hrun).1

/-- No handler is in a call of `send`. -/
theorem calls_none (h : s.Torn cfg) (hs : (connectionSystem cfg).Reachable s) {i : Nat}
    {c : SendCall} : s.udpPool.calls[i]? ≠ some (some c) := by
  intro hcall
  have hmap : (s.tasks.map Task.call)[i]? = some (some c) := hcall
  rw [List.getElem?_map] at hmap
  obtain ⟨t, hi, hc⟩ := Option.map_eq_some_iff.mp hmap
  rcases h.task_cases hs hi with hret | ⟨cmd, hpc, -⟩
  · rw [Task.call_of_returned hret] at hc
    cases hc
  · rw [Task.call, hpc] at hc
    cases hc

/-- **Handlers stay parked only where nobody was authenticated.** -/
theorem unauthenticated (h : s.Torn cfg) (hs : (connectionSystem cfg).Reachable s) {i : Nat}
    {t : Task} {cmd : Command} (hi : s.tasks[i]? = some t) (hpc : t.pc = .parked cmd)
    (hwoken : .handler i ∉ s.conn.woken) : s.conn.isAuthenticated.isAuthenticated = false := by
  by_contra hflag
  rw [Bool.not_eq_false] at hflag
  -- with the flag set, the handler is woken, or the one that is to wake it can go on
  rcases drained_of_reachable hs hflag with ⟨j, u, hj, hwake⟩ | hall
  · rcases h.task_cases hs hj with hret | ⟨cmd', hparked, -⟩
    · simp [Task.returned, hwake] at hret
    · rw [hwake] at hparked
      cases hparked
  · exact hwoken (hall i ⟨t, cmd, hi, hpc⟩)

/-- A handler that has not returned is that of a client that was never authenticated. -/
theorem unauthenticated_of_not_all (h : s.Torn cfg) (hs : (connectionSystem cfg).Reachable s)
    (hall : ¬ ∀ t ∈ s.tasks, t.returned = true) :
    s.conn.isAuthenticated.isAuthenticated = false := by
  simp only [not_forall] at hall
  obtain ⟨t, ht, hret⟩ := hall
  obtain ⟨i, hi⟩ := List.mem_iff_getElem?.mp ht
  obtain ⟨cmd, hpc, hwoken⟩ := (h.task_cases hs hi).resolve_left hret
  exact h.unauthenticated hs hi hpc hwoken

/-- The session table is empty. -/
theorem map_eq (h : s.Torn cfg) (hs : (connectionSystem cfg).Reachable s) :
    s.conn.udpSessions.map = ∅ := by
  by_cases hall : ∀ t ∈ s.tasks, t.returned = true
  · rcases h.dropped with hnone | hmap
    · -- all tasks have returned, so the table can be dropped
      have htasks : s.tasks.all Task.returned = true := List.all_eq_true.mpr hall
      have hreplies : s.replies.all (· == .done) = true :=
        List.all_eq_true.mpr fun pc hpc => beq_iff_eq.mpr (h.replies_done hs pc hpc)
      simp [connectionSystem, Established.step, h.handle_eq hs, htasks, hreplies] at hnone
    · exact hmap
  · exact ((gate_of_reachable hs).quiet (h.unauthenticated_of_not_all hs hall)).udp.map

/-- **What is left of a connection.** Every poll of the barrier is one step here, so that no wake-up
is lost between its accesses (`Wakeup` takes them apart). When a QUIC connection is lost, in every
run and however its tasks are interleaved: once they have come to rest, the handle task and every
reply task have returned, the session table is empty, and no session runs, so every UDP socket of
the connection is closed. Every handler has returned too, unless the client was never authenticated,
in which case no session was ever created. -/
theorem released (cfg : Config) (s : Established) (hs : (connectionSystem cfg).Reachable s)
    (h : s.Torn cfg) :
    s.handle = .closed ∧ (∀ pc ∈ s.replies, pc = .done) ∧ s.conn.udpSessions.map = ∅ ∧
      (∀ ses ∈ s.conn.udpSessions.sessions, ses.running = false) ∧
      ((∀ t ∈ s.tasks, t.returned = true) ∨
        s.conn.isAuthenticated.isAuthenticated = false ∧ s.conn.udpSessions.sessions = []) := by
  refine ⟨h.handle_eq hs, h.replies_done hs, h.map_eq hs, fun ses hmem => ?_, ?_⟩
  · obtain ⟨sid, hses⟩ := List.mem_iff_getElem?.mp hmem
    by_contra hrun
    rw [Bool.not_eq_false] at hrun
    rcases (h.session_held hses hrun).2 with ⟨id, hid⟩ | ⟨i, c, hcall, -⟩
    · have hmap : s.udpPool.udp.map = ∅ := h.map_eq hs
      simp [hmap] at hid
    · exact h.calls_none hs hcall
  · by_cases hall : ∀ t ∈ s.tasks, t.returned = true
    · exact Or.inl hall
    · have hflag := h.unauthenticated_of_not_all hs hall
      exact Or.inr ⟨hflag, ((gate_of_reachable hs).quiet hflag).udp.sessions⟩

end Torn

/-- A lost connection with nothing left is at rest. -/
theorem Torn.of_released (hlost : s.conn.controller ≠ none) (hhandle : s.handle = .closed)
    (hstreams : ∀ t ∈ s.tasks, t.recv.status ≠ .receiving)
    (htasks : ∀ t ∈ s.tasks, t.returned = true) (hreplies : ∀ pc ∈ s.replies, pc = .done)
    (hmap : s.conn.udpSessions.map = ∅)
    (hsessions : ∀ ses ∈ s.conn.udpSessions.sessions, ses.running = false) : s.Torn cfg := by
  refine ⟨hlost, hstreams, fun a hown => ?_, Or.inr hmap⟩
  cases h : (connectionSystem cfg).step s a with
  | none => rfl
  | some s' =>
    exfalso
    cases step_cases h with
    | task i outcome t t' conn hi hstep =>
      have hret := htasks t (List.mem_of_getElem? hi)
      cases hpc : t.pc <;> simp [Task.returned, hpc] at hret
      · cases hstep <;> simp_all
      · cases hstep <;> simp_all
    | reply k outcome pc pc' events hk hstep =>
      rw [hreplies pc (List.mem_of_getElem? hk)] at hstep
      simp [replyStep] at hstep
    | session sid st u hstep =>
      obtain ⟨ses, ses', heff⟩ := sessionStep_spec hstep
      have hrun := heff.running
      rw [hsessions ses (List.mem_of_getElem? heff.session)] at hrun
      cases hrun
    | accept st t b hl => simp [hhandle] at hl
    | receive r rest b hl => simp [hhandle] at hl
    | listenerEnds reason b hl => simp [hhandle] at hl
    | pollPending hl => simp [hhandle] at hl
    | pollReady hl => simp [hhandle] at hl
    | timeout hl => simp [hhandle] at hl
    | timeoutClose hl => simp [hhandle] at hl
    | timeoutWake hl => simp [hhandle] at hl
    | unreachable hl => simp [hhandle] at hl
    | setClosed err hl => simp [hhandle] at hl
    | stream i ev t recv hi hon => cases hown
    | peerClose err => cases hown
    | drop hl ht hr => cases hown

/-- A client that has sent a packet goes away: the socket of its session is closed. -/
theorem Torn.released_packet :
    ∃ s, (connectionSystem ⟨[.replicate 32 7], 1500⟩).Reachable s ∧
      s.conn.udpSessions.log.length = 4 ∧
      ∀ ses ∈ s.conn.udpSessions.sessions, ses.running = false := by
  obtain ⟨s, hs, hp⟩ := System.exists_reachable_of_run
    (connectionSystem ⟨[.replicate 32 7], 1500⟩)
    [.handle .acceptUniStream, .stream 0 (.data (4 :: 0 :: List.replicate 32 7)), .stream 0 .finish,
      .task 0 .ok, .task 0 .ok, .task 0 .ok,
      .handle (.acceptDatagram [4, 2, 0, 0, 0, 9, 0, 1, 1, 1, 2, 3, 4, 0, 53, 5]),
      .task 1 .ok, .task 1 .ok, .task 1 .ok, .task 1 .ok, .task 1 .ok, .task 1 .ok, .task 1 .ok,
      .session 0 .take, .session 0 (.sendTo true), .peerClose .timedOut,
      .handle .listenerEnds, .handle .go, .drop, .session 0 .disconnected]
    (fun s => decide (s.conn.controller ≠ none ∧ s.handle = .closed ∧
      (∀ t ∈ s.tasks, t.recv.status ≠ .receiving) ∧ (∀ t ∈ s.tasks, t.returned = true) ∧
      (∀ pc ∈ s.replies, pc = .done) ∧ s.conn.udpSessions.map.entries = [] ∧
      (∀ ses ∈ s.conn.udpSessions.sessions, ses.running = false) ∧
      s.conn.udpSessions.log.length = 4)) (by decide)
  obtain ⟨hlost, hhandle, hstreams, htasks, hreplies, hmap, hsessions, hlog⟩ := of_decide_eq_true hp
  have htorn : s.Torn ⟨[.replicate 32 7], 1500⟩ :=
    .of_released hlost hhandle hstreams htasks hreplies (AList.ext hmap) hsessions
  exact ⟨s, hs, hlog, (Torn.released _ s hs htorn).2.2.2.1⟩

end Established

end Tuic.Server
