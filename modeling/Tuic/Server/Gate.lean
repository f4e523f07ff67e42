import Tuic.Server.Frame

/-! # The authentication gate

Before a client has sent a valid digest, a connection does nothing for it: no name is looked up, no
socket is opened, nothing is sent anywhere and the session table stays as it was
(`relays_nothing_before_authentication`). The invariant behind it (`Gate`) ties the flag to the
decoded commands in the one direction and every handler that is past the barrier to the flag in the
other. -/

namespace Tuic.Server

open ByteCodec Transition

/-- Whether an event has an effect outside of the connection: towards a target, a name server, or as
an answer to the client. -/
def Event.isRelay : Event → Bool
  | .decoded _ _ _ | .close _ _ => false
  | .started _ _ | .lookupHost _ _ _ | .tcpConnect _ _ _ | .toTarget _ _ | .toPeer _ _
  | .finish _ => true

/-- A handler is past the barrier and has not returned. -/
def Pc.isPast : Pc → Bool
  | .dispatch _ | .relay _ => true
  | _ => false

/-- A valid `Authenticate` was decoded from a unidirectional stream. -/
def Admitted (token : List Digest) (log : List Event) : Prop :=
  ∃ i, ∃ digest ∈ token, .decoded i .uniStream (.authenticate digest) ∈ log

/-- A session table that was never used. -/
structure Udp.Unused (u : Udp) : Prop where
  /-- It is empty. -/
  map : u.map = ∅
  /-- No socket was created. -/
  sessions : u.sessions = []
  /-- Nothing was received. -/
  recvPkt : u.recvPkt = []
  /-- Nothing happened to it. -/
  log : u.log = []

namespace Established

variable {cfg : Config} {s s' : Established} {a : Action}

/-- No relay effect at all. -/
structure Quiet (s : Established) : Prop where
  /-- The relay mode is not fixed. -/
  mode : s.conn.udpPacketFrom = none
  /-- No session was created, and no packet sent or received. -/
  udp : s.conn.udpSessions.Unused
  /-- No reply task was spawned. -/
  replies : s.replies = []
  /-- Nothing was done towards a target or written to the client. -/
  log : ∀ e ∈ s.conn.log, e.isRelay = false

/-- The invariant of the gate. -/
structure Gate (token : List Digest) (s : Established) : Prop where
  /-- The flag is set only after a valid digest. -/
  flag : s.conn.isAuthenticated.isAuthenticated = true → Admitted token s.conn.log
  /-- A handler about to set it has one. -/
  setter : All (fun _ t => t.pc = .setAuthenticated → Admitted token s.conn.log) s.tasks
  /-- A handler is past the barrier only when the flag is set. -/
  past : All (fun _ t => t.pc.isPast = true → s.conn.isAuthenticated.isAuthenticated = true)
    s.tasks
  /-- Until then, nothing was relayed. -/
  quiet : s.conn.isAuthenticated.isAuthenticated = false → s.Quiet

/-- What was decoded stays decoded. -/
theorem Step.admitted (h : Step cfg s a s') (had : Admitted cfg.token s.conn.log) :
    Admitted cfg.token s'.conn.log := by
  obtain ⟨i, digest, hd, hmem⟩ := had
  obtain ⟨new, hlog⟩ := h.log_cases
  exact ⟨i, digest, hd, hlog ▸ List.mem_append_right _ hmem⟩

end Established

/-- A handler comes to set the flag only by decoding a valid digest. -/
theorem TaskStep.setter {token : List Digest} {c c' : Connection} {i : Nat} {t t' : Task}
    (h : TaskStep token c i t c' t') (hpc' : t'.pc = .setAuthenticated) :
    Admitted token c'.log := by
  have hentered := h.enteredBy
  rw [hpc'] at hentered
  obtain ⟨-, digest, hd, rfl⟩ := hentered
  exact ⟨i, digest, hd, List.mem_cons_self⟩

/-- A handler gets past the barrier only with the flag set, by a poll of it. -/
theorem TaskStep.past {token : List Digest} {c c' : Connection} {i : Nat} {t t' : Task}
    (h : TaskStep token c i t c' t') (hpast : t'.pc.isPast = true) :
    t.pc.isPast = true ∨ c.isAuthenticated.isAuthenticated = true := by
  have hentered := h.enteredBy
  cases hpc' : t'.pc with
  | dispatch cmd =>
    rw [hpc'] at hentered
    exact Or.inr hentered
  | relay r =>
    rw [hpc'] at hentered
    rcases hentered with ⟨cmd, cell, task, hpc, -⟩ | ⟨r₀, events, recv, hpc, -⟩
    · exact Or.inl (by rw [hpc]; rfl)
    · exact Or.inl (by rw [hpc]; rfl)
  | _ =>
    rw [hpc'] at hpast
    cases hpast

/-- A handler that is not past the barrier touches neither the relay mode nor the session table. -/
theorem TaskStep.frame_of_not_past {token : List Digest} {c c' : Connection} {i : Nat} {t t' : Task}
    (h : TaskStep token c i t c' t') (hpast : t.pc.isPast = false) :
    c'.udpPacketFrom = c.udpPacketFrom ∧ c'.udpSessions = c.udpSessions := by
  refine ⟨h.frame.mode.resolve_right ?_, h.frame.udpSessions.resolve_right ?_⟩
  · rintro ⟨cmd, res, hpc, -⟩
    rw [hpc] at hpast
    cases hpast
  · rintro ⟨r, events, recv, r', hpc, -⟩
    rw [hpc] at hpast
    cases hpast

/-- A handler that is not past the barrier has no relay effect. -/
theorem TaskStep.quiet {token : List Digest} {c c' : Connection} {i : Nat} {t t' : Task}
    (h : TaskStep token c i t c' t') (hpast : t.pc.isPast = false)
    (hlog : ∀ e ∈ c.log, e.isRelay = false) : ∀ e ∈ c'.log, e.isRelay = false := by
  cases h with
  | decodes cmd rest hpc hread => simpa [Event.isRelay] using hlog
  | closeFailed hpc => simpa [Event.isRelay] using hlog
  | fail err hpc => simpa [Event.isRelay] using hlog
  | dispatch cmd hpc cell res hres =>
    rw [hpc] at hpast
    cases hpast
  | relay r u events recv r' hpc hstep =>
    rw [hpc] at hpast
    cases hpast
  | readFails err hpc hst => exact hlog
  | undecodable err hpc hread hst => exact hlog
  | decoderPanics hpc hread => exact hlog
  | setAuthenticated hpc => exact hlog
  | wakeAuthenticated hpc => exact hlog
  | wakeFailed hpc => exact hlog
  | poll cmd hpc => exact hlog

namespace Established

variable {cfg : Config} {s s' : Established} {a : Action}

/-- As long as no handler is past the barrier, every step keeps the connection quiet. -/
theorem Quiet.step (hq : s.Quiet) (h : Step cfg s a s')
    (hpast : All (fun _ t => t.pc.isPast = false) s.tasks) : s'.Quiet := by
  cases h with
  | task i outcome t t' conn hi hstep =>
    obtain ⟨hmode, hudp⟩ := hstep.frame_of_not_past (hpast i t hi)
    exact ⟨hmode.trans hq.mode, hudp ▸ hq.udp, hq.replies, hstep.quiet (hpast i t hi) hq.log⟩
  -- no packet was received, no session and no reply task is there to make a step
  | receive r rest b hhandle hrecv =>
    rw [hq.udp.recvPkt] at hrecv
    cases hrecv
  | session sid st u hstep =>
    obtain ⟨ses, _, heff⟩ := sessionStep_spec hstep
    have hsid := heff.session
    rw [hq.udp.sessions] at hsid
    cases hsid
  | reply k outcome pc pc' events hk hstep =>
    rw [hq.replies] at hk
    cases hk
  | listenerEnds reason b hhandle hclosed =>
    exact ⟨hq.mode, ⟨hq.udp.map, hq.udp.sessions, rfl, hq.udp.log⟩, hq.replies, hq.log⟩
  | timeoutWake hhandle =>
    exact ⟨hq.mode, ⟨hq.udp.map, hq.udp.sessions, rfl, hq.udp.log⟩, hq.replies, hq.log⟩
  | drop hhandle htasks hreplies =>
    exact ⟨hq.mode, ⟨rfl, hq.udp.sessions, hq.udp.recvPkt, hq.udp.log⟩, hq.replies, hq.log⟩
  | timeoutClose hhandle =>
    exact ⟨hq.mode, hq.udp, hq.replies, by simpa [Event.isRelay] using hq.log⟩
  | accept st t b hhandle hfresh => exact ⟨hq.mode, hq.udp, hq.replies, hq.log⟩
  | pollPending hhandle hpoll => exact ⟨hq.mode, hq.udp, hq.replies, hq.log⟩
  | pollReady hhandle res hpoll => exact ⟨hq.mode, hq.udp, hq.replies, hq.log⟩
  | timeout hhandle => exact ⟨hq.mode, hq.udp, hq.replies, hq.log⟩
  | unreachable hhandle => exact ⟨hq.mode, hq.udp, hq.replies, hq.log⟩
  | setClosed err hhandle => exact ⟨hq.mode, hq.udp, hq.replies, hq.log⟩
  | stream i ev t recv hi hrecv => exact ⟨hq.mode, hq.udp, hq.replies, hq.log⟩
  | peerClose err => exact ⟨hq.mode, hq.udp, hq.replies, hq.log⟩

/-- The gate is kept by every step. -/
theorem Gate.step (hg : s.Gate cfg.token) (h : Step cfg s a s') : s'.Gate cfg.token := by
  constructor
  -- who set the flag had decoded a valid digest, and the log still has it
  · intro hflag
    rcases h.flag_cases with heq | ⟨-, i, t, hi, hpc, -⟩
    · exact h.admitted (hg.flag (heq ▸ hflag))
    · exact h.admitted (hg.setter i t hi hpc)
  · intro j t' hj hpc'
    rcases h.task_cases hj with ⟨hj, -⟩ | ⟨-, hfresh⟩ | ⟨-, t, -, -, hstep⟩ |
      ⟨-, t, recv, -, hj₀, -, rfl⟩
    · exact h.admitted (hg.setter j t' hj hpc')
    · rw [hfresh.1] at hpc'
      cases hpc'
    · exact hstep.setter hpc'
    · exact h.admitted (hg.setter j t hj₀ hpc')
  · intro j t' hj hpast
    refine h.extends.flag ?_
    rcases h.task_cases hj with ⟨hj, -⟩ | ⟨-, hfresh⟩ | ⟨-, t, -, hj, hstep⟩ |
      ⟨-, t, recv, -, hj₀, -, rfl⟩
    · exact hg.past j t' hj hpast
    · rw [hfresh.1] at hpast
      cases hpast
    · rcases hstep.past hpast with hold | hflag
      · exact hg.past j t hj hold
      · exact hflag
    · exact hg.past j t hj₀ hpast
  -- the flag was unset before, so nobody was past the barrier, and the step is a quiet one
  · intro hflag'
    have hflag : s.conn.isAuthenticated.isAuthenticated = false := by
      by_contra hset
      rw [h.extends.flag (by simpa using hset)] at hflag'
      cases hflag'
    refine (hg.quiet hflag).step h fun i t hi => ?_
    by_contra hpast
    rw [hg.past i t hi (by simpa using hpast)] at hflag
    cases hflag

/-- The gate holds in every reachable state. -/
theorem gate_of_reachable (h : (connectionSystem cfg).Reachable s) : s.Gate cfg.token := by
  refine h.invariant (I := Gate cfg.token) ⟨?_, All.nil, All.nil, fun _ => ?_⟩
    fun s a s' _ hg _ hstep => hg.step (step_cases hstep)
  · intro hflag
    cases hflag
  · exact ⟨rfl, ⟨rfl, rfl, rfl, rfl⟩, rfl, fun e he => by cases he⟩

/-- **The authentication gate.** In every reachable state in which no valid `Authenticate` was
decoded from a unidirectional stream, the relay mode is not fixed, the session table was never
touched, no socket was created and no packet sent or received, no name was looked up, no TCP
connection was tried, and nothing was written to the client. -/
theorem relays_nothing_before_authentication (cfg : Config) (s : Established)
    (h : (connectionSystem cfg).Reachable s) (hnot : ¬ Admitted cfg.token s.conn.log) :
    s.conn.udpPacketFrom = none ∧ s.conn.udpSessions.map = ∅ ∧ s.conn.udpSessions.sessions = [] ∧
      s.conn.udpSessions.log = [] ∧ s.replies = [] ∧ ∀ e ∈ s.conn.log, e.isRelay = false := by
  have hg := gate_of_reachable h
  have hflag : s.conn.isAuthenticated.isAuthenticated = false := by
    by_contra hset
    exact hnot (hg.flag (by simpa using hset))
  have hq := hg.quiet hflag
  exact ⟨hq.mode, hq.udp.map, hq.udp.sessions, hq.udp.log, hq.replies, hq.log⟩

/-- A `Packet` and a `Connect` of a client that is not authenticated wait, and nothing else happens.
-/
theorem relays_nothing_before_authentication_parked :
    ∃ s, (connectionSystem ⟨[.replicate 32 7], 1500⟩).Reachable s ∧
      s.tasks.map Task.pc =
        [.parked (.packet 7 2 (.socketAddress (.v4 ⟨127, 0, 0, 1⟩ 53))),
          .parked (.connect (.socketAddress (.v4 ⟨127, 0, 0, 1⟩ 80)))] ∧
      s.conn.udpPacketFrom = none ∧ s.conn.udpSessions.map = ∅ ∧
      s.conn.udpSessions.sessions = [] ∧ s.conn.udpSessions.log = [] ∧ s.replies = [] ∧
      ∀ e ∈ s.conn.log, e.isRelay = false := by
  obtain ⟨s, hs, hp⟩ := System.exists_reachable_of_run
    (connectionSystem ⟨[.replicate 32 7], 1500⟩)
    [.handle (.acceptDatagram [4, 2, 0, 0, 0, 7, 0, 2, 1, 127, 0, 0, 1, 0, 53, 1, 2]),
      .handle .acceptBiStream, .stream 1 (.data [4, 1, 1, 127, 0, 0, 1, 0, 80]), .task 0 .ok,
      .task 0 .ok, .task 1 .ok, .task 1 .ok]
    (fun s => decide (s.tasks.map Task.pc =
        [.parked (.packet 7 2 (.socketAddress (.v4 ⟨127, 0, 0, 1⟩ 53))),
          .parked (.connect (.socketAddress (.v4 ⟨127, 0, 0, 1⟩ 80)))] ∧
      s.conn.log = [.decoded 1 .biStream (.connect (.socketAddress (.v4 ⟨127, 0, 0, 1⟩ 80))),
        .decoded 0 .datagram (.packet 7 2 (.socketAddress (.v4 ⟨127, 0, 0, 1⟩ 53)))]))
    (by decide)
  obtain ⟨hpc, hlog⟩ := of_decide_eq_true hp
  refine ⟨s, hs, hpc, relays_nothing_before_authentication _ s hs ?_⟩
  rintro ⟨i, digest, -, hmem⟩
  simp [hlog] at hmem

end Established

end Tuic.Server
