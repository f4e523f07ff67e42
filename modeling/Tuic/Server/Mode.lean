import Tuic.Server.ArrivalOrder
import Tuic.Server.Payload

/-! # The UDP relay mode of a connection

The kind of channel a client sends its packets on is fixed by the first packet that passes the
`match` on its command, and everything about UDP follows it from then on: every packet that is
relayed came in on that kind of channel, every reply is written to it, and a packet on the other
kind is answered with the error for a bad command and touches no session.

`Event.mode?` reads the kind of channel off the log of a connection, so that the statement is about
whole runs; `modes_of_reachable` carries it through them. -/

namespace Tuic.Server

open ByteCodec Transition

/-! ## Which events are of which mode -/

/-- The mode of a relay task that relays a packet. -/
def RelayTask.mode? : RelayTask → Option UdpPacketSource
  | .packetFromUniStream _ _ _ => some .uniStream
  | .packetFromDatagram _ _ _ => some .datagram
  | .connect _ | .dissociate _ => none

/-- The mode of a channel to the client that carries replies. -/
def PeerChannel.mode? : PeerChannel → Option UdpPacketSource
  | .uniStream _ => some .uniStream
  | .datagram _ => some .datagram
  | .biStream _ => none

/-- The kind of channel of a packet that is relayed, or of a reply that is written. -/
def Event.mode? : Event → Option UdpPacketSource
  | .started _ task => task.mode?
  | .toPeer ch _ | .finish ch => ch.mode?
  | .decoded _ _ _ | .lookupHost _ _ _ | .tcpConnect _ _ _ | .toTarget _ _ | .close _ _ => none

/-- Packets are relayed by the task of their channel, and nothing else is. -/
theorem Source.relayTask_mode {src : Source} {data : Bytes} {cmd : Command} {task : RelayTask}
    (h : src.relayTask data cmd = some task) {m : UdpPacketSource} (hm : task.mode? = some m) :
    src.mode = some m ∧ ∃ assocId len addr, cmd = .packet assocId len addr := by
  unfold Source.relayTask at h
  split at h
  · rename_i assocId len addr
    cases h
    exact ⟨hm, assocId, len, addr, rfl⟩
  · cases h
    cases hm
  · cases h
    cases hm
  · rename_i assocId len addr
    cases h
    exact ⟨hm, assocId, len, addr, rfl⟩
  · cases h

/-- `connect` writes no reply. -/
theorem Event.OfConnect.mode? {i : Nat} {e : Event} (h : e.OfConnect i) : e.mode? = none := by
  cases h <;> rfl

/-- A reply goes to the channel that was looked up for it. -/
theorem ReplyStep.mode? {cell : UdpPacketFrom} {k : Nat} {pc pc' : ReplyPc} {events : List Event}
    (h : ReplyStep cell k pc events pc') {e : Event} (he : e ∈ events) {m : UdpPacketSource}
    (hm : e.mode? = some m) : ∃ r, pc = .packetTo m r := by
  cases h with
  -- nothing is written before the mode is looked up, nor by a reply that fails at once
  | unwrapFails r hcell => cases he
  | check src r hcell => cases he
  | fails src r => cases he
  | uniStream r =>
    refine ⟨r, ?_⟩
    rcases List.mem_cons.mp he with rfl | he
    · cases hm
      rfl
    · rw [List.mem_singleton.mp he] at hm
      cases hm
      rfl
  | cut r n =>
    rw [List.mem_singleton.mp he] at hm
    cases hm
    exact ⟨r, rfl⟩
  | datagram r =>
    rw [List.mem_singleton.mp he] at hm
    cases hm
    exact ⟨r, rfl⟩

/-- A reply looks the mode up once. -/
theorem ReplyStep.packetTo {cell : UdpPacketFrom} {k : Nat} {pc pc' : ReplyPc}
    {events : List Event} (h : ReplyStep cell k pc events pc') {m : UdpPacketSource} {r : Reply}
    (hpc : pc' = .packetTo m r) : cell = some m := by
  cases h with
  | check src r hcell =>
    cases hpc
    exact hcell
  | unwrapFails r hcell => cases hpc
  | uniStream r => cases hpc
  | cut r n => cases hpc
  | datagram r => cases hpc
  | fails src r => cases hpc

/-! ## The mode of a connection -/

/-- A step of a handler records a relayed packet only when its channel is of the mode. -/
theorem TaskStep.mode? {token : List Digest} {c c' : Connection} {i : Nat} {t t' : Task}
    (h : TaskStep token c i t c' t') (hs : t.Sound token c) {e : Event} (he : e ∈ c'.log)
    {m : UdpPacketSource} (hm : e.mode? = some m) : e ∈ c.log ∨ c'.udpPacketFrom = some m := by
  cases h with
  | dispatch cmd hpc cell res hres =>
    have hpcs := hs.2
    rw [hpc] at hpcs
    obtain ⟨hc, hawait, -⟩ := hpcs
    rcases List.mem_append.mp he with he | he
    · cases res with
      | start task =>
        cases List.mem_singleton.mp he
        right
        -- what is started is a packet, and its claim of the mode succeeded
        generalize hstart : Dispatched.start task = res at hres
        cases dispatch_cases hc hawait hres with
        | packet assocId len addr m' task' hm' hcell htask =>
          cases hstart
          obtain ⟨hsrc, -⟩ := Source.relayTask_mode htask hm
          exact hm'.symm.trans hsrc
        | other cmd task' hcmd htask =>
          cases hstart
          obtain ⟨-, assocId, len, addr, rfl⟩ := Source.relayTask_mode htask hm
          exact absurd rfl (hcmd assocId len addr)
        | otherMode assocId len addr m' m'' hm' hcell hne => cases hstart
        | heartbeat hsrc => cases hstart
        | notAllowed cmd htask hcmd => cases hstart
      | returned r => cases he
      | panicked => cases he
    · exact Or.inl he
  | relay r u events recv r' hpc hstep =>
    rcases List.mem_append.mp he with he | he
    · rw [(hstep.ofConnect e (List.mem_reverse.mp he)).mode?] at hm
      cases hm
    · exact Or.inl he
  | decodes cmd rest hpc hread =>
    rcases List.mem_cons.mp he with rfl | he
    · cases hm
    · exact Or.inl he
  | closeFailed hpc =>
    rcases List.mem_cons.mp he with rfl | he
    · cases hm
    · exact Or.inl he
  | fail err hpc =>
    rcases List.mem_cons.mp he with rfl | he
    · cases hm
    · exact Or.inl he
  | readFails err hpc hst => exact Or.inl he
  | undecodable err hpc hread hst => exact Or.inl he
  | decoderPanics hpc hread => exact Or.inl he
  | setAuthenticated hpc => exact Or.inl he
  | wakeAuthenticated hpc => exact Or.inl he
  | wakeFailed hpc => exact Or.inl he
  | poll cmd hpc => exact Or.inl he

namespace Established

variable {cfg : Config} {s s' : Established} {a : Action}

/-- Everything about UDP is of the mode of the connection: the packets that were relayed and the
replies that were written, and the replies that have looked the mode up. -/
structure Modes (s : Established) : Prop where
  /-- What is in the log. -/
  log : ∀ e ∈ s.conn.log, ∀ m, e.mode? = some m → s.conn.udpPacketFrom = some m
  /-- What is about to be written. -/
  replies : ∀ m r, .packetTo m r ∈ s.replies → s.conn.udpPacketFrom = some m

/-- Every step keeps to the mode. -/
theorem Modes.step (hm : s.Modes) (hs : All (fun _ t => t.Sound cfg.token s.conn) s.tasks)
    (h : Step cfg s a s') : s'.Modes := by
  have hkeep : ∀ {m}, s.conn.udpPacketFrom = some m → s'.conn.udpPacketFrom = some m :=
    h.extends.mode
  -- most steps add nothing to the log and look no mode up
  have hsame : s'.conn.log = s.conn.log → s'.replies = s.replies → s'.Modes := by
    intro hlog hreplies
    refine ⟨fun e he m hem => hkeep (hm.log e (hlog ▸ he) m hem), fun m r hr => ?_⟩
    exact hkeep (hm.replies m r (hreplies ▸ hr))
  cases h with
  | task i outcome t t' conn hi hstep =>
    refine ⟨fun e he m hem => ?_, fun m r hr => hkeep (hm.replies m r hr)⟩
    rcases hstep.mode? (hs i t hi) he hem with hold | hnew
    · exact hkeep (hm.log e hold m hem)
    · exact hnew
  | reply k outcome pc pc' events hk hstep =>
    refine ⟨fun e he m hem => ?_, fun m r hr => ?_⟩
    · rcases List.mem_append.mp he with he | he
      · obtain ⟨r, hpc⟩ := (replyStep_cases hstep).mode? (List.mem_reverse.mp he) hem
        exact hm.replies m r (hpc ▸ List.mem_of_getElem? hk)
      · exact hm.log e he m hem
    · rcases List.mem_or_eq_of_mem_set hr with hr | hr
      · exact hm.replies m r hr
      · exact (replyStep_cases hstep).packetTo hr.symm
  | receive r rest b hhandle hrecv =>
    refine ⟨hm.log, fun m r' hr => ?_⟩
    rcases List.mem_append.mp hr with hr | hr
    · exact hm.replies m r' hr
    · cases List.mem_singleton.mp hr
  | timeoutClose hhandle =>
    refine ⟨fun e he m hem => ?_, hm.replies⟩
    rcases List.mem_cons.mp he with rfl | he
    · cases hem
    · exact hm.log e he m hem
  | accept st t b hhandle hfresh => exact hsame rfl rfl
  | listenerEnds reason b hhandle hclosed => exact hsame rfl rfl
  | pollPending hhandle hpoll => exact hsame rfl rfl
  | pollReady hhandle res hpoll => exact hsame rfl rfl
  | timeout hhandle => exact hsame rfl rfl
  | timeoutWake hhandle => exact hsame rfl rfl
  | unreachable hhandle => exact hsame rfl rfl
  | setClosed err hhandle => exact hsame rfl rfl
  | session sid st u hstep => exact hsame rfl rfl
  | stream i ev t recv hi hrecv => exact hsame rfl rfl
  | peerClose err => exact hsame rfl rfl
  | drop hhandle htasks hreplies => exact hsame rfl rfl

/-- **Every run keeps to the mode of its connection.** -/
theorem modes_of_reachable {C : Established → Action → Prop}
    (h : (connectionSystem cfg).ReachableBy C s) : s.Modes := by
  refine h.invariant (I := Modes) ⟨?_, ?_⟩ ?_
  · intro e he
    cases he
  · intro m r hr
    cases hr
  · exact fun s a s' hs hm _ hstep => hm.step (sound_of_reachable hs) (step_cases hstep)

/-- **The first packet fixes the mode**: the step that sets it is the `match` of a handler with a
packet on that kind of channel, which is relayed. -/
theorem Step.mode_fixed (h : Step cfg s a s')
    (hs : All (fun _ t => t.Sound cfg.token s.conn) s.tasks) {m : UdpPacketSource}
    (hnone : s.conn.udpPacketFrom = none) (hm : s'.conn.udpPacketFrom = some m) :
    ∃ (i : Nat) (t : Task) (assocId : UInt32) (len : UInt16) (addr : Address) (task : RelayTask),
      s.tasks[i]? = some t ∧ t.source.mode = some m ∧ t.pc = .dispatch (.packet assocId len addr) ∧
        s'.conn.log = .started i task :: s.conn.log ∧ task.mode? = some m := by
  have hne : s'.conn.udpPacketFrom ≠ s.conn.udpPacketFrom := by
    rw [hm, hnone]
    exact Option.some_ne_none m
  rcases h.task_or_untouched with ⟨i, t, t', hi, -, hstep⟩ | hu
  · have hpcs := (hs i t hi).2
    generalize s'.conn = c' at hm hne hstep
    -- of the steps of a handler, only the `match` sets the mode
    cases hstep with
    | dispatch cmd hpc cell res hres =>
      rw [hpc] at hpcs
      obtain ⟨hc, hawait, -⟩ := hpcs
      cases dispatch_cases hc hawait hres with
      | packet assocId len addr m' task hm' hcell htask =>
        have hmode : task.mode? = some m' := by
          cases hsrc : t.source <;> rw [hsrc] at hm' htask <;> cases hm' <;> cases htask <;> rfl
        cases hm
        exact ⟨i, t, assocId, len, addr, task, hi, hm', hpc, rfl, hmode⟩
      | otherMode assocId len addr m' m'' hm' hcell hne' => exact absurd rfl hne
      | other cmd task hcmd htask => exact absurd rfl hne
      | heartbeat hsrc => exact absurd rfl hne
      | notAllowed cmd htask hcmd => exact absurd rfl hne
    | readFails err hpc hst => exact absurd rfl hne
    | decodes cmd rest hpc hread => exact absurd rfl hne
    | undecodable err hpc hread hst => exact absurd rfl hne
    | decoderPanics hpc hread => exact absurd rfl hne
    | setAuthenticated hpc => exact absurd rfl hne
    | wakeAuthenticated hpc => exact absurd rfl hne
    | closeFailed hpc => exact absurd rfl hne
    | wakeFailed hpc => exact absurd rfl hne
    | poll cmd hpc => exact absurd rfl hne
    | relay r u events recv r' hpc hrelay => exact absurd rfl hne
    | fail err hpc => exact absurd rfl hne
  · exact absurd hu.mode hne

end Established

/-! ## Packets of the other mode -/

/-- The item of a handler is a packet on the kind of channel that is not the mode. -/
def Task.OtherMode (c : Connection) (t : Task) : Prop :=
  ∃ (assocId : UInt32) (len : UInt16) (addr : Address) (m m' : UdpPacketSource),
    Carries t.recv.data (.packet assocId len addr) ∧ t.source.mode = some m ∧
      c.udpPacketFrom = some m' ∧ m' ≠ m

section Other

variable {token : List Digest} {c c' : Connection} {i : Nat} {t t' : Task}

/-- A handler with such a packet has started no relay task. -/
theorem Task.OtherMode.not_started (ho : t.OtherMode c) (hs : t.Sound token c) :
    t.pc.isStarted = false := by
  obtain ⟨assocId, len, addr, m, m', hc, hm, hm', hne⟩ := ho
  -- what was started would be of the mode
  have hfits : ∀ {cmd}, Carries t.recv.data cmd → ¬ ModeFits c t.source cmd := by
    intro cmd hcmd hfits
    obtain ⟨m'', hsrc, hcell⟩ := hfits assocId len addr (hcmd.unique hc)
    rw [hm] at hsrc
    rw [hm'] at hcell
    cases hsrc
    cases hcell
    exact hne rfl
  obtain ⟨-, hpcs⟩ := hs
  cases hpc : t.pc with
  | relay r =>
    rw [hpc] at hpcs
    obtain ⟨cmd, task, hcmd, -, -, -, hmode⟩ := hpcs
    exact absurd hmode (hfits hcmd)
  | done =>
    rw [hpc] at hpcs
    obtain ⟨cmd, hcmd, -, ⟨task, -, hmode⟩ | ⟨-, hbeat | ⟨digest, -, hauth⟩⟩⟩ := hpcs
    · exact absurd hmode (hfits hcmd)
    · cases hbeat.symm.trans (hcmd.unique hc)
    · cases hauth.symm.trans (hcmd.unique hc)
  | _ => rfl

/-- No step of it touches a session. -/
theorem Task.OtherMode.sessions (ho : t.OtherMode c) (hs : t.Sound token c)
    (h : TaskStep token c i t c' t') : c'.udpSessions = c.udpSessions := by
  rcases h.frame.udpSessions with heq | ⟨r, -, -, -, hpc, -⟩
  · exact heq
  · have hstarted := ho.not_started hs
    rw [hpc] at hstarted
    cases hstarted

/-- The `match` on such a packet fails. -/
theorem Task.OtherMode.dispatch (ho : t.OtherMode c) (hs : t.Sound token c) {cmd : Command}
    (hpc : t.pc = .dispatch cmd) :
    Server.dispatch c.udpPacketFrom t.source t.recv.data cmd =
      (c.udpPacketFrom, .returned (.error .badCommand)) := by
  obtain ⟨-, hpcs⟩ := hs
  rw [hpc] at hpcs
  obtain ⟨hcmd, hawait, -⟩ := hpcs
  obtain ⟨assocId, len, addr, m, m', hc, hm, hm', hne⟩ := ho
  obtain rfl := hcmd.unique hc
  generalize hres : Server.dispatch c.udpPacketFrom t.source t.recv.data _ = res
  obtain ⟨cell, res⟩ := res
  cases dispatch_cases hcmd hawait hres with
  | packet _ _ _ m'' task hm'' hcell htask =>
    rw [hm] at hm''
    cases hm''
    rcases hcell with hcell | hcell
    · rw [hm'] at hcell
      cases hcell
    · rw [hm'] at hcell
      cases hcell
      exact absurd rfl hne
  | otherMode _ _ _ _ _ _ _ _ => rfl
  | other _ task hcmd' htask => exact absurd rfl (hcmd' assocId len addr)
  | notAllowed _ htask hcmd' => rfl

/-- So its handler fails with the error for a bad command. -/
theorem Task.OtherMode.badCommand (ho : t.OtherMode c) (hs : t.Sound token c) {cmd : Command}
    (hpc : t.pc = .dispatch cmd) (outcome : Outcome) :
    t.step token c i outcome = some (c, { t with pc := .fail .badCommand }) := by
  have hmatch := ho.dispatch hs hpc
  rw [Task.step, hpc]
  simp only [hmatch]
  rfl

end Other

namespace Established

variable {cfg : Config} {s s' : Established} {a : Action} {i : Nat} {t : Task}

/-- Handler `i` goes on, with no step of any other task, until it has closed the connection with an
error, which is then the last thing on the record, and `P` holds. -/
def GoesOnToClose (cfg : Config) (s : Established) (i : Nat) (err : DispatchError)
    (P : Established → Prop) : Prop :=
  ∃ (n : Nat) (s' : Established) (log : List Event),
    (connectionSystem cfg).run s (List.replicate n (.task i .ok)) = some s' ∧
      s'.conn.log = .close err.asErrorCode err.toString :: log ∧ P s'

/-- A handler that returned an error closes the connection with it. -/
theorem goesOnToClose_of_fail {err : DispatchError} {P : Established → Prop}
    (hi : s.tasks[i]? = some t) (hpc : t.pc = .fail err)
    (hP : P { s with
      conn := s.conn.close err
      tasks := s.tasks.set i { t with pc := .failed err } }) :
    s.GoesOnToClose cfg i err P := by
  have hstep : t.step cfg.token s.conn i .ok =
      some (s.conn.close err, { t with pc := .failed err }) := by
    rw [Task.step, hpc]
  exact ⟨1, _, _, System.run_singleton (step_task cfg hi hstep), rfl, hP⟩

/-- One more step on the way. -/
theorem GoesOnToClose.step {err : DispatchError} {P Q : Established → Prop}
    (h : (connectionSystem cfg).step s (.task i .ok) = some s')
    (hPQ : ∀ s'', P s'' → Q s'') (hc : s'.GoesOnToClose cfg i err P) :
    s.GoesOnToClose cfg i err Q := by
  obtain ⟨n, s'', log, hrun, hlog, hP⟩ := hc
  refine ⟨n + 1, s'', log, ?_, hlog, hPQ s'' hP⟩
  rw [List.replicate_succ, System.run, h]
  exact hrun

/-- Handler `i` goes on until the connection is closed for a bad command, and touches no session. -/
def Answered (cfg : Config) (s : Established) (i : Nat) : Prop :=
  s.GoesOnToClose cfg i .badCommand fun s' => s'.conn.udpSessions = s.conn.udpSessions

/-- One more step on the way, which touches no session either. -/
theorem Answered.step (h : (connectionSystem cfg).step s (.task i .ok) = some s')
    (hsame : s'.conn.udpSessions = s.conn.udpSessions) (ha : s'.Answered cfg i) :
    s.Answered cfg i :=
  GoesOnToClose.step h (fun _ hsessions => hsessions.trans hsame) ha

/-- A packet that reaches its `match` is answered. -/
theorem answered_of_dispatch (h : (connectionSystem cfg).Reachable s) (hi : s.tasks[i]? = some t)
    (ho : t.OtherMode s.conn) {cmd : Command} (hpc : t.pc = .dispatch cmd) : s.Answered cfg i := by
  have hstep := step_task cfg hi (ho.badCommand (sound_of_reachable h i t hi) hpc .ok)
  exact Answered.step hstep rfl (goesOnToClose_of_fail (getElem?_set_of_some hi) rfl rfl)

/-- The barrier of an authenticated connection lets it get there. -/
theorem answered_of_await (h : (connectionSystem cfg).Reachable s) (hi : s.tasks[i]? = some t)
    (ho : t.OtherMode s.conn) (hflag : s.conn.isAuthenticated.isAuthenticated = true)
    (hopen : s.conn.isAuthenticated.isConnectionClosed.check = false) {cmd : Command}
    (hpc : t.pc = .await cmd) : s.Answered cfg i := by
  obtain ⟨src, recv, pc⟩ := t
  cases hpc
  have hstep := step_task cfg hi (Task.step_await .ok hopen hflag)
  exact Answered.step hstep rfl
    (answered_of_dispatch (.step h trivial hstep) (getElem?_set_of_some hi) ho rfl)

/-- **A packet of the other mode is answered**, when its handler gets to the barrier on an
authenticated connection that has not ended: the connection is closed for a bad command. -/
theorem answered_of_read (h : (connectionSystem cfg).Reachable s) (hi : s.tasks[i]? = some t)
    (ho : t.OtherMode s.conn) (hflag : s.conn.isAuthenticated.isAuthenticated = true)
    (hopen : s.conn.isAuthenticated.isConnectionClosed.check = false) (hpc : t.pc = .read) :
    s.Answered cfg i := by
  obtain ⟨assocId, len, addr, m, m', ⟨rest, hrest⟩, hmodes⟩ := ho
  have hread : t.step cfg.token s.conn i .ok =
      some (s.conn.emit [.decoded i t.source (.packet assocId len addr)],
        { t with
          recv := t.recv.advance (t.recv.data.length - rest.length)
          pc := .await (.packet assocId len addr) }) := by
    rw [Task.step, hpc]
    simp only [Task.readCommand, hrest, Pc.ofCommand_packet]
  have hstep := step_task cfg hi hread
  exact Answered.step hstep rfl (answered_of_await (.step h trivial hstep)
    (getElem?_set_of_some hi) ⟨assocId, len, addr, m, m', ⟨rest, hrest⟩, hmodes⟩ hflag hopen rfl)

/-- **The relay mode of a connection is fixed by its first packet.** In every reachable state, for
every peer and every interleaving:

* the mode does not change once it is set, and it is set by the first packet that is relayed, to the
  kind of channel that packet came in on;
* every packet that was relayed, and every reply that was written, is on that kind of channel;
* a packet on the other kind starts no relay task, its handler touches no session, its `match` fails
  with the error for a bad command, and the connection is closed with the code of that error. -/
theorem relayMode_fixed (cfg : Config) (s : Established) (h : (connectionSystem cfg).Reachable s) :
    (∀ a s' m, (connectionSystem cfg).step s a = some s' → s.conn.udpPacketFrom = some m →
      s'.conn.udpPacketFrom = some m) ∧
    (∀ a s' m, (connectionSystem cfg).step s a = some s' → s.conn.udpPacketFrom = none →
      s'.conn.udpPacketFrom = some m →
      ∃ (i : Nat) (t : Task) (assocId : UInt32) (len : UInt16) (addr : Address) (task : RelayTask),
        s.tasks[i]? = some t ∧ t.source.mode = some m ∧
          t.pc = .dispatch (.packet assocId len addr) ∧
          s'.conn.log = .started i task :: s.conn.log ∧ task.mode? = some m) ∧
    (∀ e ∈ s.conn.log, ∀ m, e.mode? = some m → s.conn.udpPacketFrom = some m) ∧
    (∀ (i : Nat) (t : Task), s.tasks[i]? = some t → t.OtherMode s.conn →
      t.pc.isStarted = false ∧
      (∀ outcome s', (connectionSystem cfg).step s (.task i outcome) = some s' →
        s'.conn.udpSessions = s.conn.udpSessions) ∧
      (∀ cmd outcome, t.pc = .dispatch cmd →
        t.step cfg.token s.conn i outcome = some (s.conn, { t with pc := .fail .badCommand })) ∧
      (s.conn.isAuthenticated.isAuthenticated = true →
        s.conn.isAuthenticated.isConnectionClosed.check = false → t.pc = .read →
        s.Answered cfg i)) := by
  have hs := sound_of_reachable h
  refine ⟨fun a s' m hstep => (step_cases hstep).extends.mode,
    fun a s' m hstep => (step_cases hstep).mode_fixed hs, (modes_of_reachable h).log,
    fun i t hi ho => ⟨ho.not_started (hs i t hi), fun outcome s' hstep => ?_,
      fun cmd outcome hpc => ho.badCommand (hs i t hi) hpc outcome,
      fun hflag hopen hpc => answered_of_read h hi ho hflag hopen hpc⟩⟩
  cases step_cases hstep with
  | task _ _ t' t'' conn hi' htask =>
    rw [hi] at hi'
    cases hi'
    exact ho.sessions (hs i t hi) htask

/-- The theorem at a run in which a packet on a stream follows one in a datagram. -/
theorem relayMode_fixed_datagram :
    ∃ s, (connectionSystem ⟨[⟨List.replicate 32 0, rfl⟩], 1500⟩).Reachable s ∧
      s.conn.udpPacketFrom = some .datagram ∧
      ∀ e ∈ s.conn.log, ∀ m, e.mode? = some m → s.conn.udpPacketFrom = some m := by
  obtain ⟨s, hs, hp⟩ := System.exists_reachable_of_run
    (connectionSystem ⟨[⟨List.replicate 32 0, rfl⟩], 1500⟩)
    [.handle .acceptUniStream, .stream 0 (.data (4 :: 0 :: List.replicate 32 0)),
      .task 0 .ok, .task 0 .ok, .task 0 .ok,
      .handle (.acceptDatagram [4, 2, 0, 0, 0, 7, 0, 1, 1, 127, 0, 0, 1, 0, 53, 9]),
      .task 1 .ok, .task 1 .ok, .task 1 .ok,
      .handle .acceptUniStream,
      .stream 2 (.data [4, 2, 0, 0, 0, 7, 0, 1, 1, 127, 0, 0, 1, 0, 53, 9]),
      .task 2 .ok, .task 2 .ok, .task 2 .ok, .task 2 .ok]
    (fun s => decide (s.conn.udpPacketFrom = some .datagram ∧
      s.conn.controller = some (.closed DispatchError.codeBadCommand "bad command")))
    (by decide)
  exact ⟨s, hs, (of_decide_eq_true hp).1, (relayMode_fixed _ s hs).2.2.1⟩

end Established

end Tuic.Server
