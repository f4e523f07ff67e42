import Tuic.Server.ConnectionSteps

/-! # What a step leaves to the other tasks

The tasks of a connection share its flags, its relay mode, its session table, its wakers and its
log, and each of them is changed at a few places only. This file says so once for every step:

* **what no step takes back** (`Connection.Keeps`, for a task `me`): the flags, the relay mode once
  it is fixed, the end of the QUIC connection, the log, and the wakes and wakers of all tasks but
  `me`;
* **what a handler touches** (`TaskStep.Frame`) by where it stands, and **how it gets there**
  (`Pc.EnteredBy`);
* **what the other tasks do not touch** (`Connection.Untouched`): the flag, the relay mode and the
  entries of the session table are for the handlers alone.

Invariants of a connection are proved from these and from the cases of the one step that matters. -/

namespace Tuic.Server

open ByteCodec Transition

/-! ## What a connection never takes back -/

/-- What is never taken back: the two flags, and the relay mode once it is fixed. The waker slot of
the closed flag stays empty, since no task awaits `IsClosed`. -/
structure Connection.Extends (c c' : Connection) : Prop where
  /-- The client stays authenticated. -/
  flag : c.isAuthenticated.isAuthenticated = true → c'.isAuthenticated.isAuthenticated = true
  /-- A closed connection stays closed. -/
  closed : c.isAuthenticated.isConnectionClosed.check = true →
    c'.isAuthenticated.isConnectionClosed.check = true
  /-- Nobody comes to wait for the end itself. -/
  waker : c.isAuthenticated.isConnectionClosed.waker = none →
    c'.isAuthenticated.isConnectionClosed.waker = none
  /-- The relay mode stays as it was fixed. -/
  mode : ∀ {m}, c.udpPacketFrom = some m → c'.udpPacketFrom = some m

/-- Dispatching a command changes the relay mode only from unset. -/
theorem dispatch_mode {cell cell' : UdpPacketFrom} {src : Source} {data : Bytes} {cmd : Command}
    {res : Dispatched} (h : dispatch cell src data cmd = (cell', res)) {m : UdpPacketSource}
    (hm : cell = some m) : cell' = some m := by
  -- the cell changes by a claim only, and a claim changes it only from unset
  have hclaim : ∀ k, (UdpPacketFrom.claim k cell).2 = some m := by
    intro k
    rcases UdpPacketFrom.claim_cases k cell with ⟨hcell, hcl⟩ | ⟨m', hcell, -, hcl⟩
    · rw [hcl]
      rcases hcell with rfl | rfl
      · cases hm
      · exact hm
    · rw [hcl]
      exact hm
  cases src with
  | uniStream =>
    cases cmd with
    | packet assocId len addr =>
      have hcl := hclaim .uniStream
      simp only [dispatch, dispatchUniStream, UdpPacketFrom.uniStream] at h
      split at h <;> rename_i heq <;> cases h <;> simpa [heq] using hcl
    | _ =>
      cases h
      exact hm
  | biStream =>
    cases h
    exact hm
  | datagram =>
    cases cmd with
    | packet assocId len addr =>
      have hcl := hclaim .datagram
      simp only [dispatch, dispatchDatagram, UdpPacketFrom.datagram] at h
      split at h
      · rename_i heq
        split at h <;> cases h <;> simpa [heq] using hcl
      · rename_i heq
        cases h
        simpa [heq] using hcl
    | _ =>
      cases h
      exact hm

namespace Connection

/-- A task has its waker in the list, or a wake pending. -/
def Registered (c : Connection) (w : TaskId) : Prop :=
  w ∈ c.isAuthenticated.broadcast ∨ w ∈ c.woken

/-- What a step of task `me` keeps for the others. -/
structure Keeps (me : TaskId) (c c' : Connection) : Prop extends c.Extends c' where
  /-- A QUIC connection that is closed stays closed. -/
  controller : c.controller ≠ none → c'.controller ≠ none
  /-- Nothing is taken out of the log. -/
  log : ∃ new, c'.log = new ++ c.log
  /-- The wakes of the others stay pending. -/
  woken : ∀ w ≠ me, w ∈ c.woken → w ∈ c'.woken
  /-- The wakers of the others stay in the list, or are woken. -/
  registered : ∀ w ≠ me, c.Registered w → c'.Registered w

variable {me : TaskId} {c c' c'' : Connection}

/-- A drain turns wakers into wakes. -/
theorem mem_wake_woken {w : TaskId} : w ∈ c.wake.woken ↔ c.Registered w := List.mem_append

/-- Doing nothing keeps everything. -/
theorem Keeps.refl (me : TaskId) (c : Connection) : c.Keeps me c :=
  ⟨⟨id, id, id, id⟩, id, ⟨[], rfl⟩, fun _ _ => id, fun _ _ => id⟩

/-- Two steps of one task keep what each of them keeps. -/
theorem Keeps.trans (h : c.Keeps me c') (h' : c'.Keeps me c'') : c.Keeps me c'' where
  flag := h'.flag ∘ h.flag
  closed := h'.closed ∘ h.closed
  waker := h'.waker ∘ h.waker
  mode hm := h'.mode (h.mode hm)
  controller := h'.controller ∘ h.controller
  log := by
    obtain ⟨new, hlog⟩ := h.log
    obtain ⟨new', hlog'⟩ := h'.log
    exact ⟨new' ++ new, by rw [hlog', hlog, List.append_assoc]⟩
  woken w hw := h'.woken w hw ∘ h.woken w hw
  registered w hw := h'.registered w hw ∘ h.registered w hw

variable (me c)

/-- Recording events. -/
theorem keeps_emit (events : List Event) : c.Keeps me (c.emit events) :=
  { Keeps.refl me c with log := ⟨events.reverse, rfl⟩ }

/-- A new state of the session table. -/
theorem keeps_udpSessions (u : Udp) : c.Keeps me { c with udpSessions := u } :=
  { Keeps.refl me c with }

/-- A new relay mode, where none was fixed. -/
theorem keeps_udpPacketFrom {cell : UdpPacketFrom}
    (hcell : ∀ {m}, c.udpPacketFrom = some m → cell = some m) :
    c.Keeps me { c with udpPacketFrom := cell } :=
  { Keeps.refl me c with mode := hcell }

/-- The first reason to close the QUIC connection. -/
theorem keeps_controller (reason : CloseReason) :
    c.Keeps me { c with controller := c.controller.or (some reason) } :=
  { Keeps.refl me c with
    -- `or` keeps the reason that is there
    controller := fun hc => by
      cases hctl : c.controller with
      | none => exact absurd hctl hc
      | some r => simp }

/-- `controller.close` -/
theorem keeps_close (err : DispatchError) : c.Keeps me (c.close err) :=
  (c.keeps_controller me _).trans (keeps_emit me _ _)

/-- `set_authenticated` -/
theorem keeps_setAuthenticated : c.Keeps me c.setAuthenticated :=
  { Keeps.refl me c with flag := fun _ => rfl }

/-- `wake`: whoever was in the list has a wake pending. -/
theorem keeps_wake : c.Keeps me c.wake :=
  { Keeps.refl me c with
    woken := fun _ _ hmem => List.mem_append_right _ hmem
    registered := fun _ _ hreg => Or.inr (mem_wake_woken.mpr hreg) }

/-- `set_closed` -/
theorem keeps_setClosed : c.Keeps me c.setClosed :=
  { Keeps.refl me c with
    closed := fun _ => rfl
    waker := fun _ => rfl
    woken := fun _ _ hmem => List.mem_append_right _ hmem
    registered := fun _ _ hreg => hreg.imp_right (List.mem_append_right _) }

/-- A poll of task `me` uses up a wake of its own only. -/
theorem keeps_poll : c.Keeps me (c.poll me).1 := by
  obtain ⟨hflag, hclosed⟩ := c.poll_flags me
  have hwoken : ∀ w ≠ me, w ∈ c.woken → w ∈ (c.poll me).1.woken := fun w hw hmem =>
    List.mem_filter.mpr ⟨hmem, by simpa using hw⟩
  -- a pending poll adds to the list, and no poll takes from it
  have hbroadcast : ∀ w ∈ c.isAuthenticated.broadcast,
      w ∈ (c.poll me).1.isAuthenticated.broadcast := by
    intro w hb
    rcases c.poll_cases me with ⟨-, -, hbr⟩ | ⟨-, -, -, hbr⟩ | ⟨-, -, -, hbr⟩
    · exact hbr ▸ hb
    · exact hbr ▸ hb
    · exact hbr ▸ List.mem_append_left _ hb
  exact
    { flag := fun h => hflag ▸ h
      closed := fun h => hclosed ▸ h
      waker := fun h => hclosed ▸ h
      mode := id
      controller := id
      log := ⟨[], rfl⟩
      woken := hwoken
      registered := fun w hw hreg => hreg.imp (hbroadcast w) (hwoken w hw) }

end Connection

/-- No step of a handler takes anything from the others. -/
theorem TaskStep.keeps {token : List Digest} {c c' : Connection} {i : Nat} {t t' : Task}
    (h : TaskStep token c i t c' t') : c.Keeps (.handler i) c' := by
  cases h with
  | readFails err hpc hst => exact .refl _ c
  | decodes cmd rest hpc hread => exact c.keeps_emit _ _
  | undecodable err hpc hread hst => exact .refl _ c
  | decoderPanics hpc hread => exact .refl _ c
  | setAuthenticated hpc => exact c.keeps_setAuthenticated _
  | wakeAuthenticated hpc => exact c.keeps_wake _
  | closeFailed hpc => exact c.keeps_close _ _
  | wakeFailed hpc => exact c.keeps_wake _
  | poll cmd hpc => exact c.keeps_poll _
  | dispatch cmd hpc cell res hres =>
    exact (c.keeps_udpPacketFrom _ (dispatch_mode hres)).trans (Connection.keeps_emit _ _ _)
  | relay r u events recv r' hpc hstep =>
    exact (c.keeps_udpSessions _ u).trans (Connection.keeps_emit _ _ _)
  | fail err hpc => exact c.keeps_close _ _

/-! ## What a handler touches -/

/-- What a step of handler `i` changes of what the tasks share, by where the handler stands. -/
structure TaskStep.Frame (c : Connection) (i : Nat) (t : Task) (c' : Connection) (t' : Task) :
    Prop where
  /-- The flag is set by `set_authenticated`. -/
  flag : c'.isAuthenticated.isAuthenticated = c.isAuthenticated.isAuthenticated ∨
    t.pc = .setAuthenticated ∧ t' = { t with pc := .wakeAuthenticated } ∧
      c'.isAuthenticated.isAuthenticated = true
  /-- The closed flag is for the handle task alone. -/
  closed : c'.isAuthenticated.isConnectionClosed = c.isAuthenticated.isConnectionClosed
  /-- The relay mode is fixed by the `match` on the command. -/
  mode : c'.udpPacketFrom = c.udpPacketFrom ∨
    ∃ cmd res, t.pc = .dispatch cmd ∧
      Server.dispatch c.udpPacketFrom t.source t.recv.data cmd = (c'.udpPacketFrom, res)
  /-- The session table is changed by relay tasks. -/
  udpSessions : c'.udpSessions = c.udpSessions ∨
    ∃ r events recv r', t.pc = .relay r ∧
      RelayStep c.udpSessions i t.recv r c'.udpSessions events recv r'
  /-- The QUIC connection is closed for an invalid digest, and with the error of the handler. -/
  controller : c'.controller = c.controller ∨ t'.pc = .wakeFailed ∨
    ∃ err, t.pc = .fail err ∧ t'.pc = .failed err

/-- Every step of a handler is within its frame. -/
theorem TaskStep.frame {token : List Digest} {c c' : Connection} {i : Nat} {t t' : Task}
    (h : TaskStep token c i t c' t') : Frame c i t c' t' := by
  cases h with
  | setAuthenticated hpc =>
    exact ⟨Or.inr ⟨hpc, rfl, rfl⟩, rfl, Or.inl rfl, Or.inl rfl, Or.inl rfl⟩
  | poll cmd hpc =>
    obtain ⟨hflag, hclosed⟩ := c.poll_flags (.handler i)
    exact ⟨Or.inl hflag, hclosed, Or.inl rfl, Or.inl rfl, Or.inl rfl⟩
  | dispatch cmd hpc cell res hres =>
    exact ⟨Or.inl rfl, rfl, Or.inr ⟨cmd, res, hpc, hres⟩, Or.inl rfl, Or.inl rfl⟩
  | relay r u events recv r' hpc hstep =>
    exact ⟨Or.inl rfl, rfl, Or.inl rfl, Or.inr ⟨r, events, recv, r', hpc, hstep⟩, Or.inl rfl⟩
  | closeFailed hpc => exact ⟨Or.inl rfl, rfl, Or.inl rfl, Or.inl rfl, Or.inr (Or.inl rfl)⟩
  | fail err hpc =>
    exact ⟨Or.inl rfl, rfl, Or.inl rfl, Or.inl rfl, Or.inr (Or.inr ⟨err, hpc, rfl⟩)⟩
  -- the rest changes at most the log and the wakers
  | readFails err hpc hst => exact ⟨Or.inl rfl, rfl, Or.inl rfl, Or.inl rfl, Or.inl rfl⟩
  | decodes cmd rest hpc hread => exact ⟨Or.inl rfl, rfl, Or.inl rfl, Or.inl rfl, Or.inl rfl⟩
  | undecodable err hpc hread hst => exact ⟨Or.inl rfl, rfl, Or.inl rfl, Or.inl rfl, Or.inl rfl⟩
  | decoderPanics hpc hread => exact ⟨Or.inl rfl, rfl, Or.inl rfl, Or.inl rfl, Or.inl rfl⟩
  | wakeAuthenticated hpc => exact ⟨Or.inl rfl, rfl, Or.inl rfl, Or.inl rfl, Or.inl rfl⟩
  | wakeFailed hpc => exact ⟨Or.inl rfl, rfl, Or.inl rfl, Or.inl rfl, Or.inl rfl⟩

/-- A command that is dispatched fails for one reason only. -/
theorem dispatch_error {cell cell' : UdpPacketFrom} {src : Source} {data : Bytes} {cmd : Command}
    {err : DispatchError} (h : dispatch cell src data cmd = (cell', .returned (.error err))) :
    err = .badCommand := by
  cases src with
  | uniStream =>
    simp only [dispatch, dispatchUniStream] at h
    split at h
    all_goals try split at h
    all_goals cases h
    all_goals rfl
  | biStream =>
    simp only [dispatch, dispatchBiStream] at h
    split at h
    all_goals cases h
    rfl
  | datagram =>
    simp only [dispatch, dispatchDatagram] at h
    split at h
    all_goals try split at h
    all_goals try split at h
    all_goals cases h
    all_goals rfl

/-- How a handler gets where it stands: what was so before a step that ended there. Nothing is said
of the places where no statement below depends on it. -/
def Pc.EnteredBy (token : List Digest) (c : Connection) (i : Nat) (t : Task) (c' : Connection) :
    Pc → Prop
  | .read => False
  | .setAuthenticated => t.source = .uniStream ∧
      ∃ digest ∈ token, c' = c.emit [.decoded i .uniStream (.authenticate digest)]
  | .parked _ => c.isAuthenticated.isConnectionClosed.check = false ∧
      c.isAuthenticated.isAuthenticated = false ∧ .handler i ∈ c'.isAuthenticated.broadcast
  | .dispatch _ => c.isAuthenticated.isAuthenticated = true
  | .relay r' =>
    (∃ cmd cell task, t.pc = .dispatch cmd ∧ r' = task.entry ∧
      Server.dispatch c.udpPacketFrom t.source t.recv.data cmd = (cell, .start task)) ∨
    ∃ r events recv, t.pc = .relay r ∧
      RelayStep c.udpSessions i t.recv r c'.udpSessions events recv (some r')
  | .done =>
    t.pc = .wakeAuthenticated ∨
    (∃ cmd cell, t.pc = .dispatch cmd ∧
      Server.dispatch c.udpPacketFrom t.source t.recv.data cmd = (cell, .returned (.ok ()))) ∨
    ∃ r events recv, t.pc = .relay r ∧
      RelayStep c.udpSessions i t.recv r c'.udpSessions events recv none
  -- an I/O error comes from reading the command, and from nowhere else
  | .fail err => (∃ e, err = .io e) → t.pc = .read
  | .failed err => t.pc = .fail err ∧ c' = c.close err
  | _ => True

/-- Every step of a handler gets it to a place in one of these ways. -/
theorem TaskStep.enteredBy {token : List Digest} {c c' : Connection} {i : Nat} {t t' : Task}
    (h : TaskStep token c i t c' t') : t'.pc.EnteredBy token c i t c' := by
  cases h with
  | decodes cmd rest hpc hread =>
    rcases Pc.ofCommand_cases token t.source cmd with
      heq | ⟨hsrc, digest, rfl, ⟨hd, heq⟩ | ⟨-, heq⟩⟩
    · rw [heq]
      trivial
    · rw [heq, hsrc]
      exact ⟨hsrc, digest, hd, rfl⟩
    · rw [heq]
      trivial
  | poll cmd hpc =>
    -- the three results of a poll: failed, dispatching, parked
    rcases c.poll_cases (.handler i) with
      ⟨-, hres, -⟩ | ⟨-, hflag, hres, -⟩ | ⟨hclosed, hflag, hres, hbr⟩
    · rw [hres]
      rintro ⟨e, he⟩
      cases he
    · rw [hres]
      exact hflag
    · rw [hres]
      exact ⟨hclosed, hflag, hbr ▸ List.mem_append_right _ List.mem_cons_self⟩
  | dispatch cmd hpc cell res hres =>
    cases res with
    | start task => exact Or.inl ⟨cmd, cell, task, hpc, rfl, hres⟩
    | returned r =>
      cases r with
      | ok u => exact Or.inr (Or.inl ⟨cmd, cell, hpc, hres⟩)
      | error err =>
        obtain rfl := dispatch_error hres
        rintro ⟨e, he⟩
        cases he
    | panicked => trivial
  | relay r u events recv r' hpc hstep =>
    cases r' with
    | none => exact Or.inr (Or.inr ⟨r, events, recv, hpc, hstep⟩)
    | some r' => exact Or.inr ⟨r, events, recv, hpc, hstep⟩
  | wakeAuthenticated hpc => exact Or.inl hpc
  | fail err hpc => exact ⟨hpc, rfl⟩
  | readFails err hpc hst => exact fun _ => hpc
  | undecodable err hpc hread hst => exact fun _ => hpc
  | decoderPanics hpc hread => trivial
  | setAuthenticated hpc => trivial
  | closeFailed hpc => trivial
  | wakeFailed hpc =>
    rintro ⟨e, he⟩
    cases he

/-! ## What a step of the connection leaves alone -/

/-- What the steps of all tasks but the handlers leave to these: the flag, the relay mode, and the
session table, into which they put nothing. -/
structure Connection.Untouched (c c' : Connection) : Prop where
  /-- The flag is as it was. -/
  flag : c'.isAuthenticated.isAuthenticated = c.isAuthenticated.isAuthenticated
  /-- So is the relay mode. -/
  mode : c'.udpPacketFrom = c.udpPacketFrom
  /-- What is in the session table was there before. -/
  entry : ∀ {assocId sid}, c'.udpSessions.map.lookup assocId = some sid →
    c.udpSessions.map.lookup assocId = some sid

namespace Established

variable {cfg : Config} {s s' : Established} {a : Action}

/-- **A step of a connection** is one of a handler, or leaves alone what is for the handlers. -/
theorem Step.task_or_untouched (h : Step cfg s a s') :
    (∃ (i : Nat) (t t' : Task), s.tasks[i]? = some t ∧ s'.tasks[i]? = some t' ∧
      TaskStep cfg.token s.conn i t s'.conn t') ∨ s.conn.Untouched s'.conn := by
  cases h with
  | task i outcome t t' conn hi hstep =>
    exact Or.inl ⟨i, t, t', hi, getElem?_set_of_some hi, hstep⟩
  | session sid st u hstep =>
    obtain ⟨_, _, heff⟩ := sessionStep_spec hstep
    exact Or.inr ⟨rfl, rfl, fun hl => heff.map ▸ hl⟩
  | drop hhandle htasks hreplies => exact Or.inr ⟨rfl, rfl, fun hl => by cases hl⟩
  | pollPending hhandle hpoll => exact Or.inr ⟨(s.conn.poll_flags _).1, rfl, id⟩
  | pollReady hhandle res hpoll => exact Or.inr ⟨(s.conn.poll_flags _).1, rfl, id⟩
  | accept st t b hhandle hfresh => exact Or.inr ⟨rfl, rfl, id⟩
  | receive r rest b hhandle hrecv => exact Or.inr ⟨rfl, rfl, id⟩
  | listenerEnds reason b hhandle hclosed => exact Or.inr ⟨rfl, rfl, id⟩
  | timeout hhandle => exact Or.inr ⟨rfl, rfl, id⟩
  | timeoutClose hhandle => exact Or.inr ⟨rfl, rfl, id⟩
  | timeoutWake hhandle => exact Or.inr ⟨rfl, rfl, id⟩
  | unreachable hhandle => exact Or.inr ⟨rfl, rfl, id⟩
  | setClosed err hhandle => exact Or.inr ⟨rfl, rfl, id⟩
  | reply k outcome pc pc' events hk hstep => exact Or.inr ⟨rfl, rfl, id⟩
  | stream i ev t recv hi hrecv => exact Or.inr ⟨rfl, rfl, id⟩
  | peerClose err => exact Or.inr ⟨rfl, rfl, id⟩

/-- **No step of a connection takes anything from the tasks that do not make it.** -/
theorem Step.keeps (h : Step cfg s a s') :
    ∃ me, (∀ j, me = .handler j → ∃ outcome, a = .task j outcome) ∧ s.conn.Keeps me s'.conn := by
  -- a step of no handler uses up no wake of a handler; it counts as one of the handle task
  have hother : ∀ {c' : Connection}, s.conn.Keeps .handle c' →
      ∃ me, (∀ j, me = .handler j → ∃ outcome, a = .task j outcome) ∧ s.conn.Keeps me c' :=
    fun hk => ⟨.handle, fun _ heq => TaskId.noConfusion heq, hk⟩
  cases h with
  | task i outcome t t' conn hi hstep =>
    refine ⟨.handler i, fun j heq => ?_, hstep.keeps⟩
    cases heq
    exact ⟨outcome, rfl⟩
  | accept st t b hhandle hfresh => exact hother (.refl _ _)
  | receive r rest b hhandle hrecv => exact hother (s.conn.keeps_udpSessions _ _)
  | listenerEnds reason b hhandle hclosed => exact hother (s.conn.keeps_udpSessions _ _)
  | pollPending hhandle hpoll => exact hother (s.conn.keeps_poll _)
  | pollReady hhandle res hpoll => exact hother (s.conn.keeps_poll _)
  | timeout hhandle => exact hother (.refl _ _)
  | timeoutClose hhandle => exact hother (s.conn.keeps_close _ _)
  | timeoutWake hhandle =>
    exact hother ((s.conn.keeps_wake _).trans (Connection.keeps_udpSessions _ _ _))
  | unreachable hhandle => exact hother (.refl _ _)
  | setClosed err hhandle => exact hother (s.conn.keeps_setClosed _)
  | reply k outcome pc pc' events hk hstep => exact hother (s.conn.keeps_emit _ _)
  | session sid st u hstep => exact hother (s.conn.keeps_udpSessions _ _)
  | stream i ev t recv hi hrecv => exact hother (.refl _ _)
  | peerClose err => exact hother (s.conn.keeps_controller _ _)
  | drop hhandle htasks hreplies => exact hother (s.conn.keeps_udpSessions _ _)

/-- No step of a connection takes back a flag or the relay mode. -/
theorem Step.extends (h : Step cfg s a s') : s.conn.Extends s'.conn := by
  obtain ⟨me, -, hk⟩ := h.keeps
  exact hk.toExtends

/-- Nothing is taken out of the log. -/
theorem Step.log_cases (h : Step cfg s a s') : ∃ new, s'.conn.log = new ++ s.conn.log := by
  obtain ⟨me, -, hk⟩ := h.keeps
  exact hk.log

/-- A closed QUIC connection stays closed. -/
theorem Step.controller (h : Step cfg s a s') (hc : s.conn.controller ≠ none) :
    s'.conn.controller ≠ none := by
  obtain ⟨me, -, hk⟩ := h.keeps
  exact hk.controller hc

/-- No step but the handler's own uses up its wake. -/
theorem Step.woken (h : Step cfg s a s') {j : Nat} (hj : ∀ outcome, a ≠ .task j outcome)
    (hmem : .handler j ∈ s.conn.woken) : .handler j ∈ s'.conn.woken := by
  obtain ⟨me, hme, hk⟩ := h.keeps
  refine hk.woken _ (fun heq => ?_) hmem
  obtain ⟨outcome, ha⟩ := hme j heq.symm
  exact hj outcome ha

/-- No step but the handler's own takes its waker away without waking it. -/
theorem Step.registered (h : Step cfg s a s') {j : Nat} (hj : ∀ outcome, a ≠ .task j outcome)
    (hreg : s.conn.Registered (.handler j)) : s'.conn.Registered (.handler j) := by
  obtain ⟨me, hme, hk⟩ := h.keeps
  refine hk.registered _ (fun heq => ?_) hreg
  obtain ⟨outcome, ha⟩ := hme j heq.symm
  exact hj outcome ha

/-- The flag is set by a handler with a valid digest and by nothing else, and is never unset. -/
theorem Step.flag_cases (h : Step cfg s a s') :
    s'.conn.isAuthenticated.isAuthenticated = s.conn.isAuthenticated.isAuthenticated ∨
      s'.conn.isAuthenticated.isAuthenticated = true ∧
        ∃ (i : Nat) (t : Task), s.tasks[i]? = some t ∧ t.pc = .setAuthenticated ∧
          s'.tasks[i]? = some { t with pc := .wakeAuthenticated } := by
  rcases h.task_or_untouched with ⟨i, t, t', hi, hi', hstep⟩ | hu
  · rcases hstep.frame.flag with heq | ⟨hpc, rfl, hflag⟩
    · exact Or.inl heq
    · exact Or.inr ⟨hflag, i, t, hi, hpc, hi'⟩
  · exact Or.inl hu.flag

end Established

end Tuic.Server
