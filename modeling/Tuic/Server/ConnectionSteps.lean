import Tuic.Server.Connection

/-! # What a step of a connection does

The step functions of a connection, inverted once: `ConnectStep` and `RelayStep` for a relay task,
`TaskStep` for a handler, `ReplyStep` for a reply task and `Established.Step` for the whole
connection have one case for each thing that can happen, with its guard. Every statement about all
runs of a connection is proved by going through these cases.

`udpPool_of_reachable` connects the two levels of the model: the session table with the calls the
handlers are in goes through runs of `udpSystem`, so what holds of all runs of that system holds of
every connection. -/

namespace Tuic.Server

open ByteCodec Transition

/-! ## Handlers -/

/-- The steps of `connect` in handler `i`, one case each. -/
inductive ConnectStep (i : Nat) (recv : RecvStream) :
    ConnectPc → Outcome → List Event → RecvStream → Option ConnectPc → Prop where
  /-- The address is known. -/
  | known (addr : SocketAddr) (outcome : Outcome) :
      ConnectStep i recv (.resolve (.socketAddress addr)) outcome [] recv (some (.attempt [addr]))
  /-- A name is resolved. -/
  | resolved (domain : String) (port : UInt16) (addrs : List SocketAddr) :
      ConnectStep i recv (.resolve (.domainAddress domain port)) (.resolved addrs)
        [.lookupHost i domain port] recv (some (.attempt addrs))
  /-- A name cannot be resolved. -/
  | unresolved (domain : String) (port : UInt16) (err : IoError) :
      ConnectStep i recv (.resolve (.domainAddress domain port)) (.fail err)
        [.lookupHost i domain port] recv none
  /-- There is no address left to try. -/
  | exhausted (outcome : Outcome) :
      ConnectStep i recv (.attempt []) outcome [] recv (some (.respond false))
  /-- A TCP connection is made. -/
  | connected (addr : SocketAddr) (addrs : List SocketAddr) :
      ConnectStep i recv (.attempt (addr :: addrs)) .ok [.tcpConnect i addr true] recv
        (some (.respond true))
  /-- A TCP connection cannot be made. -/
  | refused (addr : SocketAddr) (addrs : List SocketAddr) (err : IoError) :
      ConnectStep i recv (.attempt (addr :: addrs)) (.fail err) [.tcpConnect i addr false] recv
        (some (.attempt addrs))
  /-- The response is written. -/
  | responds (isSucceeded : Bool) :
      ConnectStep i recv (.respond isSucceeded) .ok
        [.toPeer (.biStream i) (Command.response isSucceeded).writeToBuf] recv
        (some (if isSucceeded then .tunnel [] [] else .finish))
  /-- The stream fails under the response. -/
  | cut (isSucceeded : Bool) (n : Nat) :
      ConnectStep i recv (.respond isSucceeded) (.cut n)
        [.toPeer (.biStream i) ((Command.response isSucceeded).writeToBuf.take n)] recv none
  /-- The copy loop reads bytes of the client. -/
  | readStream (up down : Bytes) (n : Nat) (hn : n ≤ recv.unread.length) :
      ConnectStep i recv (.tunnel up down) (.readStream n) [] (recv.advance n)
        (some (.tunnel (up ++ recv.unread.take n) down))
  /-- The copy loop writes such bytes to the target. -/
  | writeTarget (up down : Bytes) (n : Nat) (hn : n ≤ up.length) :
      ConnectStep i recv (.tunnel up down) (.writeTarget n) [.toTarget i (up.take n)] recv
        (some (.tunnel (up.drop n) down))
  /-- The copy loop reads bytes of the target. -/
  | readTarget (up down data : Bytes) :
      ConnectStep i recv (.tunnel up down) (.readTarget data) [] recv
        (some (.tunnel up (down ++ data)))
  /-- The copy loop writes such bytes to the client. -/
  | writeStream (up down : Bytes) (n : Nat) (hn : n ≤ down.length) :
      ConnectStep i recv (.tunnel up down) (.writeStream n) [.toPeer (.biStream i) (down.take n)]
        recv (some (.tunnel up (down.drop n)))
  /-- The copy loop ends. -/
  | ends (up down : Bytes) (outcome : Outcome) (hdata : ∀ data, outcome ≠ .readTarget data) :
      ConnectStep i recv (.tunnel up down) outcome [] recv none
  /-- The stream is finished, or fails before. -/
  | finish (outcome : Outcome) (events : List Event)
      (hevents : events = [.finish (.biStream i)] ∨ events = []) :
      ConnectStep i recv .finish outcome events recv none

/-- Every step of `connect` is one of these. -/
theorem connectStep_cases {i : Nat} {recv recv' : RecvStream} {pc : ConnectPc} {outcome : Outcome}
    {events : List Event} {pc' : Option ConnectPc}
    (h : connectStep i recv pc outcome = some (events, recv', pc')) :
    ConnectStep i recv pc outcome events recv' pc' := by
  unfold connectStep at h
  split at h
  · cases h
    exact .known _ _
  · cases h
    exact .resolved _ _ _
  · cases h
    exact .unresolved _ _ _
  · cases h
    exact .exhausted _
  · cases h
    exact .connected _ _
  · cases h
    exact .refused _ _ _
  · cases h
    exact .responds _
  · cases h
    exact .cut _ _
  · split at h
    · rename_i hn
      cases h
      exact .readStream _ _ _ hn.2
    · cases h
  · split at h
    · rename_i hn
      cases h
      exact .writeTarget _ _ _ hn.2
    · cases h
  · cases h
    exact .readTarget _ _ _
  · split at h
    · rename_i hn
      cases h
      exact .writeStream _ _ _ hn.2
    · cases h
  · cases h
    exact .ends _ _ _ (fun data hdata => by cases hdata)
  · cases h
    exact .ends _ _ _ (fun data hdata => by cases hdata)
  · cases h
    exact .finish _ _ (Or.inl rfl)
  · cases h
    exact .finish _ _ (Or.inr rfl)
  · cases h

/-- What `connect` records in handler `i`. -/
inductive Event.OfConnect (i : Nat) : Event → Prop where
  | lookupHost (domain : String) (port : UInt16) : Event.OfConnect i (.lookupHost i domain port)
  | tcpConnect (addr : SocketAddr) (ok : Bool) : Event.OfConnect i (.tcpConnect i addr ok)
  | toPeer (data : Bytes) : Event.OfConnect i (.toPeer (.biStream i) data)
  | toTarget (data : Bytes) : Event.OfConnect i (.toTarget i data)
  | finish : Event.OfConnect i (.finish (.biStream i))

/-- **What a step of `connect` records** is one of these, or nothing. -/
theorem ConnectStep.ofConnect {i : Nat} {recv recv' : RecvStream} {pc : ConnectPc}
    {outcome : Outcome} {events : List Event} {pc' : Option ConnectPc}
    (h : ConnectStep i recv pc outcome events recv' pc') : ∀ e ∈ events, e.OfConnect i := by
  have hone : ∀ e₀ : Event, e₀.OfConnect i → ∀ e ∈ [e₀], e.OfConnect i :=
    fun e₀ he₀ e he => List.mem_singleton.mp he ▸ he₀
  cases h with
  | known addr outcome => exact List.forall_mem_nil _
  | resolved domain port addrs => exact hone _ (.lookupHost domain port)
  | unresolved domain port err => exact hone _ (.lookupHost domain port)
  | exhausted outcome => exact List.forall_mem_nil _
  | connected addr addrs => exact hone _ (.tcpConnect addr true)
  | refused addr addrs err => exact hone _ (.tcpConnect addr false)
  | responds isSucceeded => exact hone _ (.toPeer _)
  | cut isSucceeded n => exact hone _ (.toPeer _)
  | readStream up down n hn => exact List.forall_mem_nil _
  | writeTarget up down n hn => exact hone _ (.toTarget _)
  | readTarget up down data => exact List.forall_mem_nil _
  | writeStream up down n hn => exact hone _ (.toPeer _)
  | ends up down outcome hdata => exact List.forall_mem_nil _
  | finish outcome events hevents =>
    rcases hevents with rfl | rfl
    · exact hone _ .finish
    · exact List.forall_mem_nil _

/-- `connect` only reads on in its stream. -/
theorem ConnectStep.stream_eq {i : Nat} {recv recv' : RecvStream} {pc : ConnectPc}
    {outcome : Outcome} {events : List Event} {pc' : Option ConnectPc}
    (h : ConnectStep i recv pc outcome events recv' pc') :
    recv'.data = recv.data ∧ recv'.status = recv.status := by
  cases h <;> exact ⟨rfl, rfl⟩

/-- The steps of a relay task in handler `i`, one case each. -/
inductive RelayStep (u : Udp) (i : Nat) (recv : RecvStream) :
    Relay → Udp → List Event → RecvStream → Option Relay → Prop where
  /-- The payload of a packet is read. -/
  | payload (assocId : UInt32) (len : UInt16) (addr : Address)
      (hlen : len.toNat ≤ recv.unread.length) :
      RelayStep u i recv (.readPayload assocId len addr) u [] (recv.advance len.toNat)
        (some (.send (.lookup ⟨assocId, recv.unread.take len.toNat, addr⟩)))
  /-- The stream ends or fails before the payload is complete. -/
  | noPayload (assocId : UInt32) (len : UInt16) (addr : Address)
      (hst : recv.status = .failed ∨
        recv.status ≠ .receiving ∧ recv.unread.length < len.toNat) :
      RelayStep u i recv (.readPayload assocId len addr) u [] recv none
  /-- The call of `send` makes a step. -/
  | send (call : SendCall) (bindOk : Bool) (u' : Udp) (n : SendNext)
      (hstep : u.sendStep bindOk call = some (u', n)) :
      RelayStep u i recv (.send call) u' [] recv (n.call?.map .send)
  /-- The association is removed. -/
  | dissociate (assocId : UInt32) :
      RelayStep u i recv (.dissociate assocId) (u.dissociate assocId) [] recv none
  /-- `connect` makes a step. -/
  | connect (pc : ConnectPc) (outcome : Outcome) (events : List Event) (recv' : RecvStream)
      (pc' : Option ConnectPc) (hstep : connectStep i recv pc outcome = some (events, recv', pc')) :
      RelayStep u i recv (.connect pc) u events recv' (pc'.map .connect)

/-- Every step of a relay task is one of these. -/
theorem relayStep_cases {u u' : Udp} {i : Nat} {recv recv' : RecvStream} {r : Relay}
    {outcome : Outcome} {events : List Event} {r' : Option Relay}
    (h : relayStep u i recv r outcome = some (u', events, recv', r')) :
    RelayStep u i recv r u' events recv' r' := by
  cases r with
  | readPayload assocId len addr =>
    cases outcome with
    | ok =>
      simp only [relayStep] at h
      split at h
      · rename_i hlen
        cases h
        exact .payload assocId len addr hlen
      · rename_i hlen
        split at h
        · cases h
        · rename_i hst
          cases h
          exact .noPayload assocId len addr (Or.inr ⟨hst, Nat.lt_of_not_le hlen⟩)
    | fail err =>
      simp only [relayStep] at h
      split at h
      · rename_i hst
        cases h
        exact .noPayload assocId len addr (Or.inl hst)
      · cases h
    | cut n => cases h
    | resolved addrs => cases h
    | readStream n => cases h
    | writeTarget n => cases h
    | readTarget data => cases h
    | writeStream n => cases h
  | send call =>
    simp only [relayStep] at h
    split at h
    · rename_i u' call' hstep
      cases h
      exact .send call _ u' (.call call') hstep
    · rename_i u' ok hstep
      cases h
      exact .send call _ u' (.returned ok) hstep
    · cases h
  | dissociate assocId =>
    cases h
    exact .dissociate assocId
  | connect pc =>
    simp only [relayStep] at h
    split at h
    · rename_i events' recv' pc' hstep
      cases h
      exact .connect pc outcome _ _ (some pc') hstep
    · rename_i events' recv' hstep
      cases h
      exact .connect pc outcome _ _ none hstep
    · cases h

/-- Of the relay tasks, only `connect` records anything. -/
theorem RelayStep.ofConnect {u u' : Udp} {i : Nat} {recv recv' : RecvStream} {r : Relay}
    {events : List Event} {r' : Option Relay} (h : RelayStep u i recv r u' events recv' r') :
    ∀ e ∈ events, e.OfConnect i := by
  cases h with
  | connect pc outcome events recv' pc' hstep => exact (connectStep_cases hstep).ofConnect
  | payload assocId len addr hlen => exact List.forall_mem_nil _
  | noPayload assocId len addr hst => exact List.forall_mem_nil _
  | send call bindOk u' n hstep => exact List.forall_mem_nil _
  | dissociate assocId => exact List.forall_mem_nil _

/-- The steps of handler `i`, one case each. -/
inductive TaskStep (token : List Digest) (c : Connection) (i : Nat) (t : Task) :
    Connection → Task → Prop where
  /-- The stream fails under the read. -/
  | readFails (err : IoError) (hpc : t.pc = .read) (hst : t.recv.status = .failed) :
      TaskStep token c i t c { t with pc := .fail (.io err) }
  /-- A command is decoded. -/
  | decodes (cmd : Command) (rest : Bytes) (hpc : t.pc = .read)
      (hread : Command.readFrom t.recv.data = .ok (cmd, rest)) :
      TaskStep token c i t (c.emit [.decoded i t.source cmd])
        { t with
          recv := t.recv.advance (t.recv.data.length - rest.length)
          pc := .ofCommand token t.source cmd }
  /-- No command can be decoded. -/
  | undecodable (err : IoError) (hpc : t.pc = .read)
      (hread : Command.readFrom t.recv.data = .error (.io err))
      (hst : err.kind = .unexpectedEof → t.recv.status ≠ .receiving) :
      TaskStep token c i t c { t with pc := .fail (.io err) }
  /-- The decoder panics. -/
  | decoderPanics (hpc : t.pc = .read) (hread : Command.readFrom t.recv.data = .error .panic) :
      TaskStep token c i t c { t with pc := .panicked }
  /-- The flag is set. -/
  | setAuthenticated (hpc : t.pc = .setAuthenticated) :
      TaskStep token c i t c.setAuthenticated { t with pc := .wakeAuthenticated }
  /-- The waiting tasks are woken after the flag was set. -/
  | wakeAuthenticated (hpc : t.pc = .wakeAuthenticated) :
      TaskStep token c i t c.wake { t with pc := .done }
  /-- The connection is closed for an invalid digest. -/
  | closeFailed (hpc : t.pc = .closeFailed) :
      TaskStep token c i t (c.close .authenticationFailed) { t with pc := .wakeFailed }
  /-- The waiting tasks are woken after that. -/
  | wakeFailed (hpc : t.pc = .wakeFailed) :
      TaskStep token c i t c.wake { t with pc := .fail .authenticationFailed }
  /-- The barrier is polled, for the first time or after a wake. -/
  | poll (cmd : Command) (hpc : t.pc = .await cmd ∨ t.pc = .parked cmd ∧ .handler i ∈ c.woken) :
      TaskStep token c i t (c.poll (.handler i)).1
        { t with pc := .ofPoll cmd (c.poll (.handler i)).2 }
  /-- The command is dispatched. -/
  | dispatch (cmd : Command) (hpc : t.pc = .dispatch cmd) (cell : UdpPacketFrom)
      (res : Dispatched)
      (hres : Server.dispatch c.udpPacketFrom t.source t.recv.data cmd = (cell, res)) :
      TaskStep token c i t ({ c with udpPacketFrom := cell }.emit (res.events i))
        { t with pc := .ofDispatched res }
  /-- The relay task makes a step. -/
  | relay (r : Relay) (u : Udp) (events : List Event) (recv : RecvStream) (r' : Option Relay)
      (hpc : t.pc = .relay r) (hstep : RelayStep c.udpSessions i t.recv r u events recv r') :
      TaskStep token c i t ({ c with udpSessions := u }.emit events)
        { t with recv := recv, pc := .ofRelay r' }
  /-- The connection is closed with the error of the handler. -/
  | fail (err : DispatchError) (hpc : t.pc = .fail err) :
      TaskStep token c i t (c.close err) { t with pc := .failed err }

/-- Every step of reading a command is one of these. -/
theorem readCommand_cases {token : List Digest} {c c' : Connection} {i : Nat} {t t' : Task}
    {outcome : Outcome} (hpc : t.pc = .read)
    (h : t.readCommand token c i outcome = some (c', t')) : TaskStep token c i t c' t' := by
  unfold Task.readCommand at h
  split at h
  · rename_i err
    split at h
    · rename_i hst
      cases h
      exact .readFails err hpc hst
    · cases h
  · split at h
    · rename_i cmd rest hread
      cases h
      exact .decodes cmd rest hpc hread
    · rename_i err hread
      split at h
      · cases h
      · rename_i hst
        cases h
        exact .undecodable err hpc hread fun heof hrecv => hst ⟨heof, hrecv⟩
    · rename_i hread
      cases h
      exact .decoderPanics hpc hread

/-- Every step of a handler is one of these. -/
theorem taskStep_cases {token : List Digest} {c c' : Connection} {i : Nat} {t t' : Task}
    {outcome : Outcome} (h : t.step token c i outcome = some (c', t')) :
    TaskStep token c i t c' t' := by
  unfold Task.step at h
  split at h
  · rename_i hpc
    exact readCommand_cases hpc h
  · rename_i hpc
    cases h
    exact .setAuthenticated hpc
  · rename_i hpc
    cases h
    exact .wakeAuthenticated hpc
  · rename_i hpc
    cases h
    exact .closeFailed hpc
  · rename_i hpc
    cases h
    exact .wakeFailed hpc
  · rename_i cmd hpc
    cases h
    exact .poll cmd (Or.inl hpc)
  · rename_i cmd hpc
    split at h
    · rename_i hw
      cases h
      exact .poll cmd (Or.inr ⟨hpc, hw⟩)
    · cases h
  · rename_i cmd hpc
    cases h
    exact .dispatch cmd hpc _ _ rfl
  · rename_i r hpc
    split at h
    · rename_i u events recv r' hstep
      cases h
      exact .relay r u events recv r' hpc (relayStep_cases hstep)
    · cases h
  · rename_i err hpc
    cases h
    exact .fail err hpc
  · cases h
  · cases h
  · cases h

/-! ## Reply tasks -/

/-- The steps of reply task `k`, one case each. -/
inductive ReplyStep (cell : UdpPacketFrom) (k : Nat) : ReplyPc → List Event → ReplyPc → Prop where
  /-- There is no relay mode. -/
  | unwrapFails (r : Reply) (hcell : cell = none) : ReplyStep cell k (.check r) [] .panicked
  /-- The relay mode is looked up. -/
  | check (src : UdpPacketSource) (r : Reply) (hcell : cell = some src) :
      ReplyStep cell k (.check r) [] (.packetTo src r)
  /-- The packet is written to a stream, and the stream finished. -/
  | uniStream (r : Reply) :
      ReplyStep cell k (.packetTo .uniStream r)
        [.toPeer (.uniStream k) r.bytes, .finish (.uniStream k)] .done
  /-- The stream fails under the write. -/
  | cut (r : Reply) (n : Nat) :
      ReplyStep cell k (.packetTo .uniStream r) [.toPeer (.uniStream k) (r.bytes.take n)] .done
  /-- The packet is written to a datagram. -/
  | datagram (r : Reply) :
      ReplyStep cell k (.packetTo .datagram r) [.toPeer (.datagram k) r.bytes] .done
  /-- Nothing can be sent. -/
  | fails (src : UdpPacketSource) (r : Reply) : ReplyStep cell k (.packetTo src r) [] .done

/-- Every step of a reply task is one of these. -/
theorem replyStep_cases {cell : UdpPacketFrom} {k : Nat} {pc pc' : ReplyPc} {outcome : Outcome}
    {events : List Event} (h : replyStep cell k pc outcome = some (events, pc')) :
    ReplyStep cell k pc events pc' := by
  cases pc with
  | check r =>
    simp only [replyStep] at h
    split at h
    · cases h
      exact .unwrapFails r rfl
    · rename_i src
      cases h
      exact .check src r rfl
  | packetTo src r =>
    cases src with
    | uniStream =>
      cases outcome with
      | ok =>
        cases h
        exact .uniStream r
      | cut n =>
        cases h
        exact .cut r n
      | fail err =>
        cases h
        exact .fails _ r
      | resolved addrs => cases h
      | readStream n => cases h
      | writeTarget n => cases h
      | readTarget data => cases h
      | writeStream n => cases h
    | datagram =>
      cases outcome with
      | ok =>
        cases h
        exact .datagram r
      | fail err =>
        cases h
        exact .fails _ r
      | cut n => cases h
      | resolved addrs => cases h
      | readStream n => cases h
      | writeTarget n => cases h
      | readTarget data => cases h
      | writeStream n => cases h
  | done => cases h
  | panicked => cases h

/-! ## The connection -/

/-- A handler that has just been spawned: its stream is empty and receiving, or it has its whole
datagram. -/
def Task.Fresh (t : Task) : Prop :=
  t.pc = .read ∧ t.recv.pos = 0 ∧ (t.source = .datagram → t.recv.status = .finished) ∧
    (t.source ≠ .datagram → t.recv.data = [] ∧ t.recv.status = .receiving)

/-- The listeners that spawn handlers. -/
def HandleStep.isAccept : HandleStep → Bool
  | .acceptUniStream | .acceptBiStream | .acceptDatagram _ => true
  | _ => false

/-- The steps of a connection, one case each. -/
inductive Established.Step (cfg : Config) (s : Established) : Action → Established → Prop where
  /-- A stream or a datagram comes in. -/
  | accept (st : HandleStep) (t : Task) (b : Bool) (hhandle : s.handle = .listening b)
      (hfresh : t.Fresh) (hst : st.isAccept = true) : Step cfg s (.handle st) (s.spawn t)
  /-- A received packet is taken for a reply. -/
  | receive (r : Reply) (rest : List (UInt32 × Bytes × Address)) (b : Bool)
      (hhandle : s.handle = .listening b)
      (hrecv : s.conn.udpSessions.recvPkt = (r.assocId, r.pkt, r.addr) :: rest) :
      Step cfg s (.handle .receive) { s with
        conn := { s.conn with udpSessions := { s.conn.udpSessions with recvPkt := rest } }
        replies := s.replies ++ [.check r] }
  /-- A listener finds the connection closed. -/
  | listenerEnds (reason : CloseReason) (b : Bool) (hhandle : s.handle = .listening b)
      (hclosed : s.conn.controller = some reason) :
      Step cfg s (.handle .listenerEnds) (s.select reason.listenerResult)
  /-- The authentication timeout polls the barrier, and it is pending. -/
  | pollPending (hhandle : s.handle = .listening true) (hpoll : (s.conn.poll .handle).2 = none) :
      Step cfg s (.handle .pollAuthenticated) { s with conn := (s.conn.poll .handle).1 }
  /-- The authentication timeout polls the barrier, and it is ready. -/
  | pollReady (hhandle : s.handle = .listening true) (res : Bool)
      (hpoll : (s.conn.poll .handle).2 = some res) :
      Step cfg s (.handle .pollAuthenticated) { s with
        conn := (s.conn.poll .handle).1
        handle := .listening false }
  /-- The time for the authentication is up. -/
  | timeout (hhandle : s.handle = .listening true) :
      Step cfg s (.handle .timeout) { s with handle := .timeoutClose }
  /-- The connection is closed for that. -/
  | timeoutClose (hhandle : s.handle = .timeoutClose) :
      Step cfg s (.handle .go) { s with
        conn := s.conn.close .authenticationTimeout
        handle := .timeoutWake }
  /-- The waiting tasks are woken, and the `select!` returns. -/
  | timeoutWake (hhandle : s.handle = .timeoutWake) :
      Step cfg s (.handle .go)
        ({ s with conn := s.conn.wake }.select (.error .locallyClosed))
  /-- The handle task runs into `unreachable!()`. -/
  | unreachable (hhandle : s.handle = .selected (.ok ())) :
      Step cfg s (.handle .go) { s with handle := .panicked }
  /-- The closed flag is set. -/
  | setClosed (err : ConnectionError) (hhandle : s.handle = .selected (.error err)) :
      Step cfg s (.handle .go) { s with conn := s.conn.setClosed, handle := .closed }
  /-- A handler makes a step. -/
  | task (i : Nat) (outcome : Outcome) (t t' : Task) (conn : Connection)
      (hi : s.tasks[i]? = some t) (hstep : TaskStep cfg.token s.conn i t conn t') :
      Step cfg s (.task i outcome) { s with conn := conn, tasks := s.tasks.set i t' }
  /-- A reply task makes a step. -/
  | reply (k : Nat) (outcome : Outcome) (pc pc' : ReplyPc) (events : List Event)
      (hk : s.replies[k]? = some pc)
      (hstep : replyStep s.conn.udpPacketFrom k pc outcome = some (events, pc')) :
      Step cfg s (.reply k outcome) { s with
        conn := s.conn.emit events
        replies := s.replies.set k pc' }
  /-- A session task makes a step. -/
  | session (sid : SessionId) (st : SessionStep) (u : Udp)
      (hstep : s.conn.udpSessions.sessionStep cfg.maxPktSize (s.udpPool.hasSender sid) sid st =
        some u) :
      Step cfg s (.session sid st) { s with conn := { s.conn with udpSessions := u } }
  /-- The peer does something with a stream. -/
  | stream (i : Nat) (ev : StreamEvent) (t : Task) (recv : RecvStream) (hi : s.tasks[i]? = some t)
      (hrecv : t.recv.on ev = some recv) :
      Step cfg s (.stream i ev) { s with tasks := s.tasks.set i { t with recv := recv } }
  /-- The connection is lost. -/
  | peerClose (err : ConnectionError) :
      Step cfg s (.peerClose err) { s with
        conn := { s.conn with controller := s.conn.controller.or (some (.lost err)) } }
  /-- All tasks have returned, and the session table is dropped. -/
  | drop (hhandle : s.handle = .closed) (htasks : ∀ t ∈ s.tasks, t.returned = true)
      (hreplies : ∀ pc ∈ s.replies, pc = .done) :
      Step cfg s .drop { s with
        conn := { s.conn with udpSessions := { s.conn.udpSessions with map := ∅ } } }

/-! ## Handlers and calls of `send` -/

/-- **Where a handler goes on with its command**: to the barrier, unless the command is an
`Authenticate` on a unidirectional stream. -/
theorem Pc.ofCommand_cases (token : List Digest) (src : Source) (cmd : Command) :
    Pc.ofCommand token src cmd = .await cmd ∨
      src = .uniStream ∧ ∃ digest, cmd = .authenticate digest ∧
        (digest ∈ token ∧ Pc.ofCommand token src cmd = .setAuthenticated ∨
          digest ∉ token ∧ Pc.ofCommand token src cmd = .closeFailed) := by
  unfold Pc.ofCommand
  split
  · rename_i digest
    refine Or.inr ⟨rfl, digest, rfl, ?_⟩
    by_cases hd : digest ∈ token
    · exact Or.inl ⟨hd, if_pos hd⟩
    · exact Or.inr ⟨hd, if_neg hd⟩
  · exact Or.inl rfl

/-- No handler is in a call when it has just decoded its command. -/
theorem Pc.call_ofCommand (token : List Digest) (src : Source) (cmd : Command) :
    (Pc.ofCommand token src cmd).call = none := by
  rcases Pc.ofCommand_cases token src cmd with h | ⟨-, _, -, ⟨-, h⟩ | ⟨-, h⟩⟩ <;> rw [h] <;> rfl

/-- No handler is in a call when it has just polled the barrier. -/
theorem Pc.call_ofPoll (cmd : Command) (res : Option Bool) : (Pc.ofPoll cmd res).call = none := by
  cases res with
  | none => rfl
  | some b => cases b <;> rfl

/-- A handler enters a call at its beginning. -/
theorem Pc.call_ofDispatched {res : Dispatched} {call : SendCall}
    (h : (Pc.ofDispatched res).call = some call) : ∃ p, call = .lookup p := by
  cases res with
  | start task =>
    cases task with
    | packetFromDatagram pkt assocId addr =>
      cases h
      exact ⟨_, rfl⟩
    | connect addr => cases h
    | packetFromUniStream assocId len addr => cases h
    | dissociate assocId => cases h
  | returned r => cases r <;> cases h
  | panicked => cases h

/-- A handler that has returned is in no call. -/
theorem Task.call_of_returned {t : Task} (h : t.returned = true) : t.call = none := by
  unfold Task.returned at h
  split at h
  · rename_i hpc
    exact congrArg Pc.call hpc
  · rename_i err hpc
    exact congrArg Pc.call hpc
  · cases h

namespace Established

variable {cfg : Config} {s s' : Established} {a : Action}

/-- Every step of the handle task is one of these. -/
theorem handleStep_cases {st : HandleStep} (h : s.handleStep st = some s') :
    Step cfg s (.handle st) s' := by
  unfold handleStep at h
  split at h
  · rename_i b hhandle
    cases h
    exact .accept _ _ b hhandle (by simp [Task.Fresh, Task.new]) rfl
  · rename_i b hhandle
    cases h
    exact .accept _ _ b hhandle (by simp [Task.Fresh, Task.new]) rfl
  · rename_i b datagram hhandle
    cases h
    exact .accept _ _ b hhandle (by simp [Task.Fresh, Task.new]) rfl
  · rename_i b hhandle
    split at h
    · cases h
    · rename_i assocId pkt addr rest hrecv
      cases h
      exact .receive ⟨assocId, pkt, addr⟩ rest b hhandle hrecv
  · rename_i b hhandle
    split at h
    · cases h
    · rename_i reason hclosed
      cases h
      exact .listenerEnds reason b hhandle hclosed
  · rename_i hhandle
    split at h
    · rename_i conn hpoll
      cases h
      have hconn : conn = (s.conn.poll .handle).1 := by rw [hpoll]
      exact hconn ▸ .pollPending hhandle (by rw [hpoll])
    · rename_i conn res hpoll
      cases h
      have hconn : conn = (s.conn.poll .handle).1 := by rw [hpoll]
      exact hconn ▸ .pollReady hhandle res (by rw [hpoll])
  · rename_i hhandle
    cases h
    exact .timeout hhandle
  · rename_i hhandle
    cases h
    exact .timeoutClose hhandle
  · rename_i hhandle
    cases h
    exact .timeoutWake hhandle
  · rename_i hhandle
    cases h
    exact .unreachable hhandle
  · rename_i err hhandle
    cases h
    exact .setClosed err hhandle
  · cases h

/-- A step of a handler is one of the connection. -/
theorem step_task (cfg : Config) {i : Nat} {outcome : Outcome} {conn : Connection} {t t' : Task}
    (hi : s.tasks[i]? = some t) (h : t.step cfg.token s.conn i outcome = some (conn, t')) :
    (connectionSystem cfg).step s (.task i outcome) =
      some { s with conn := conn, tasks := s.tasks.set i t' } := by
  show s.step cfg (.task i outcome) = _
  simp only [step, hi, h]

/-- Conversely, as it is computed. -/
theorem exists_of_step_task {i : Nat} {outcome : Outcome}
    (h : (connectionSystem cfg).step s (.task i outcome) = some s') :
    ∃ t conn t', s.tasks[i]? = some t ∧ t.step cfg.token s.conn i outcome = some (conn, t') ∧
      s' = { s with conn := conn, tasks := s.tasks.set i t' } := by
  have h : s.step cfg (.task i outcome) = some s' := h
  simp only [step] at h
  split at h
  · cases h
  rename_i t hi
  split at h
  · rename_i conn t' hstep
    cases h
    exact ⟨t, conn, t', hi, hstep, rfl⟩
  · cases h

/-- Every step of a connection is one of these. -/
theorem step_cases (h : (connectionSystem cfg).step s a = some s') : Step cfg s a s' := by
  have h : s.step cfg a = some s' := h
  cases a with
  | handle st => exact handleStep_cases h
  | task i outcome =>
    obtain ⟨t, conn, t', hi, hstep, rfl⟩ := exists_of_step_task h
    exact .task i outcome t t' conn hi (taskStep_cases hstep)
  | reply k outcome =>
    simp only [step] at h
    split at h
    · cases h
    rename_i pc hk
    split at h
    · rename_i events pc' hstep
      cases h
      exact .reply k outcome pc pc' events hk hstep
    · cases h
  | session sid st =>
    simp only [step] at h
    split at h
    · rename_i u hstep
      cases h
      exact .session sid st u hstep
    · cases h
  | stream i ev =>
    simp only [step] at h
    split at h
    · cases h
    rename_i t hi
    split at h
    · rename_i recv hrecv
      cases h
      exact .stream i ev t recv hi hrecv
    · cases h
  | peerClose err =>
    cases h
    exact .peerClose err
  | drop =>
    simp only [step] at h
    split at h
    · rename_i hhandle
      split at h
      · rename_i hall
        rw [Bool.and_eq_true, List.all_eq_true, List.all_eq_true] at hall
        cases h
        exact .drop hhandle hall.1 fun pc hpc => by simpa using hall.2 pc hpc
      · cases h
    · cases h

/-- A stream event changes the stream of its handler only. -/
theorem stream_cases (cfg : Config) {i : Nat} {ev : StreamEvent} {t : Task}
    (hi : s.tasks[i]? = some t)
    (h : (connectionSystem cfg).step s (.stream i ev) = some s') :
    ∃ recv, t.recv.on ev = some recv ∧
      s' = { s with tasks := s.tasks.set i { t with recv := recv } } := by
  cases step_cases h with
  | stream _ _ t' recv hi' hon =>
    rw [hi] at hi'
    cases hi'
    exact ⟨recv, hon, rfl⟩

/-! ## Following a handler through a step -/

/-- **What a step does to the handlers**: nothing; a new one comes in; one of them makes the step;
or something happens on the stream of one. -/
theorem Step.tasks_cases (h : Step cfg s a s') :
    (s'.tasks = s.tasks ∧ ∀ i outcome, a ≠ .task i outcome) ∨
      (∃ st t, a = .handle st ∧ st.isAccept = true ∧ t.Fresh ∧ s' = s.spawn t) ∨
      (∃ (i : Nat) (outcome : Outcome) (t t' : Task), a = .task i outcome ∧
        s.tasks[i]? = some t ∧ TaskStep cfg.token s.conn i t s'.conn t' ∧
        s'.tasks = s.tasks.set i t') ∨
      ∃ (i : Nat) (ev : StreamEvent) (t : Task) (recv : RecvStream), a = .stream i ev ∧
        s.tasks[i]? = some t ∧ t.recv.on ev = some recv ∧
        s' = { s with tasks := s.tasks.set i { t with recv := recv } } := by
  cases h with
  | accept st t b hhandle hfresh hst => exact Or.inr (Or.inl ⟨st, t, rfl, hst, hfresh, rfl⟩)
  | task i outcome t t' conn hi hstep =>
    exact Or.inr (Or.inr (Or.inl ⟨i, outcome, t, t', rfl, hi, hstep, rfl⟩))
  | stream i ev t recv hi hrecv =>
    exact Or.inr (Or.inr (Or.inr ⟨i, ev, t, recv, rfl, hi, hrecv, rfl⟩))
  | receive r rest b hhandle hrecv => exact Or.inl ⟨rfl, by simp⟩
  | listenerEnds reason b hhandle hclosed => exact Or.inl ⟨rfl, by simp⟩
  | pollPending hhandle hpoll => exact Or.inl ⟨rfl, by simp⟩
  | pollReady hhandle res hpoll => exact Or.inl ⟨rfl, by simp⟩
  | timeout hhandle => exact Or.inl ⟨rfl, by simp⟩
  | timeoutClose hhandle => exact Or.inl ⟨rfl, by simp⟩
  | timeoutWake hhandle => exact Or.inl ⟨rfl, by simp⟩
  | unreachable hhandle => exact Or.inl ⟨rfl, by simp⟩
  | setClosed err hhandle => exact Or.inl ⟨rfl, by simp⟩
  | reply k outcome pc pc' events hk hstep => exact Or.inl ⟨rfl, by simp⟩
  | session sid st u hstep => exact Or.inl ⟨rfl, by simp⟩
  | peerClose err => exact Or.inl ⟨rfl, by simp⟩
  | drop hhandle htasks hreplies => exact Or.inl ⟨rfl, by simp⟩

/-- A handler after a step is as before, has just been spawned, made the step, or got something on
its stream. -/
theorem Step.task_cases (h : Step cfg s a s') {j : Nat} {t' : Task} (hj : s'.tasks[j]? = some t') :
    (s.tasks[j]? = some t' ∧ ∀ outcome, a ≠ .task j outcome) ∨
      (j = s.tasks.length ∧ t'.Fresh) ∨
      (∃ outcome t, a = .task j outcome ∧ s.tasks[j]? = some t ∧
        TaskStep cfg.token s.conn j t s'.conn t') ∨
      ∃ ev t recv, a = .stream j ev ∧ s.tasks[j]? = some t ∧ t.recv.on ev = some recv ∧
        t' = { t with recv := recv } := by
  rcases h.tasks_cases with ⟨heq, hnot⟩ | ⟨st, t, rfl, -, hfresh, rfl⟩ |
    ⟨i, outcome, t, t₁, rfl, hi, hstep, heq⟩ | ⟨i, ev, t, recv, rfl, hi, hon, rfl⟩
  · exact Or.inl ⟨heq ▸ hj, hnot j⟩
  · rcases getElem?_append_singleton_cases hj with ⟨rfl, rfl⟩ | hj
    · exact Or.inr (Or.inl ⟨rfl, hfresh⟩)
    · exact Or.inl ⟨hj, by simp⟩
  · rw [heq] at hj
    rcases getElem?_set_cases hj with ⟨rfl, rfl⟩ | ⟨hne, hj⟩
    · exact Or.inr (Or.inr (Or.inl ⟨outcome, t, rfl, hi, hstep⟩))
    · refine Or.inl ⟨hj, fun o ho => hne ?_⟩
      cases ho
      rfl
  · rcases getElem?_set_cases hj with ⟨rfl, rfl⟩ | ⟨-, hj⟩
    · exact Or.inr (Or.inr (Or.inr ⟨ev, t, recv, rfl, hi, hon, rfl⟩))
    · exact Or.inl ⟨hj, by simp⟩

/-- A handler stays where it is, with maybe more on its stream, or makes the step. -/
theorem Step.task_keep (h : Step cfg s a s') {j : Nat} {t : Task} (hj : s.tasks[j]? = some t) :
    (∃ recv, s'.tasks[j]? = some { t with recv := recv } ∧
      (recv = t.recv ∨ ∃ ev, t.recv.on ev = some recv)) ∨
      ∃ outcome t', a = .task j outcome ∧ s'.tasks[j]? = some t' ∧
        TaskStep cfg.token s.conn j t s'.conn t' := by
  rcases h.tasks_cases with ⟨heq, -⟩ | ⟨st, t₀, rfl, -, -, rfl⟩ |
    ⟨i, outcome, t₀, t', rfl, hi, hstep, heq⟩ | ⟨i, ev, t₀, recv, rfl, hi, hon, rfl⟩
  · exact Or.inl ⟨t.recv, heq ▸ hj, Or.inl rfl⟩
  · exact Or.inl ⟨t.recv, getElem?_append_of_some hj, Or.inl rfl⟩
  · rw [heq]
    by_cases hij : i = j
    · subst hij
      rw [hi] at hj
      cases hj
      exact Or.inr ⟨outcome, t', rfl, getElem?_set_of_some hi, hstep⟩
    · exact Or.inl ⟨t.recv, (List.getElem?_set_ne hij).trans hj, Or.inl rfl⟩
  · by_cases hij : i = j
    · subst hij
      rw [hi] at hj
      cases hj
      exact Or.inl ⟨recv, getElem?_set_of_some hi, Or.inr ⟨ev, hon⟩⟩
    · exact Or.inl ⟨t.recv, (List.getElem?_set_ne hij).trans hj, Or.inl rfl⟩

/-! ## The session table of a connection -/

/-- A handler that stays in its call, or out of any, leaves the calls as they are. -/
theorem map_call_set_of_eq {i : Nat} {t t' : Task} (hi : s.tasks[i]? = some t)
    (hcall : t'.call = t.call) : (s.tasks.set i t').map Task.call = s.tasks.map Task.call := by
  rw [List.map_set, hcall]
  apply List.ext_getElem?
  intro j
  by_cases hij : i = j
  · subst hij
    have hlt := (List.getElem?_eq_some_iff.mp hi).1
    rw [List.getElem?_set_self (by simpa using hlt), List.getElem?_map, hi]
    rfl
  · rw [List.getElem?_set_ne hij]

/-- The call a handler is in. -/
theorem getElem?_calls {i : Nat} {t : Task} (hi : s.tasks[i]? = some t) :
    s.udpPool.calls[i]? = some t.call := by
  show (s.tasks.map Task.call)[i]? = _
  rw [List.getElem?_map, hi]
  rfl

/-- The handler after a step: its pool. -/
theorem udpPool_set (s : Established) (conn : Connection) (i : Nat) (t' : Task) :
    ({ s with conn := conn, tasks := s.tasks.set i t' } : Established).udpPool =
      ⟨conn.udpSessions, s.udpPool.calls.set i t'.call⟩ := by
  simp [udpPool, List.map_set]

/-- A handler out of any call that enters one makes a step of `udpSystem`. -/
theorem udpPool_call {maxPktSize i : Nat} {t t' : Task} {conn : Connection} {p : Packet}
    (hi : s.tasks[i]? = some t) (hout : t.call = none) (hin : t'.call = some (.lookup p))
    (hudp : conn.udpSessions = s.conn.udpSessions) :
    (udpSystem maxPktSize).step s.udpPool (.call i p) =
      some ({ s with conn := conn, tasks := s.tasks.set i t' } : Established).udpPool := by
  show s.udpPool.step maxPktSize (.call i p) = _
  rw [UdpPool.step, getElem?_calls hi, hout, udpPool_set, hin, hudp]
  rfl

/-- A handler that leaves the sessions alone and stays in its call, or out of any, does nothing
there. -/
theorem udpPool_eq {i : Nat} {t t' : Task} {conn : Connection} (hi : s.tasks[i]? = some t)
    (hudp : conn.udpSessions = s.conn.udpSessions) (hcall : t'.call = t.call) :
    ({ s with conn := conn, tasks := s.tasks.set i t' } : Established).udpPool = s.udpPool := by
  rw [udpPool, udpPool, map_call_set_of_eq hi hcall, hudp]

/-- What a relay task does to the session table is a step of `udpSystem`, none of a session task, or
nothing. -/
theorem udpPool_of_relayStep {i : Nat} {t : Task} {r : Relay} {u : Udp} {events : List Event}
    {recv : RecvStream} {r' : Option Relay} (hi : s.tasks[i]? = some t) (hpc : t.pc = .relay r)
    (h : RelayStep s.conn.udpSessions i t.recv r u events recv r') {s' : Established}
    (hs' : s' = { s with
      conn := { s.conn with udpSessions := u }.emit events
      tasks := s.tasks.set i { t with recv := recv, pc := .ofRelay r' } }) :
    s'.udpPool = s.udpPool ∨
      ∃ b : UdpAction, b.session? = none ∧
        (udpSystem cfg.maxPktSize).step s.udpPool b = some s'.udpPool := by
  have hcall : t.call = (Pc.relay r).call := congrArg Pc.call hpc
  subst hs'
  cases h with
  -- the call of `send` begins once the payload is read
  | payload assocId len addr hlen => exact Or.inr ⟨.call i _, rfl, udpPool_call hi hcall rfl rfl⟩
  | noPayload assocId len addr hst => exact Or.inl (udpPool_eq hi rfl hcall.symm)
  | send call bindOk u' n hstep =>
    refine Or.inr ⟨.step i bindOk, rfl, ?_⟩
    have hi' : s.udpPool.calls[i]? = some (some call) := by
      rw [getElem?_calls hi, hcall]
      rfl
    rw [UdpPool.step_of_sendStep _ hi' hstep, udpPool_set]
    cases n <;> rfl
  | dissociate assocId =>
    have hout : (⟨t.source, t.recv, .done⟩ : Task).call = t.call := hcall.symm
    exact Or.inr ⟨.dissociate assocId, rfl, congrArg (fun calls => some (UdpPool.mk _ calls))
      (map_call_set_of_eq hi hout).symm⟩
  | connect pc outcome events' recv' pc' hstep =>
    refine Or.inl (udpPool_eq hi rfl ?_)
    rw [hcall]
    cases pc' <;> rfl

/-- What a handler does to the session table is a step of `udpSystem`, none of a session task, or
nothing. -/
theorem udpPool_of_taskStep {i : Nat} {t t' : Task} {conn : Connection}
    (hi : s.tasks[i]? = some t) (h : TaskStep cfg.token s.conn i t conn t') :
    ({ s with conn := conn, tasks := s.tasks.set i t' } : Established).udpPool = s.udpPool ∨
      ∃ b : UdpAction, b.session? = none ∧ (udpSystem cfg.maxPktSize).step s.udpPool b =
        some ({ s with conn := conn, tasks := s.tasks.set i t' } : Established).udpPool := by
  have hcall : ∀ {pc : Pc}, t.pc = pc → t.call = pc.call := fun h => congrArg Pc.call h
  cases h with
  | relay r u events recv r' hpc hstep => exact udpPool_of_relayStep hi hpc hstep rfl
  | dispatch cmd hpc cell res hres =>
    -- only a datagram goes from its `match` into `send` at once
    cases hin : (Pc.ofDispatched res).call with
    | none => exact Or.inl (udpPool_eq hi rfl (hin.trans (hcall hpc).symm))
    | some call =>
      obtain ⟨p, rfl⟩ := Pc.call_ofDispatched hin
      exact Or.inr ⟨.call i p, rfl, udpPool_call hi (hcall hpc) hin rfl⟩
  -- before the dispatch and after the relay task a handler is in no call
  | decodes cmd rest hpc hread =>
    exact Or.inl (udpPool_eq hi rfl ((Pc.call_ofCommand _ _ _).trans (hcall hpc).symm))
  | poll cmd hpc =>
    have hout : t.call = none := by
      rcases hpc with hpc | ⟨hpc, -⟩
      · exact hcall hpc
      · exact hcall hpc
    exact Or.inl (udpPool_eq hi rfl ((Pc.call_ofPoll _ _).trans hout.symm))
  | readFails err hpc hst => exact Or.inl (udpPool_eq hi rfl (hcall hpc).symm)
  | undecodable err hpc hread hst => exact Or.inl (udpPool_eq hi rfl (hcall hpc).symm)
  | decoderPanics hpc hread => exact Or.inl (udpPool_eq hi rfl (hcall hpc).symm)
  | setAuthenticated hpc => exact Or.inl (udpPool_eq hi rfl (hcall hpc).symm)
  | wakeAuthenticated hpc => exact Or.inl (udpPool_eq hi rfl (hcall hpc).symm)
  | closeFailed hpc => exact Or.inl (udpPool_eq hi rfl (hcall hpc).symm)
  | wakeFailed hpc => exact Or.inl (udpPool_eq hi rfl (hcall hpc).symm)
  | fail err hpc => exact Or.inl (udpPool_eq hi rfl (hcall hpc).symm)

/-- A step of a connection is one of its session table, with the calls its handlers are in, and of
the same session task if it is one of a session task; or it leaves that alone. -/
theorem Step.udpPool_cases (h : Step cfg s a s') :
    s'.udpPool = s.udpPool ∨
      ∃ b : UdpAction, b.session? = a.session? ∧
        (udpSystem cfg.maxPktSize).step s.udpPool b = some s'.udpPool := by
  cases h with
  | accept st t b hhandle hfresh =>
    refine Or.inr ⟨.spawn, rfl, ?_⟩
    have hout : t.call = none := congrArg Pc.call hfresh.1
    show some _ = some _
    simp [udpPool, spawn, hout]
  | receive r rest b hhandle hrecv =>
    refine Or.inr ⟨.receive, rfl, ?_⟩
    show s.udpPool.step cfg.maxPktSize .receive = _
    simp [UdpPool.step, udpPool, hrecv]
  | listenerEnds reason b hhandle hclosed => exact Or.inr ⟨.hangUp, rfl, rfl⟩
  | pollPending hhandle hpoll => exact Or.inl rfl
  | pollReady hhandle res hpoll => exact Or.inl rfl
  | timeout hhandle => exact Or.inl rfl
  | timeoutClose hhandle => exact Or.inl rfl
  | timeoutWake hhandle => exact Or.inr ⟨.hangUp, rfl, rfl⟩
  | unreachable hhandle => exact Or.inl rfl
  | setClosed err hhandle => exact Or.inl rfl
  | task i outcome t t' conn hi hstep => exact udpPool_of_taskStep hi hstep
  | reply k outcome pc pc' events hk hstep => exact Or.inl rfl
  | session sid st u hstep =>
    refine Or.inr ⟨.session sid st, rfl, ?_⟩
    show s.udpPool.step cfg.maxPktSize (.session sid st) = _
    have hstep : s.udpPool.udp.sessionStep cfg.maxPktSize (s.udpPool.hasSender sid) sid st =
        some u := hstep
    rw [UdpPool.step, hstep]
    rfl
  | stream i ev t recv hi hrecv =>
    exact Or.inl (congrArg (UdpPool.mk _) (map_call_set_of_eq hi rfl))
  | peerClose err => exact Or.inl rfl
  | drop hhandle htasks hreplies =>
    refine Or.inr ⟨.drop, rfl, ?_⟩
    -- a handler that has returned is in no call, so the table may be dropped
    have hnone : s.udpPool.calls.all (· == none) = true := by
      rw [List.all_eq_true]
      intro c hc
      obtain ⟨t, ht, rfl⟩ := List.mem_map.mp hc
      rw [Task.call_of_returned (htasks t ht)]
      rfl
    show s.udpPool.step cfg.maxPktSize .drop = _
    rw [UdpPool.step, if_pos hnone]
    rfl

/-- **The session table of a connection**, with the calls its handlers are in, goes through runs of
`udpSystem`. -/
theorem udpPool_of_reachable (h : (connectionSystem cfg).Reachable s) :
    (udpSystem cfg.maxPktSize).Reachable s.udpPool := by
  refine h.map udpPool rfl ?_
  intro s a s' _ _ hs
  exact (step_cases hs).udpPool_cases.imp_right fun ⟨b, _, hb⟩ => ⟨b, trivial, hb⟩

end Established

end Tuic.Server
