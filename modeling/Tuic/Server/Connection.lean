import Tuic.Server.Dispatch
import Tuic.Server.UdpSessions

/-! # A server connection

`server/src/connection/mod.rs`: the task of `Connection::handle`, which accepts streams, datagrams
and replies until one of its branches ends, the reply tasks it spawns, and with them the whole of
one established connection as a transition system (`connectionSystem`). The steps are those of the
handle task, of any handler, reply or session task, and of the peer, who opens streams, sends any
bytes on them, and closes the connection at any time. -/

namespace Tuic.Server

open ByteCodec Transition

/-! ## Reply tasks -/

/-- A packet that came back for an association. -/
structure Reply where
  /-- The association it is for. -/
  assocId : UInt32
  /-- The payload. -/
  pkt : Bytes
  /-- Where it came from. -/
  addr : Address
  deriving DecidableEq

/-- Where `process_received_udp_packet` stands. -/
inductive ReplyPc where
  /-- Before the relay mode is checked. -/
  | check (r : Reply)
  /-- In `packet_to_uni_stream` or `packet_to_datagram`. -/
  | packetTo (src : UdpPacketSource) (r : Reply)
  /-- Returned. -/
  | done
  /-- Panicked. -/
  | panicked
  deriving DecidableEq

/-- The header of a reply. -/
def Reply.header (r : Reply) : Command := .packet r.assocId (UInt16.ofNat r.pkt.length) r.addr

/-- The bytes of a reply. -/
def Reply.bytes (r : Reply) : Bytes := r.header.writeToBuf ++ r.pkt

/-- One step of reply task `k`, given the relay mode: what it does and where it goes on. -/
def replyStep (cell : UdpPacketFrom) (k : Nat) : ReplyPc → Outcome → Option (List Event × ReplyPc)
  | .check r, _ =>
    -- `udp_packet_from.check().unwrap()`
    match cell with
    | none => some ([], .panicked)
    | some src => some ([], .packetTo src r)
  | .packetTo .uniStream r, .ok =>
    some ([.toPeer (.uniStream k) r.bytes, .finish (.uniStream k)], .done)
  -- the errors of a reply are only logged
  | .packetTo .uniStream r, .cut n => some ([.toPeer (.uniStream k) (r.bytes.take n)], .done)
  | .packetTo .uniStream _, .fail _ => some ([], .done)
  | .packetTo .datagram r, .ok => some ([.toPeer (.datagram k) r.bytes], .done)
  | .packetTo .datagram _, .fail _ => some ([], .done)
  | _, _ => none

/-! ## The handle task -/

/-- Where the task of `Connection::handle` stands. -/
inductive Handle where
  /-- In the outer `select!`; whether the authentication timeout is still one of its branches. -/
  | listening (awaitingAuth : Bool)
  /-- The time is up; before the connection is closed. -/
  | timeoutClose
  /-- The connection is closed; before `wake()`. -/
  | timeoutWake
  /-- The `select!` returned. -/
  | selected (res : Except ConnectionError Unit)
  /-- After `set_closed()`. -/
  | closed
  /-- Panicked. -/
  | panicked
  deriving DecidableEq

/-- What the task of `Connection::handle` does next. -/
inductive HandleStep where
  /-- `listen_uni_streams` gets a stream. -/
  | acceptUniStream
  /-- `listen_bi_streams` gets a stream. -/
  | acceptBiStream
  /-- `listen_datagrams` gets a datagram. -/
  | acceptDatagram (datagram : Bytes)
  /-- `listen_received_udp_packet` gets a packet. -/
  | receive
  /-- `handle_authentication_timeout` polls `is_authenticated`. -/
  | pollAuthenticated
  /-- The sleep of `handle_authentication_timeout` ends. -/
  | timeout
  /-- One of the listeners finds the connection closed. -/
  | listenerEnds
  /-- The next step after the `select!`, or of the timeout. -/
  | go
  deriving DecidableEq

/-- What a listener returns when the connection is closed: its stream ends after a local close, and
yields the error otherwise. -/
def CloseReason.listenerResult : CloseReason → Except ConnectionError Unit
  | .closed _ _ => .error .locallyClosed
  | .lost err => .error err

/-- What `handle_authentication_timeout` returns. -/
def authenticationTimeoutResult (isTimeout : Bool) : Except ConnectionError Unit :=
  if isTimeout then .error .locallyClosed else .ok ()

/-! ## The whole connection -/

/-- What the peer does with a stream. -/
inductive StreamEvent where
  /-- Bytes arrive. -/
  | data (bytes : Bytes)
  /-- The stream is finished. -/
  | finish
  /-- The stream is reset, or lost with the connection. -/
  | reset
  deriving DecidableEq

/-- A stream after an event, as long as it is receiving. -/
def RecvStream.on (r : RecvStream) : StreamEvent → Option RecvStream := fun ev =>
  if r.status = .receiving then
    match ev with
    | .data bytes => some { r with data := r.data ++ bytes }
    | .finish => some { r with status := .finished }
    | .reset => some { r with status := .failed }
  else none

/-- A new handler. -/
def Task.new (src : Source) (recv : RecvStream) : Task := ⟨src, recv, .read⟩

/-- The call of `UdpSessionMap::send` a handler is in. -/
def Pc.call : Pc → Option SendCall
  | .relay (.send call) => some call
  | _ => none

/-- The call of `UdpSessionMap::send` a handler is in. -/
def Task.call (t : Task) : Option SendCall := t.pc.call

/-- Whether a handler has returned. -/
def Task.returned (t : Task) : Bool :=
  match t.pc with
  | .done | .failed _ => true
  | _ => false

/-- An established connection with its tasks. -/
structure Established where
  /-- What the tasks share. -/
  conn : Connection
  /-- The task of `Connection::handle`. -/
  handle : Handle
  /-- The handlers, each named by its index. -/
  tasks : List Task
  /-- The reply tasks, each named by its index. -/
  replies : List ReplyPc

/-- A step of a connection. -/
inductive Action where
  /-- Of the task of `Connection::handle`. -/
  | handle (st : HandleStep)
  /-- Of a handler. -/
  | task (i : Nat) (outcome : Outcome)
  /-- Of a reply task. -/
  | reply (k : Nat) (outcome : Outcome)
  /-- Of a session task. -/
  | session (sid : SessionId) (st : SessionStep)
  /-- Of the peer, on the stream of a handler. -/
  | stream (i : Nat) (ev : StreamEvent)
  /-- The connection is lost. -/
  | peerClose (err : ConnectionError)
  /-- All tasks but those of sessions have returned, and the session table is dropped. -/
  | drop
  deriving DecidableEq

/-- The session task the action is one of, and its step. -/
def Action.session? : Action → Option (SessionId × SessionStep)
  | .session sid st => some (sid, st)
  | _ => none

/-- What is fixed for a connection. -/
structure Config where
  /-- The digests of the tokens. -/
  token : List Digest
  /-- The size of the receive buffer of a session. -/
  maxPktSize : Nat

namespace Established

/-- The session table and the calls of `send` under way. -/
def udpPool (s : Established) : UdpPool := ⟨s.conn.udpSessions, s.tasks.map Task.call⟩

/-- Spawn a handler. -/
def spawn (s : Established) (t : Task) : Established := { s with tasks := s.tasks ++ [t] }

/-- The `select!` returns: the listeners are dropped, and with them the receiving end of the channel
of received packets. -/
def select (s : Established) (res : Except ConnectionError Unit) : Established :=
  { s with
    conn := { s.conn with udpSessions := s.conn.udpSessions.hangUp }
    handle := .selected res }

/-- The pattern `Err(err)` of the last branch of the `select!`: when it does not match, the branch
is disabled and the others go on. -/
def timeoutBranch (s : Established) : Except ConnectionError Unit → Established
  | .ok () => { s with handle := .listening false }
  | .error err => s.select (.error err)

/-- One step of the task of `Connection::handle`. -/
def handleStep (s : Established) (st : HandleStep) : Option Established :=
  match s.handle, st with
  | .listening _, .acceptUniStream => some (s.spawn (.new .uniStream ⟨[], 0, .receiving⟩))
  | .listening _, .acceptBiStream => some (s.spawn (.new .biStream ⟨[], 0, .receiving⟩))
  -- a datagram is there as a whole, so its handler never waits for more
  | .listening _, .acceptDatagram datagram =>
    some (s.spawn (.new .datagram ⟨datagram, 0, .finished⟩))
  | .listening _, .receive =>
    match s.conn.udpSessions.recvPkt with
    | [] => none
    | (assocId, pkt, addr) :: rest =>
      some { s with
        conn := { s.conn with udpSessions := { s.conn.udpSessions with recvPkt := rest } }
        replies := s.replies ++ [.check ⟨assocId, pkt, addr⟩] }
  | .listening _, .listenerEnds =>
    match s.conn.controller with
    | none => none
    | some reason => some (s.select reason.listenerResult)
  -- the result of the wait does not matter: a connection that ended counts as authenticated here
  | .listening true, .pollAuthenticated =>
    match s.conn.poll .handle with
    | (conn, none) => some { s with conn := conn }
    | (conn, some _) =>
      some ({ s with conn := conn }.timeoutBranch (authenticationTimeoutResult false))
  | .listening true, .timeout => some { s with handle := .timeoutClose }
  | .timeoutClose, .go =>
    some { s with conn := s.conn.close .authenticationTimeout, handle := .timeoutWake }
  | .timeoutWake, .go =>
    some ({ s with conn := s.conn.wake }.timeoutBranch (authenticationTimeoutResult true))
  -- the `match` on the result of the `select!`
  | .selected (.ok ()), .go => some { s with handle := .panicked }
  | .selected (.error _), .go => some { s with conn := s.conn.setClosed, handle := .closed }
  | _, _ => none

/-- One step of a connection. -/
def step (cfg : Config) (s : Established) : Action → Option Established
  | .handle st => s.handleStep st
  | .task i outcome =>
    match s.tasks[i]? with
    | none => none
    | some t =>
      match t.step cfg.token s.conn i outcome with
      | some (conn, t') => some { s with conn := conn, tasks := s.tasks.set i t' }
      | none => none
  | .reply k outcome =>
    match s.replies[k]? with
    | none => none
    | some pc =>
      match replyStep s.conn.udpPacketFrom k pc outcome with
      | some (events, pc') =>
        some { s with conn := s.conn.emit events, replies := s.replies.set k pc' }
      | none => none
  | .session sid st =>
    match s.conn.udpSessions.sessionStep cfg.maxPktSize (s.udpPool.hasSender sid) sid st with
    | some u => some { s with conn := { s.conn with udpSessions := u } }
    | none => none
  | .stream i ev =>
    match s.tasks[i]? with
    | none => none
    | some t =>
      match t.recv.on ev with
      | some recv => some { s with tasks := s.tasks.set i { t with recv := recv } }
      | none => none
  -- only the first reason for a close is kept
  | .peerClose err =>
    some { s with conn := { s.conn with controller := s.conn.controller.or (some (.lost err)) } }
  -- the table lives in an `Arc` that the handle task, the handlers and the reply tasks share
  | .drop =>
    match s.handle with
    | .closed =>
      if s.tasks.all Task.returned && s.replies.all (· == .done) then
        some { s with
          conn := { s.conn with udpSessions := { s.conn.udpSessions with map := ∅ } } }
      else none
    | _ => none

end Established

/-- One established connection of the server. -/
def connectionSystem (cfg : Config) : System Established Action where
  init := ⟨.new, .listening true, [], []⟩
  step := Established.step cfg

end Tuic.Server
