import Tuic.Protocol.Command
import Tuic.Server.Udp
import Tuic.Server.Authenticate

/-! # The handler tasks of a server connection

`server/src/connection/dispatch.rs` and `task.rs`: what a connection does with one incoming stream
or datagram. A handler decodes a command, waits at the authentication barrier, and then either
starts one of the relay tasks or fails, in which case the connection is closed with the code of the
error.

A handler runs in its own task, so it is modelled by where it stands (`Pc`) and by a step function:
`Task.step` takes it to its next shared access or suspension. What the operation it waits for comes
to (an error, the addresses a name resolves to, how much was written) is the `Outcome` given to the
step. Past the barrier a handler runs a relay task (`Relay`, `relayStep`), which cannot reach the
barrier, the relay mode or the connection any more: `relayStep` is not given them. -/

namespace Tuic.Server

open ByteCodec

/-! ## Errors -/

/-- Why a handler closes the connection. -/
inductive DispatchError where
  /-- No command could be read. -/
  | io (err : IoError)
  /-- The digest of an `Authenticate` is not that of a token. -/
  | authenticationFailed
  /-- The connection ended before the client was authenticated. -/
  | authenticationTimeout
  /-- The command is not allowed on its channel. -/
  | badCommand
  deriving DecidableEq, Repr

namespace DispatchError

/-- `CODE_PROTOCOL`. -/
def codeProtocol : UInt32 := 0xfffffff0

/-- `CODE_AUTHENTICATION_FAILED`. -/
def codeAuthenticationFailed : UInt32 := 0xfffffff1

/-- `CODE_AUTHENTICATION_TIMEOUT`. -/
def codeAuthenticationTimeout : UInt32 := 0xfffffff2

/-- `CODE_BAD_COMMAND`. -/
def codeBadCommand : UInt32 := 0xfffffff3

/-- The code the connection is closed with. -/
def asErrorCode : DispatchError → UInt32
  | .io _ => codeProtocol
  | .authenticationFailed => codeAuthenticationFailed
  | .authenticationTimeout => codeAuthenticationTimeout
  | .badCommand => codeBadCommand

/-- The reason the connection is closed with. -/
def toString : DispatchError → String
  | .io err => err.message
  | .authenticationFailed => "authentication failed"
  | .authenticationTimeout => "authentication timeout"
  | .badCommand => "bad command"

end DispatchError

/-- How a QUIC connection is lost. -/
inductive ConnectionError where
  /-- The peer speaks no common version. -/
  | versionMismatch
  /-- The peer violated the transport protocol. -/
  | transportError
  /-- The peer's transport closed the connection. -/
  | connectionClosed
  /-- The peer's application closed the connection. -/
  | applicationClosed
  /-- The peer has forgotten the connection. -/
  | reset
  /-- Nothing was heard of the peer for too long. -/
  | timedOut
  /-- This side closed the connection. -/
  | locallyClosed
  deriving DecidableEq, Repr

/-! ## Incoming items and what is recorded about them -/

/-- The channel an item came in on. -/
inductive Source where
  /-- A unidirectional stream. -/
  | uniStream
  /-- A bidirectional stream. -/
  | biStream
  /-- A datagram. -/
  | datagram
  deriving DecidableEq, Repr

/-- Whether more bytes of a stream can arrive. -/
inductive StreamStatus where
  /-- More may come. -/
  | receiving
  /-- The peer finished the stream, or the item is a datagram. -/
  | finished
  /-- The peer reset the stream, or the connection was lost. -/
  | failed
  deriving DecidableEq, Repr

/-- The receiving half of a stream, or a datagram. -/
structure RecvStream where
  /-- All bytes that have arrived. -/
  data : Bytes
  /-- How many of them have been read. -/
  pos : Nat
  /-- Whether more can arrive. -/
  status : StreamStatus
  deriving DecidableEq, Repr

/-- The bytes that have arrived and are not read yet. -/
def RecvStream.unread (r : RecvStream) : Bytes := r.data.drop r.pos

/-- The next `n` bytes are read. -/
def RecvStream.advance (r : RecvStream) (n : Nat) : RecvStream := { r with pos := r.pos + n }

/-- The functions of `task.rs` a client's command starts, with their arguments. -/
inductive RelayTask where
  /-- `connect` -/
  | connect (addr : Address)
  /-- `packet_from_uni_stream` -/
  | packetFromUniStream (assocId : UInt32) (len : UInt16) (addr : Address)
  /-- `packet_from_datagram` -/
  | packetFromDatagram (pkt : Bytes) (assocId : UInt32) (addr : Address)
  /-- `dissociate` -/
  | dissociate (assocId : UInt32)
  deriving DecidableEq, Repr

/-- A way to the client: the sending half of the stream of handler `i`, or the stream or datagram of
reply task `k`. -/
inductive PeerChannel where
  /-- The bidirectional stream of handler `i`. -/
  | biStream (i : Nat)
  /-- The unidirectional stream of reply task `k`. -/
  | uniStream (k : Nat)
  /-- The datagram of reply task `k`. -/
  | datagram (k : Nat)
  deriving DecidableEq, Repr

/-- What a connection does, for statements about whole runs. -/
inductive Event where
  /-- Handler `i` decoded a command. -/
  | decoded (i : Nat) (src : Source) (cmd : Command)
  /-- Handler `i` started a relay task. -/
  | started (i : Nat) (task : RelayTask)
  /-- Handler `i` asked for the addresses of a name. -/
  | lookupHost (i : Nat) (domain : String) (port : UInt16)
  /-- Handler `i` tried a TCP connection. -/
  | tcpConnect (i : Nat) (addr : SocketAddr) (ok : Bool)
  /-- Handler `i` wrote to its TCP connection. -/
  | toTarget (i : Nat) (data : Bytes)
  /-- Bytes were written to the client. -/
  | toPeer (ch : PeerChannel) (data : Bytes)
  /-- A stream to the client was finished. -/
  | finish (ch : PeerChannel)
  /-- The connection was closed with a code and a reason. -/
  | close (code : UInt32) (reason : String)
  deriving DecidableEq

/-- What the operation a task waits for comes to. -/
inductive Outcome where
  /-- It succeeds. -/
  | ok
  /-- It fails. -/
  | fail (err : IoError)
  /-- It is a write, and fails after `n` bytes. -/
  | cut (n : Nat)
  /-- It is a name resolution, with these addresses. -/
  | resolved (addrs : List SocketAddr)
  /-- It is the copy loop, which reads the next `n` bytes of the stream. -/
  | readStream (n : Nat)
  /-- It is the copy loop, which writes `n` of those to the target. -/
  | writeTarget (n : Nat)
  /-- It is the copy loop, which reads these bytes of the target. -/
  | readTarget (data : Bytes)
  /-- It is the copy loop, which writes `n` of those to the stream. -/
  | writeStream (n : Nat)
  deriving DecidableEq

/-- Whether the operation succeeds. -/
def Outcome.succeeds : Outcome → Bool
  | .fail _ => false
  | _ => true

/-! ## Relay tasks -/

/-- Where `connect` stands. -/
inductive ConnectPc where
  /-- Before the addresses of the target are known. -/
  | resolve (addr : Address)
  /-- In the loop over the addresses, with these left to try. -/
  | attempt (addrs : List SocketAddr)
  /-- Before the response is written. -/
  | respond (isSucceeded : Bool)
  /-- In `copy_bidirectional`, which holds the bytes that were read of the stream and not written to
  the target, and those that were read of the target and not written to the stream. -/
  | tunnel (up down : Bytes)
  /-- Before the stream of a failed request is finished. -/
  | finish
  deriving DecidableEq

/-- One step of `connect` in handler `i`: what it does, what it has read of its stream, and where it
goes on, if it does. -/
def connectStep (i : Nat) (recv : RecvStream) :
    ConnectPc → Outcome → Option (List Event × RecvStream × Option ConnectPc)
  | .resolve (.socketAddress addr), _ => some ([], recv, some (.attempt [addr]))
  | .resolve (.domainAddress domain port), .resolved addrs =>
    some ([.lookupHost i domain port], recv, some (.attempt addrs))
  -- an error of `lookup_host` is returned at once, and the client gets no response
  | .resolve (.domainAddress domain port), .fail _ =>
    some ([.lookupHost i domain port], recv, none)
  -- every address failed, or the name has none
  | .attempt [], _ => some ([], recv, some (.respond false))
  | .attempt (addr :: _), .ok => some ([.tcpConnect i addr true], recv, some (.respond true))
  | .attempt (addr :: addrs), .fail _ =>
    some ([.tcpConnect i addr false], recv, some (.attempt addrs))
  | .respond isSucceeded, .ok =>
    some ([.toPeer (.biStream i) (Command.response isSucceeded).writeToBuf], recv,
      some (if isSucceeded then .tunnel [] [] else .finish))
  | .respond isSucceeded, .cut n =>
    some ([.toPeer (.biStream i) ((Command.response isSucceeded).writeToBuf.take n)], recv, none)
  | .tunnel up down, .readStream n =>
    if 0 < n ∧ n ≤ recv.unread.length then
      some ([], recv.advance n, some (.tunnel (up ++ recv.unread.take n) down))
    else none
  | .tunnel up down, .writeTarget n =>
    if 0 < n ∧ n ≤ up.length then
      some ([.toTarget i (up.take n)], recv, some (.tunnel (up.drop n) down))
    else none
  | .tunnel up down, .readTarget data => some ([], recv, some (.tunnel up (down ++ data)))
  | .tunnel up down, .writeStream n =>
    if 0 < n ∧ n ≤ down.length then
      some ([.toPeer (.biStream i) (down.take n)], recv, some (.tunnel up (down.drop n)))
    else none
  -- it returns when everything was written, or with an error, and then what it holds is lost
  | .tunnel [] [], .ok => some ([], recv, none)
  | .tunnel _ _, .fail _ => some ([], recv, none)
  | .finish, .ok => some ([.finish (.biStream i)], recv, none)
  | .finish, .fail _ => some ([], recv, none)
  | _, _ => none

/-- Where a relay task stands. -/
inductive Relay where
  /-- `packet_from_uni_stream`, before the payload is read. -/
  | readPayload (assocId : UInt32) (len : UInt16) (addr : Address)
  /-- `packet_from_uni_stream` or `packet_from_datagram`, in `UdpSessionMap::send`. -/
  | send (call : SendCall)
  /-- `dissociate` -/
  | dissociate (assocId : UInt32)
  /-- `connect` -/
  | connect (pc : ConnectPc)
  deriving DecidableEq

/-- Where a relay task begins. -/
def RelayTask.entry : RelayTask → Relay
  | .connect addr => .connect (.resolve addr)
  | .packetFromUniStream assocId len addr => .readPayload assocId len addr
  | .packetFromDatagram pkt assocId addr => .send (.lookup ⟨assocId, pkt, addr⟩)
  | .dissociate assocId => .dissociate assocId

/-- One step of a relay task in handler `i`. It ends by `none`; an error is only logged. -/
def relayStep (u : Udp) (i : Nat) (recv : RecvStream) :
    Relay → Outcome → Option (Udp × List Event × RecvStream × Option Relay)
  | .readPayload assocId len addr, .ok =>
    if len.toNat ≤ recv.unread.length then
      some (u, [], recv.advance len.toNat,
        some (.send (.lookup ⟨assocId, recv.unread.take len.toNat, addr⟩)))
    else if recv.status = .receiving then none
    else some (u, [], recv, none)
  | .readPayload _ _ _, .fail _ =>
    if recv.status = .failed then some (u, [], recv, none) else none
  -- the outcome is that of the bind, where the call is about to bind a socket
  | .send call, outcome =>
    match u.sendStep outcome.succeeds call with
    | some (u', .call call') => some (u', [], recv, some (.send call'))
    | some (u', .returned _) => some (u', [], recv, none)
    | none => none
  | .dissociate assocId, _ => some (u.dissociate assocId, [], recv, none)
  | .connect pc, outcome =>
    match connectStep i recv pc outcome with
    | some (events, recv', some pc') => some (u, events, recv', some (.connect pc'))
    | some (events, recv', none) => some (u, events, recv', none)
    | none => none
  | _, _ => none

/-! ## Dispatch -/

/-- What a handler does with its command once the client is authenticated. -/
inductive Dispatched where
  /-- It starts a relay task. -/
  | start (task : RelayTask)
  /-- It returns. -/
  | returned (res : Except DispatchError Unit)
  /-- It runs into `unreachable!()` or a slice out of range. -/
  | panicked

/-- The `match` of `process_uni_stream`. -/
def dispatchUniStream (cell : UdpPacketFrom) : Command → UdpPacketFrom × Dispatched
  -- `unreachable!()`: the command was answered before the barrier
  | .authenticate _ => (cell, .panicked)
  | .packet assocId len addr =>
    match cell.uniStream with
    | (true, cell') => (cell', .start (.packetFromUniStream assocId len addr))
    | (false, cell') => (cell', .returned (.error .badCommand))
  | .dissociate assocId => (cell, .start (.dissociate assocId))
  | .heartbeat => (cell, .returned (.ok ()))
  | .response _ | .connect _ => (cell, .returned (.error .badCommand))

/-- The `match` of `process_bi_stream`. -/
def dispatchBiStream : Command → Dispatched
  | .connect addr => .start (.connect addr)
  | _ => .returned (.error .badCommand)

/-- The `match` of `process_datagram`. -/
def dispatchDatagram (cell : UdpPacketFrom) (datagram : Bytes) (cmd : Command) :
    UdpPacketFrom × Dispatched :=
  let cmdLen := cmd.serializedLen
  match cmd with
  | .packet assocId _ addr =>
    match cell.datagram with
    | (true, cell') =>
      -- `datagram.slice(cmd_len..)` panics when `cmd_len` is past the end
      if cmdLen ≤ datagram.length then
        (cell', .start (.packetFromDatagram (datagram.drop cmdLen) assocId addr))
      else (cell', .panicked)
    | (false, cell') => (cell', .returned (.error .badCommand))
  | _ => (cell, .returned (.error .badCommand))

/-- What a handler of the given channel does with its command. -/
def dispatch (cell : UdpPacketFrom) (src : Source) (data : Bytes) (cmd : Command) :
    UdpPacketFrom × Dispatched :=
  match src with
  | .uniStream => dispatchUniStream cell cmd
  | .biStream => (cell, dispatchBiStream cmd)
  | .datagram => dispatchDatagram cell data cmd

/-! ## The connection as its tasks see it -/

/-- The tasks that can wait at the barrier: the one of `Connection::handle`, with the authentication
timeout in it, and the handlers. -/
inductive TaskId where
  /-- The task of `Connection::handle`. -/
  | handle
  /-- A handler. -/
  | handler (i : Nat)
  deriving DecidableEq, Repr

/-- Why a QUIC connection is closed. -/
inductive CloseReason where
  /-- This side closed it, with a code and a reason. -/
  | closed (code : UInt32) (reason : String)
  /-- It was lost. -/
  | lost (err : ConnectionError)
  deriving DecidableEq, Repr

/-- The digest of a token. -/
abbrev Digest := List.Vector UInt8 32

/-- What the tasks of a connection share. -/
structure Connection where
  /-- Whether the QUIC connection is closed, and why. -/
  controller : Option CloseReason
  /-- The relay mode. -/
  udpPacketFrom : UdpPacketFrom
  /-- The session table with its sessions. -/
  udpSessions : Udp
  /-- The barrier. -/
  isAuthenticated : IsAuthenticated TaskId
  /-- The tasks with a wake pending. -/
  woken : List TaskId
  /-- What has happened so far, latest first. -/
  log : List Event

namespace Connection

/-- A connection that has just been established. -/
def new : Connection := ⟨none, none, Udp.new, .new .new, [], []⟩

/-- Record events, in the order they are given in. -/
def emit (c : Connection) (events : List Event) : Connection :=
  { c with log := events.reverse ++ c.log }

/-- `controller.close`: only the first close of a connection has an effect. -/
def close (c : Connection) (err : DispatchError) : Connection :=
  let c' := { c with controller := c.controller.or (some (.closed err.asErrorCode err.toString)) }
  c'.emit [.close err.asErrorCode err.toString]

/-- `is_authenticated.set_authenticated()` -/
def setAuthenticated (c : Connection) : Connection :=
  { c with isAuthenticated := c.isAuthenticated.setAuthenticated }

/-- `is_authenticated.wake()` -/
def wake (c : Connection) : Connection :=
  { c with
    isAuthenticated := c.isAuthenticated.wake.1
    woken := c.isAuthenticated.wake.2 ++ c.woken }

/-- `is_closed.set_closed()` -/
def setClosed (c : Connection) : Connection :=
  { c with
    isAuthenticated := c.isAuthenticated.setClosed.1
    woken := c.isAuthenticated.setClosed.2 ++ c.woken }

/-- A task polls `is_authenticated`, which uses up a wake pending for it. -/
def poll (c : Connection) (task : TaskId) : Connection × Option Bool :=
  let (isAuthenticated, res) := c.isAuthenticated.poll task
  ({ c with isAuthenticated := isAuthenticated, woken := c.woken.filter (· ≠ task) }, res)

variable (c : Connection)

@[simp] theorem emit_log (events : List Event) :
    (c.emit events).log = events.reverse ++ c.log := rfl

@[simp] theorem close_log (err : DispatchError) :
    (c.close err).log = .close err.asErrorCode err.toString :: c.log := rfl

/-- A poll leaves both flags alone. -/
theorem poll_flags (task : TaskId) :
    (c.poll task).1.isAuthenticated.isAuthenticated = c.isAuthenticated.isAuthenticated ∧
      (c.poll task).1.isAuthenticated.isConnectionClosed =
        c.isAuthenticated.isConnectionClosed := by
  simp only [poll, IsAuthenticated.poll]
  split
  · exact ⟨rfl, rfl⟩
  · split <;> exact ⟨rfl, rfl⟩

/-- **What a poll returns**: that the connection has ended, that the client is authenticated, or
nothing yet, and then the waker is in the list. -/
theorem poll_cases (task : TaskId) :
    (c.isAuthenticated.isConnectionClosed.check = true ∧ (c.poll task).2 = some false ∧
      (c.poll task).1.isAuthenticated.broadcast = c.isAuthenticated.broadcast) ∨
    (c.isAuthenticated.isConnectionClosed.check = false ∧
      c.isAuthenticated.isAuthenticated = true ∧ (c.poll task).2 = some true ∧
      (c.poll task).1.isAuthenticated.broadcast = c.isAuthenticated.broadcast) ∨
    (c.isAuthenticated.isConnectionClosed.check = false ∧
      c.isAuthenticated.isAuthenticated = false ∧ (c.poll task).2 = none ∧
      (c.poll task).1.isAuthenticated.broadcast = c.isAuthenticated.broadcast ++ [task]) := by
  simp only [poll, IsAuthenticated.poll]
  split
  · rename_i hclosed
    exact Or.inl ⟨hclosed, rfl, rfl⟩
  · rename_i hclosed
    split
    · rename_i hauth
      exact Or.inr (Or.inl ⟨by simpa using hclosed, hauth, rfl, rfl⟩)
    · rename_i hauth
      exact Or.inr (Or.inr ⟨by simpa using hclosed, by simpa using hauth, rfl, rfl⟩)

end Connection

/-! ## Handlers -/

/-- Where a handler stands. -/
inductive Pc where
  /-- Before its command is read. -/
  | read
  /-- `process_uni_stream`, with a valid digest. -/
  | setAuthenticated
  /-- The flag is set; before `wake()`. -/
  | wakeAuthenticated
  /-- `process_uni_stream`, with an invalid digest. -/
  | closeFailed
  /-- The connection is closed; before `wake()`. -/
  | wakeFailed
  /-- About to poll `is_authenticated` for the first time. -/
  | await (cmd : Command)
  /-- The poll was pending. -/
  | parked (cmd : Command)
  /-- The client is authenticated; before the `match` on the command. -/
  | dispatch (cmd : Command)
  /-- In a relay task. -/
  | relay (r : Relay)
  /-- The handler returned an error; before the connection is closed with it. -/
  | fail (err : DispatchError)
  /-- The handler returned `Ok(())`. -/
  | done
  /-- The handler failed, and the connection is closed. -/
  | failed (err : DispatchError)
  /-- The handler panicked. -/
  | panicked
  deriving DecidableEq

/-- A handler task: the item it is for, and where it stands. -/
structure Task where
  /-- The channel of its item. -/
  source : Source
  /-- The bytes of its item. -/
  recv : RecvStream
  /-- Where it stands. -/
  pc : Pc
  deriving DecidableEq

/-- Where a handler goes on with its command: only `process_uni_stream` looks for an `Authenticate`
before the barrier. -/
def Pc.ofCommand (token : List Digest) : Source → Command → Pc
  | .uniStream, .authenticate digest =>
    if digest ∈ token then .setAuthenticated else .closeFailed
  | _, cmd => .await cmd

/-- Where a handler goes on after a poll of `is_authenticated`. -/
def Pc.ofPoll (cmd : Command) : Option Bool → Pc
  | none => .parked cmd
  | some true => .dispatch cmd
  | some false => .fail .authenticationTimeout

/-- Where a handler goes on after its `match`. -/
def Pc.ofDispatched : Dispatched → Pc
  | .start task => .relay task.entry
  | .returned (.ok ()) => .done
  | .returned (.error err) => .fail err
  | .panicked => .panicked

/-- What the start of a relay task records. -/
def Dispatched.events (i : Nat) : Dispatched → List Event
  | .start task => [.started i task]
  | _ => []

/-- Where a handler goes on after a step of its relay task. -/
def Pc.ofRelay : Option Relay → Pc
  | some r => .relay r
  | none => .done

namespace Task

/-- `Command::read_from` on the bytes that have arrived: it waits while they end inside the command
and more can come. -/
def readCommand (token : List Digest) (c : Connection) (i : Nat) (t : Task) :
    Outcome → Option (Connection × Task)
  | .fail err =>
    if t.recv.status = .failed then some (c, { t with pc := .fail (.io err) }) else none
  -- `data` is what arrived so far, and nothing of it has been read
  | _ =>
    match Command.readFrom t.recv.data with
    | .ok (cmd, rest) =>
      some (c.emit [.decoded i t.source cmd],
        { t with
          recv := t.recv.advance (t.recv.data.length - rest.length)
          pc := .ofCommand token t.source cmd })
    | .error (.io err) =>
      if err.kind = .unexpectedEof ∧ t.recv.status = .receiving then none
      else some (c, { t with pc := .fail (.io err) })
    | .error .panic => some (c, { t with pc := .panicked })

/-- One step of handler `i`. -/
def step (token : List Digest) (c : Connection) (i : Nat) (t : Task) (outcome : Outcome) :
    Option (Connection × Task) :=
  match t.pc with
  | .read => t.readCommand token c i outcome
  | .setAuthenticated => some (c.setAuthenticated, { t with pc := .wakeAuthenticated })
  | .wakeAuthenticated => some (c.wake, { t with pc := .done })
  -- the connection is closed here and once more by the caller, which has no effect
  | .closeFailed => some (c.close .authenticationFailed, { t with pc := .wakeFailed })
  | .wakeFailed => some (c.wake, { t with pc := .fail .authenticationFailed })
  | .await cmd =>
    let (c', res) := c.poll (.handler i)
    some (c', { t with pc := .ofPoll cmd res })
  -- a parked handler is polled again only when it has been woken
  | .parked cmd =>
    if .handler i ∈ c.woken then
      let (c', res) := c.poll (.handler i)
      some (c', { t with pc := .ofPoll cmd res })
    else none
  | .dispatch cmd =>
    let (cell, res) := Server.dispatch c.udpPacketFrom t.source t.recv.data cmd
    some ({ c with udpPacketFrom := cell }.emit (res.events i), { t with pc := .ofDispatched res })
  | .relay r =>
    match relayStep c.udpSessions i t.recv r outcome with
    | some (u, events, recv, r') =>
      some ({ c with udpSessions := u }.emit events, { t with recv := recv, pc := .ofRelay r' })
    | none => none
  | .fail err => some (c.close err, { t with pc := .failed err })
  | .done | .failed _ | .panicked => none

end Task

end Tuic.Server
