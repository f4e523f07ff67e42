import Tuic.Protocol.Command
import Tuic.Transition.System
import Tuic.Transition.Pool
import Mathlib.Data.List.AList

/-! # The server's UDP sessions

`server/src/connection/udp.rs`: the relay mode cell `UdpPacketFrom`, the session table
`UdpSessionMap` with its asynchronous `send` and its `dissociate`, and the session task behind each
entry.

`send` is not atomic: it looks the association up under the lock, releases the lock, creates a
session when there was none, takes the lock again to insert it, and then waits for room in the
session's channel. `SendCall` is where a call stands, and `Udp.sendStep` is what it does up to its
next suspension or shared access. `Udp.sessionStep` is the same for a session task. `udpSystem` puts
them together: any number of calls, begun at any time with any arguments, and all session tasks, in
any interleaving. -/

namespace Tuic.Server

open ByteCodec Transition

/-! ## The relay mode cell -/

/-- The kind of channel a client sends its UDP packets on. -/
inductive UdpPacketSource where
  /-- Unidirectional streams. -/
  | uniStream
  /-- Datagrams. -/
  | datagram
  deriving DecidableEq, Repr

/-- The atomic cell that holds the relay mode once a packet has fixed it. -/
abbrev UdpPacketFrom := Option UdpPacketSource

namespace UdpPacketFrom

/-- The atomic compare-exchange of the cell: the previous value, as a success when the exchange took
place, and the new content. -/
def compareExchange (cell current new : UdpPacketFrom) :
    Except UdpPacketFrom UdpPacketFrom × UdpPacketFrom :=
  if cell = current then (.ok cell, new) else (.error cell, cell)

/-- Fix the mode to `src` when it is not fixed, and tell whether it is `src` now. -/
def claim (src : UdpPacketSource) (cell : UdpPacketFrom) : Bool × UdpPacketFrom :=
  match compareExchange cell none (some src) with
  | (.ok _, cell) => (true, cell)
  -- the cell was fixed before: a packet of the same kind is still welcome
  | (.error found, cell) => (found = some src, cell)

/-- A packet came in on a unidirectional stream. -/
def uniStream (cell : UdpPacketFrom) : Bool × UdpPacketFrom := claim .uniStream cell

/-- A packet came in as a datagram. -/
def datagram (cell : UdpPacketFrom) : Bool × UdpPacketFrom := claim .datagram cell

/-- **What a claim does**: the first one fixes the mode, and later ones agree or fail. -/
theorem claim_cases (src : UdpPacketSource) (cell : UdpPacketFrom) :
    ((cell = none ∨ cell = some src) ∧ claim src cell = (true, some src)) ∨
      ∃ found, cell = some found ∧ found ≠ src ∧ claim src cell = (false, cell) := by
  cases cell with
  | none => exact Or.inl ⟨Or.inl rfl, rfl⟩
  | some found =>
    by_cases hfound : found = src
    · subst hfound
      exact Or.inl ⟨Or.inr rfl, by simp [claim, compareExchange]⟩
    · exact Or.inr ⟨found, rfl, hfound, by simp [claim, compareExchange, hfound]⟩

end UdpPacketFrom

/-! ## Sessions and their table -/

/-- A session is named by the order of its creation; its channel and its socket go by that name. -/
abbrev SessionId := Nat

/-- A UDP packet to relay: its association, its payload and its target. -/
structure Packet where
  /-- The association the packet belongs to. -/
  assocId : UInt32
  /-- The payload. -/
  pkt : Bytes
  /-- The target. -/
  addr : Address
  deriving DecidableEq

/-- A session: its channel of packets to send and its task, which owns the socket and the receiving
end of the channel while it runs. -/
structure UdpSession where
  /-- The association the session was created for. -/
  assocId : UInt32
  /-- The channel, of capacity one. -/
  queue : List (Bytes × Address)
  /-- The packet `listen_send_packet` is sending. -/
  sending : Option (Bytes × Address)
  /-- The packet `listen_receive_packet` received and is handing on. -/
  received : Option (Bytes × SocketAddr)
  /-- Whether the task still runs. -/
  running : Bool
  deriving DecidableEq

/-- `UdpSession::new` once the socket is bound: an empty channel and a task on both loops. -/
def UdpSession.new (assocId : UInt32) : UdpSession := ⟨assocId, [], none, none, true⟩

/-- What happens to UDP packets, for statements about whole runs. -/
inductive UdpEvent where
  /-- A socket was bound for an association. -/
  | created (assocId : UInt32) (sid : SessionId)
  /-- A session was put into the table. -/
  | inserted (assocId : UInt32) (sid : SessionId)
  /-- An association was removed from the table. -/
  | removed (assocId : UInt32)
  /-- A packet was put into the channel of a session. -/
  | queued (p : Packet) (sid : SessionId)
  /-- A packet was dropped, since the task at the other end of the channel had ended. -/
  | lost (p : Packet) (sid : SessionId)
  /-- A session sent a packet out of its socket. -/
  | sentTo (sid : SessionId) (pkt : Bytes) (addr : Address)
  /-- A session received a packet on its socket. -/
  | receivedFrom (sid : SessionId) (pkt : Bytes) (addr : SocketAddr)
  deriving DecidableEq

/-- The state shared by all calls and session tasks of a connection. -/
structure Udp where
  /-- The table, behind its mutex. -/
  map : AList fun _ : UInt32 => SessionId
  /-- All sessions ever created. -/
  sessions : List UdpSession
  /-- The channel of received packets, of capacity one. -/
  recvPkt : List (UInt32 × Bytes × Address)
  /-- Whether the receiving end of that channel is still there. -/
  recvOpen : Bool
  /-- What has happened so far, latest first. -/
  log : List UdpEvent

/-- No session, and an open channel of received packets. -/
def Udp.new : Udp := ⟨∅, [], [], true, []⟩

/-- Record an event. -/
def Udp.emit (u : Udp) (e : UdpEvent) : Udp := { u with log := e :: u.log }

/-- Replace the state of a session. -/
def Udp.setSession (u : Udp) (sid : SessionId) (ses : UdpSession) : Udp :=
  { u with sessions := u.sessions.set sid ses }

/-- The receiving end of the channel of received packets is dropped. -/
def Udp.hangUp (u : Udp) : Udp := { u with recvPkt := [], recvOpen := false }

namespace Udp

variable (u : Udp) (e : UdpEvent) (sid : SessionId) (ses : UdpSession)

@[simp] theorem emit_map : (u.emit e).map = u.map := rfl

@[simp] theorem emit_log : (u.emit e).log = e :: u.log := rfl

@[simp] theorem setSession_log : (u.setSession sid ses).log = u.log := rfl

end Udp

/-! ## `UdpSessionMap::send` -/

/-- Where a call of `send` stands. -/
inductive SendCall where
  /-- Before the lookup under the lock. -/
  | lookup (p : Packet)
  /-- The association was not found and the lock is released; `UdpSession::new` is under way. -/
  | create (p : Packet)
  /-- The session is created; before the insertion under the lock. -/
  | insert (p : Packet) (sid : SessionId)
  /-- A sender of the channel is at hand; waiting for room in it. -/
  | push (p : Packet) (sid : SessionId)
  deriving DecidableEq

namespace SendCall

/-- The packet of a call. -/
def packet : SendCall → Packet
  | .lookup p | .create p | .insert p _ | .push p _ => p

/-- The session whose sender a call holds. -/
def sender : SendCall → Option SessionId
  | .lookup _ | .create _ => none
  | .insert _ sid | .push _ sid => some sid

/-- A call that found no session and has not inserted its own yet. -/
def creating : SendCall → Bool
  | .create _ | .insert _ _ => true
  | .lookup _ | .push _ _ => false

end SendCall

/-- How a call goes on: to its next step, or back to its caller with the result. -/
inductive SendNext where
  /-- The call is still under way. -/
  | call (c : SendCall)
  /-- The call returned `Ok(())` or an I/O error. -/
  | returned (ok : Bool)
  deriving DecidableEq

namespace Udp

/-- One step of a `send` call. `bindOk` says whether the socket can be bound, where that is asked;
no step is possible while the channel is full. -/
def sendStep (u : Udp) (bindOk : Bool) : SendCall → Option (Udp × SendNext)
  | .lookup p =>
    match u.map.lookup p.assocId with
    | some sid => some (u, .call (.push p sid))
    | none => some (u, .call (.create p))
  -- the lock is not held here, so another call may insert the association meanwhile
  | .create p =>
    if bindOk then
      let sid := u.sessions.length
      let u' := { u with sessions := u.sessions ++ [UdpSession.new p.assocId] }
      some (u'.emit (.created p.assocId sid), .call (.insert p sid))
    else some (u, .returned false)
  | .insert p sid =>
    let u' := { u with map := u.map.insert p.assocId sid }
    some (u'.emit (.inserted p.assocId sid), .call (.push p sid))
  | .push p sid =>
    match u.sessions[sid]? with
    | none => none
    | some ses =>
      -- the result of the channel send is dropped, so both outcomes return `Ok(())`
      if ses.running then
        if ses.queue.length < 1 then
          some ((u.setSession sid { ses with queue := ses.queue ++ [(p.pkt, p.addr)] }).emit
            (.queued p sid), .returned true)
        else none
      else some (u.emit (.lost p sid), .returned true)

/-- `UdpSessionMap::dissociate`: the entry is removed under the lock. -/
def dissociate (u : Udp) (assocId : UInt32) : Udp :=
  let u' := { u with map := u.map.erase assocId }
  u'.emit (.removed assocId)

@[simp] theorem dissociate_map (u : Udp) (assocId : UInt32) :
    (u.dissociate assocId).map = u.map.erase assocId := rfl

@[simp] theorem dissociate_log (u : Udp) (assocId : UInt32) :
    (u.dissociate assocId).log = .removed assocId :: u.log := rfl

/-! ## The session task -/

end Udp

/-- What a session task does next. -/
inductive SessionStep where
  /-- `send_pkt_rx.recv()` returns a packet. -/
  | take
  /-- `send_pkt_rx.recv()` returns `None`: every sender is gone. -/
  | disconnected
  /-- The `send_to` under way, with its name resolution, succeeds or fails. -/
  | sendTo (ok : Bool)
  /-- `recv_from` returns a datagram. -/
  | recvFrom (data : Bytes) (addr : SocketAddr)
  /-- `recv_from` fails. -/
  | recvFail
  /-- The received packet is put into the channel of received packets. -/
  | handOn
  deriving DecidableEq

namespace Udp

/-- The task of session `sid` ends: its socket and the receiving end of its channel are dropped. -/
def endSession (u : Udp) (sid : SessionId) (ses : UdpSession) : Udp :=
  u.setSession sid { ses with queue := [], sending := none, received := none, running := false }

/-- One step of the task of session `sid`. `hasSender` says whether some sender of its channel
still exists; `maxPktSize` is the size of the receive buffer, past which a datagram is cut off. -/
def sessionStep (maxPktSize : Nat) (u : Udp) (hasSender : Bool) (sid : SessionId) :
    SessionStep → Option Udp := fun step =>
  match u.sessions[sid]? with
  | none => none
  | some ses =>
    if !ses.running then none
    else match step with
      | .take =>
        match ses.sending, ses.queue with
        | none, p :: queue =>
          some (u.setSession sid { ses with sending := some p, queue := queue })
        | _, _ => none
      -- `listen_send_packet` returns, and `select!` drops the other loop with it
      | .disconnected =>
        if ses.sending = none ∧ ses.queue = [] ∧ hasSender = false then some (u.endSession sid ses)
        else none
      | .sendTo ok =>
        match ses.sending with
        | none => none
        | some (pkt, addr) =>
          if ok then
            some ((u.setSession sid { ses with sending := none }).emit (.sentTo sid pkt addr))
          else some (u.endSession sid ses)
      | .recvFrom data addr =>
        match ses.received with
        | some _ => none
        | none =>
          let pkt := data.take maxPktSize
          some ((u.setSession sid { ses with received := some (pkt, addr) }).emit
            (.receivedFrom sid pkt addr))
      | .recvFail =>
        match ses.received with
        | some _ => none
        | none => some (u.endSession sid ses)
      | .handOn =>
        match ses.received with
        | none => none
        | some (pkt, addr) =>
          let u' := u.setSession sid { ses with received := none }
          if u.recvOpen then
            if u.recvPkt.length < 1 then
              some { u' with recvPkt := u.recvPkt ++ [(ses.assocId, pkt, .socketAddress addr)] }
            else none
          -- the connection is gone: the result of the channel send is dropped
          else some u'

end Udp

end Tuic.Server
