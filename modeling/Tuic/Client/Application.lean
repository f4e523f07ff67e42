import Tuic.Client.Socks5

/-! # The handler of a SOCKS5 association

`client/src/socks5/associate.rs`, in both directions. The handler hands a request to the relay and
then relays, `socks5_to_relay` from its socket into the send channel of the request and
`relay_to_socks5` from the receive channel back to the socket, until one of them ends or the
application closes its control connection. The socket is connected to the sender of the first
packet, and only then can anything be sent back.

The channels have room for one packet. What is received of a datagram is what fits the buffer of the
socket; any size is possible here, and `Buffers` says that it is always one that `Socks5` computes.
-/

namespace Tuic.Client.Socks5

open ByteCodec Transition

/-! ## Handlers -/

/-- A packet for the application, with its source. -/
abbrev Inbound := Bytes × Address

/-- A packet of the application, with its target, in which a domain has at most 255 bytes. -/
abbrev Outbound := { m : Bytes × Address // m.2.Fits }

/-- The target of a packet is one of a SOCKS5 header. -/
theorem UdpPacket.fits (p : UdpPacket) : (p.payload, p.header.address).2.Fits := p.header.fits

/-- What is relayed of a packet of the application. -/
def UdpPacket.outbound (p : UdpPacket) : Outbound := ⟨(p.payload, p.header.address), p.fits⟩

/-- A datagram that arrives at the socket of a handler. -/
structure Datagram where
  /-- The packet, as the application has sent it. -/
  packet : UdpPacket
  /-- Where it comes from. -/
  src : SocketAddr
  /-- The size of the buffer it is received into. -/
  size : Nat

/-- What the handler accepts of a datagram: the packet as far as it fits the buffer, unless it is a
fragment or not even its header fits. -/
def Datagram.accept? (d : Datagram) : Option (SocketAddr × Outbound) :=
  match d.packet.received d.size with
  | some q => if q.header.frag = 0 then some (d.src, q.outbound) else none
  | none => none

/-- Where `socks5_to_relay` stands. -/
inductive UplinkPc where
  /-- In `recv_from`, in the first loop. -/
  | recvFrom
  /-- Before the first packet is put into the send channel; the sender of the packet. -/
  | sendFirst (m : Outbound) (src : SocketAddr)
  /-- Before the socket is connected to the sender of the first packet. -/
  | connect (src : SocketAddr)
  /-- In `recv`, in the second loop. -/
  | recv
  /-- Before a packet is put into the send channel. -/
  | send (m : Outbound)
  deriving DecidableEq

/-- Where `relay_to_socks5` stands. -/
inductive DownlinkPc where
  /-- Waiting at the receive channel. -/
  | recv
  /-- Before a packet is sent to the application. -/
  | send (m : Inbound)
  deriving DecidableEq

/-- Where the handler of an association stands. -/
inductive HandlePc where
  /-- Before its socket is bound. -/
  | bind
  /-- Before the request is handed to the relay. -/
  | request
  /-- Before the reply to the application. -/
  | reply
  /-- In the `select!`, in both loops. -/
  | relaying (up : UplinkPc) (down : DownlinkPc)
  /-- The `select!` returned; before the control connection is shut down. -/
  | shutdown (isOk : Bool)
  /-- No socket could be bound; before the application is told so. -/
  | refuse
  /-- Returned. -/
  | returned (isOk : Bool)
  deriving DecidableEq

/-- What has become of the request of a handler. -/
inductive RequestPc where
  /-- Not made yet. -/
  | unsent
  /-- Handed to the relay; waiting for a connection. -/
  | waiting
  /-- Served as this association of the connection. -/
  | served (a : Nat)
  /-- Dropped: there was no connection in time, or no relay. -/
  | dropped
  deriving DecidableEq

/-- The handler of the association of one application. -/
structure Application where
  /-- Where it stands. -/
  pc : HandlePc
  /-- Whom its socket is connected to. -/
  peer : Option SocketAddr
  /-- Its request. -/
  request : RequestPc
  /-- The size of the receive buffer, when the call of `recv_from` or `recv` has dropped a datagram
  and waits for the next one. -/
  buffer : Option Nat
  /-- What is in the send channel. -/
  outbox : List Outbound
  /-- The datagrams that have arrived at the socket, in this order. -/
  arrived : List Datagram
  /-- The packets that the request has taken out of the send channel, in that order. -/
  relayed : List Outbound
  /-- The packets that were sent to the application, with whom they were sent to. -/
  replied : List (SocketAddr × Inbound)

/-- What a handler does next. -/
inductive HandleStep where
  /-- The operation at hand succeeds. -/
  | go
  /-- It fails. -/
  | fail
  /-- `socks5_to_relay` goes on from an operation that succeeds or not. -/
  | uplink (ok : Bool)
  /-- `relay_to_socks5` goes on from an operation that succeeds or not. -/
  | downlink (ok : Bool)
  /-- A datagram arrives at the socket. -/
  | datagram (d : Datagram)
  /-- Receiving from the socket fails. -/
  | recvFails
  /-- The application closes the control connection. -/
  | closed

/-- The datagram that arrives with a step. -/
def HandleStep.datagram? : HandleStep → Option Datagram
  | .datagram d => some d
  | .go | .fail | .uplink _ | .downlink _ | .recvFails | .closed => none

/-- What a step of a handler does to its receive channel. -/
inductive InboxEffect where
  /-- Nothing. -/
  | keep
  /-- A packet is taken out. -/
  | take
  /-- The receiving end is dropped. -/
  | hangUp
  deriving DecidableEq

namespace Application

/-- A new handler. -/
def new : Application := ⟨.bind, none, .unsent, none, [], [], [], []⟩

/-- What the handler has accepted from the application, in this order, each packet with where it
came from. -/
def accepted (app : Application) : List (SocketAddr × Outbound) :=
  app.arrived.filterMap Datagram.accept?

/-- The handler goes on at `pc`. -/
def goto (app : Application) (pc : HandlePc) : Application := { app with pc := pc }

/-- The handler has its ends of the channels: the sending end of one and the receiving end of the
other. -/
def isAttached (app : Application) : Bool :=
  match app.pc with
  | .request | .reply | .relaying _ _ => true
  | .bind | .shutdown _ | .refuse | .returned _ => false

/-- The `select!` returns, and the ends of the channels are dropped. -/
def leave (app : Application) (isOk : Bool) : Application × InboxEffect :=
  (app.goto (.shutdown isOk), .hangUp)

/-- A packet is put into the send channel: it waits for room, and is dropped when the request has
dropped the receiving end. -/
def push (app : Application) (m : Outbound) : Option Application :=
  if app.request = .dropped then some app
  else if app.outbox.length < 1 then some { app with outbox := app.outbox ++ [m] }
  else none

/-- One step of `socks5_to_relay` that needs nothing to come in. -/
def uplink (app : Application) (up : UplinkPc) (down : DownlinkPc) (ok : Bool) :
    Option (Application × InboxEffect) :=
  match up with
  | .recvFrom | .recv => none
  -- the result of the channel send is dropped
  | .sendFirst m src =>
    (app.push m).map fun app' => (app'.goto (.relaying (.connect src) down), .keep)
  | .connect src =>
    if ok then some ({ app with peer := some src }.goto (.relaying .recv down), .keep)
    else some (app.leave false)
  | .send m => (app.push m).map fun app' => (app'.goto (.relaying .recv down), .keep)

/-- One step of `relay_to_socks5`, given what is in the receive channel and whether the channel has
a sender left. -/
def downlink (app : Application) (inbox : List Inbound) (hasSender : Bool) (up : UplinkPc)
    (down : DownlinkPc) (ok : Bool) : Option (Application × InboxEffect) :=
  match down with
  | .recv =>
    match inbox with
    | m :: _ => some (app.goto (.relaying up (.send m)), .take)
    | [] => if hasSender then none else some (app.leave true)
  | .send m =>
    match app.peer, ok with
    | some peer, true =>
      some ({ app with replied := app.replied ++ [(peer, m)] }.goto (.relaying up .recv), .keep)
    | some _, false => some (app.leave false)
    -- the socket is not connected, so there is nowhere to send to
    | none, _ => some (app.leave false)

/-- A datagram arrives in a call of `recv_from` or `recv`, after which the handler goes on at `next`
with the packet. -/
def receive (app : Application) (next : Outbound → HandlePc) (d : Datagram) : Option Application :=
  let app' := { app with arrived := app.arrived ++ [d], buffer := none }
  -- the buffer is of one size throughout the call
  if app.buffer.any (· ≠ d.size) then none
  else match d.packet.received d.size with
    -- the socket drops what has no header, and waits for the next datagram
    | none => some { app' with buffer := some d.size }
    | some q =>
      if q.header.frag = 0 then some (app'.goto (next q.outbound))
      -- "socks5 UDP packet fragment is not supported"
      else some app'

/-- A datagram arrives. -/
def datagram (app : Application) (up : UplinkPc) (down : DownlinkPc) (d : Datagram) :
    Option Application :=
  match up with
  | .recvFrom => app.receive (fun m => .relaying (.sendFirst m d.src) down) d
  | .recv => app.receive (fun m => .relaying (.send m) down) d
  | .sendFirst _ _ | .connect _ | .send _ => none

/-- One step of a handler, given what is in its receive channel and whether that has a sender. -/
def step (app : Application) (inbox : List Inbound) (hasSender : Bool) (st : HandleStep) :
    Option (Application × InboxEffect) :=
  match app.pc, st with
  | .bind, .go => some (app.goto .request, .keep)
  | .bind, .fail => some (app.goto .refuse, .keep)
  | .request, .go => some ({ app with request := .waiting }.goto .reply, .keep)
  -- there is no relay any more, and the result of the channel send is dropped
  | .request, .fail => some ({ app with request := .dropped }.goto .reply, .keep)
  | .reply, .go => some (app.goto (.relaying .recvFrom .recv), .keep)
  | .reply, .fail => some (app.goto (.returned false), .hangUp)
  | .relaying up down, .uplink ok => app.uplink up down ok
  | .relaying up down, .downlink ok => app.downlink inbox hasSender up down ok
  | .relaying up down, .datagram d => (app.datagram up down d).map fun app' => (app', .keep)
  | .relaying .recvFrom _, .recvFails => some (app.leave false)
  | .relaying .recv _, .recvFails => some (app.leave false)
  | .relaying _ _, .closed => some (app.leave true)
  | .shutdown isOk, .go => some (app.goto (.returned isOk), .keep)
  -- the address of the application is asked for once more
  | .shutdown _, .fail => some (app.goto (.returned false), .keep)
  | .refuse, .go => some (app.goto (.returned false), .keep)
  | .refuse, .fail => some (app.goto (.returned false), .keep)
  | _, _ => none

/-- The request takes a packet out of the send channel. -/
def relay (app : Application) : Application :=
  { app with outbox := app.outbox.tail, relayed := app.relayed ++ app.outbox.head?.toList }

/-- What `socks5_to_relay` has received and not put into the channel. -/
def uplinkHand (app : Application) : List Outbound :=
  match app.pc with
  | .relaying (.sendFirst m _) _ | .relaying (.send m) _ => [m]
  | _ => []

/-- What `relay_to_socks5` has taken and not sent. -/
def downlinkHand (app : Application) : List Inbound :=
  match app.pc with
  | .relaying _ (.send m) => [m]
  | _ => []

/-- The packet that a step sends to the application: the one that `relay_to_socks5` has taken, when
the socket is connected. -/
def replying? (app : Application) : HandleStep → Option Inbound
  | .downlink ok => if ok && app.peer.isSome then app.downlinkHand.head? else none
  | .datagram _ | .go | .fail | .uplink _ | .recvFails | .closed => none

/-- The steps of a handler, one case each. -/
inductive Step (app : Application) (inbox : List Inbound) (hasSender : Bool) :
    HandleStep → Application → InboxEffect → Prop where
  /-- It goes on before or after the `select!`. -/
  | goes {st : HandleStep} (pc : HandlePc)
      (hpc : app.pc = .bind ∧ (pc = .request ∨ pc = .refuse) ∨
        app.pc = .reply ∧ pc = .relaying .recvFrom .recv ∨
        (app.pc = .refuse ∨ ∃ isOk, app.pc = .shutdown isOk) ∧ ∃ isOk, pc = .returned isOk) :
      Step app inbox hasSender st (app.goto pc) .keep
  /-- The request is handed over, or dropped at once. -/
  | requests {st : HandleStep} (r : RequestPc) (hpc : app.pc = .request)
      (hr : r = .waiting ∨ r = .dropped) :
      Step app inbox hasSender st ({ app with request := r }.goto .reply) .keep
  /-- The ends of the channels are dropped. -/
  | leaves {st : HandleStep} (pc : HandlePc)
      (hpc : app.pc = .reply ∨ ∃ up down, app.pc = .relaying up down)
      (hend : (∃ isOk, pc = .shutdown isOk) ∨ ∃ isOk, pc = .returned isOk) :
      Step app inbox hasSender st (app.goto pc) .hangUp
  /-- A packet is put into the send channel. -/
  | pushes {st : HandleStep} (m : Outbound) (up : UplinkPc) (down : DownlinkPc)
      (hup : (∃ src, app.pc = .relaying (.sendFirst m src) down ∧ up = .connect src) ∨
        app.pc = .relaying (.send m) down ∧ up = .recv)
      (hreq : app.request ≠ .dropped) :
      Step app inbox hasSender st
        ({ app with outbox := app.outbox ++ [m] }.goto (.relaying up down)) .keep
  /-- A packet is dropped, with nobody at the other end of the send channel. -/
  | drops {st : HandleStep} (m : Outbound) (up : UplinkPc) (down : DownlinkPc)
      (hup : (∃ src, app.pc = .relaying (.sendFirst m src) down ∧ up = .connect src) ∨
        app.pc = .relaying (.send m) down ∧ up = .recv)
      (hreq : app.request = .dropped) :
      Step app inbox hasSender st (app.goto (.relaying up down)) .keep
  /-- The socket is connected. -/
  | connects {st : HandleStep} (src : SocketAddr) (down : DownlinkPc)
      (hpc : app.pc = .relaying (.connect src) down) :
      Step app inbox hasSender st ({ app with peer := some src }.goto (.relaying .recv down)) .keep
  /-- A packet of the application comes in. -/
  | accepts (d : Datagram) (q : UdpPacket) (up : UplinkPc) (down : DownlinkPc)
      (hbuffer : ∀ size, app.buffer = some size → size = d.size)
      (hq : d.packet.received d.size = some q) (hfrag : q.header.frag = 0)
      (hup : app.pc = .relaying .recvFrom down ∧ up = .sendFirst q.outbound d.src ∨
        app.pc = .relaying .recv down ∧ up = .send q.outbound) :
      Step app inbox hasSender (.datagram d)
        ({ app with arrived := app.arrived ++ [d], buffer := none }.goto (.relaying up down)) .keep
  /-- A fragment comes in, or something without a header. -/
  | ignores (d : Datagram) (buffer : Option Nat) (down : DownlinkPc)
      (hbuffer : ∀ size, app.buffer = some size → size = d.size)
      (hd : (∃ q, d.packet.received d.size = some q ∧ q.header.frag ≠ 0 ∧ buffer = none) ∨
        d.packet.received d.size = none ∧ buffer = some d.size)
      (hpc : app.pc = .relaying .recvFrom down ∨ app.pc = .relaying .recv down) :
      Step app inbox hasSender (.datagram d)
        { app with arrived := app.arrived ++ [d], buffer := buffer } .keep
  /-- A packet is taken out of the receive channel. -/
  | takes {st : HandleStep} (m : Inbound) (rest : List Inbound) (up : UplinkPc)
      (hpc : app.pc = .relaying up .recv) (hinbox : inbox = m :: rest) :
      Step app inbox hasSender st (app.goto (.relaying up (.send m))) .take
  /-- A packet is sent to the application. -/
  | replies (peer : SocketAddr) (m : Inbound) (up : UplinkPc)
      (hpc : app.pc = .relaying up (.send m)) (hpeer : app.peer = some peer) :
      Step app inbox hasSender (.downlink true)
        ({ app with replied := app.replied ++ [(peer, m)] }.goto (.relaying up .recv)) .keep

section Cases

variable {app app' : Application} {inbox : List Inbound} {hasSender ok : Bool}
  {effect : InboxEffect} {up : UplinkPc} {down : DownlinkPc} {st : HandleStep}

/-- Leaving the `select!` is one of the cases. -/
theorem Step.leave (hpc : app.pc = .relaying up down) (isOk : Bool) :
    Step app inbox hasSender st (app.leave isOk).1 (app.leave isOk).2 :=
  .leaves _ (Or.inr ⟨up, down, hpc⟩) (Or.inl ⟨isOk, rfl⟩)

/-- A channel send is one of the cases. -/
theorem Step.push {m : Outbound} {up' : UplinkPc}
    (hup : (∃ src, app.pc = .relaying (.sendFirst m src) down ∧ up' = .connect src) ∨
      app.pc = .relaying (.send m) down ∧ up' = .recv)
    (h : (app.push m).map (fun app' => (app'.goto (.relaying up' down), InboxEffect.keep)) =
      some (app', effect)) : Step app inbox hasSender st app' effect := by
  obtain ⟨app₁, hpush, heq⟩ := Option.map_eq_some_iff.mp h
  cases heq
  unfold Application.push at hpush
  split at hpush
  · rename_i hreq
    cases hpush
    exact .drops m up' down hup hreq
  · rename_i hreq
    split at hpush
    · cases hpush
      exact .pushes m up' down hup hreq
    · cases hpush

/-- Every step of `socks5_to_relay` is one of these. -/
theorem uplink_cases (hpc : app.pc = .relaying up down)
    (h : app.uplink up down ok = some (app', effect)) :
    Step app inbox hasSender st app' effect := by
  cases up with
  | recvFrom => cases h
  | recv => cases h
  | sendFirst m src => exact .push (Or.inl ⟨src, hpc, rfl⟩) h
  | send m => exact .push (Or.inr ⟨hpc, rfl⟩) h
  | connect src =>
    cases ok with
    | true =>
      cases h
      exact .connects src down hpc
    | false =>
      cases h
      exact .leave hpc false

/-- Every step of `relay_to_socks5` is one of these. -/
theorem downlink_cases (hpc : app.pc = .relaying up down)
    (h : app.downlink inbox hasSender up down ok = some (app', effect)) :
    Step app inbox hasSender (.downlink ok) app' effect := by
  cases down with
  | recv =>
    cases inbox with
    | cons m rest =>
      cases h
      exact .takes m rest up hpc rfl
    | nil =>
      simp only [downlink] at h
      split at h
      · cases h
      · cases h
        exact .leave hpc true
  | send m =>
    simp only [downlink] at h
    split at h
    · rename_i peer hpeer
      cases h
      exact .replies peer m up hpc hpeer
    · cases h
      exact .leave hpc false
    · cases h
      exact .leave hpc false

/-- What becomes of a datagram that arrives in a call of `recv_from` or `recv`. -/
theorem receive_cases {next : Outbound → HandlePc} {d : Datagram}
    (h : app.receive next d = some app') :
    (∀ size, app.buffer = some size → size = d.size) ∧
      ((∃ q, d.packet.received d.size = some q ∧ q.header.frag = 0 ∧
          app' =
            { app with arrived := app.arrived ++ [d], buffer := none }.goto (next q.outbound)) ∨
        ∃ buffer, ((∃ q, d.packet.received d.size = some q ∧ q.header.frag ≠ 0 ∧ buffer = none) ∨
            d.packet.received d.size = none ∧ buffer = some d.size) ∧
          app' = { app with arrived := app.arrived ++ [d], buffer := buffer }) := by
  simp only [receive] at h
  split at h
  · cases h
  rename_i hbuffer
  refine ⟨fun size hsize => ?_, ?_⟩
  · by_contra hne
    rw [hsize] at hbuffer
    exact hbuffer (decide_eq_true hne)
  split at h
  · rename_i hnone
    cases h
    exact Or.inr ⟨_, Or.inr ⟨hnone, rfl⟩, rfl⟩
  · rename_i q hq
    split at h
    · rename_i hfrag
      cases h
      exact Or.inl ⟨q, hq, hfrag, rfl⟩
    · rename_i hfrag
      cases h
      exact Or.inr ⟨_, Or.inl ⟨q, hq, hfrag, rfl⟩, rfl⟩

/-- A datagram is accepted or ignored. -/
theorem datagram_cases {d : Datagram} (hpc : app.pc = .relaying up down)
    (h : app.datagram up down d = some app') :
    Step app inbox hasSender (.datagram d) app' .keep := by
  cases up with
  | recvFrom =>
    unfold datagram at h
    obtain ⟨hbuffer, hcases⟩ := receive_cases h
    rcases hcases with ⟨q, hq, hfrag, rfl⟩ | ⟨buffer, hd, rfl⟩
    · exact .accepts d q _ down hbuffer hq hfrag (Or.inl ⟨hpc, rfl⟩)
    · exact .ignores d buffer down hbuffer hd (Or.inl hpc)
  | recv =>
    unfold datagram at h
    obtain ⟨hbuffer, hcases⟩ := receive_cases h
    rcases hcases with ⟨q, hq, hfrag, rfl⟩ | ⟨buffer, hd, rfl⟩
    · exact .accepts d q _ down hbuffer hq hfrag (Or.inr ⟨hpc, rfl⟩)
    · exact .ignores d buffer down hbuffer hd (Or.inr hpc)
  | sendFirst m src => cases h
  | connect src => cases h
  | send m => cases h

/-- Every step of a handler is one of these. -/
theorem step_cases (h : app.step inbox hasSender st = some (app', effect)) :
    Step app inbox hasSender st app' effect := by
  unfold Application.step at h
  split at h
  · rename_i hpc
    cases h
    exact .goes _ (Or.inl ⟨hpc, Or.inl rfl⟩)
  · rename_i hpc
    cases h
    exact .goes _ (Or.inl ⟨hpc, Or.inr rfl⟩)
  · rename_i hpc
    cases h
    exact .requests _ hpc (Or.inl rfl)
  · rename_i hpc
    cases h
    exact .requests _ hpc (Or.inr rfl)
  · rename_i hpc
    cases h
    exact .goes _ (Or.inr (Or.inl ⟨hpc, rfl⟩))
  · rename_i hpc
    cases h
    exact .leaves _ (Or.inl hpc) (Or.inr ⟨false, rfl⟩)
  · rename_i up down ok hpc
    exact uplink_cases hpc h
  · rename_i up down ok hpc
    exact downlink_cases hpc h
  · rename_i up down d hpc
    obtain ⟨app₁, hdatagram, heq⟩ := Option.map_eq_some_iff.mp h
    cases heq
    exact datagram_cases hpc hdatagram
  · rename_i down hpc
    cases h
    exact .leave hpc false
  · rename_i down hpc
    cases h
    exact .leave hpc false
  · rename_i up down hpc
    cases h
    exact .leave hpc true
  · rename_i isOk hpc
    cases h
    exact .goes _ (Or.inr (Or.inr ⟨Or.inr ⟨isOk, hpc⟩, isOk, rfl⟩))
  · rename_i isOk hpc
    cases h
    exact .goes _ (Or.inr (Or.inr ⟨Or.inr ⟨isOk, hpc⟩, false, rfl⟩))
  · rename_i hpc
    cases h
    exact .goes _ (Or.inr (Or.inr ⟨Or.inl hpc, false, rfl⟩))
  · rename_i hpc
    cases h
    exact .goes _ (Or.inr (Or.inr ⟨Or.inl hpc, false, rfl⟩))
  · cases h

end Cases

/-! ## At the socket -/

section Socket

variable {app app' : Application} {inbox : List Inbound} {hasSender ok : Bool}
  {effect : InboxEffect} {up : UplinkPc} {down : DownlinkPc} {st : HandleStep}

/-- A channel send has nothing to do with the socket. -/
theorem socket_of_push {m : Outbound} (h : app.push m = some app') :
    app'.arrived = app.arrived ∧ app'.replied = app.replied := by
  unfold push at h
  split at h
  · cases h
    exact ⟨rfl, rfl⟩
  · split at h
    · cases h
      exact ⟨rfl, rfl⟩
    · cases h

/-- `socks5_to_relay` goes on without the socket, but for connecting it. -/
theorem socket_of_uplink (h : app.uplink up down ok = some (app', effect)) :
    app'.arrived = app.arrived ∧ app'.replied = app.replied := by
  unfold uplink at h
  split at h
  · cases h
  · cases h
  · obtain ⟨app₁, hpush, heq⟩ := Option.map_eq_some_iff.mp h
    cases heq
    obtain ⟨harrived, hreplied⟩ := socket_of_push hpush
    exact ⟨harrived, hreplied⟩
  · split at h <;> cases h <;> exact ⟨rfl, rfl⟩
  · obtain ⟨app₁, hpush, heq⟩ := Option.map_eq_some_iff.mp h
    cases heq
    obtain ⟨harrived, hreplied⟩ := socket_of_push hpush
    exact ⟨harrived, hreplied⟩

/-- `relay_to_socks5` sends what it has taken, when the socket is connected. -/
theorem socket_of_downlink (hpc : app.pc = .relaying up down)
    (h : app.downlink inbox hasSender up down ok = some (app', effect)) :
    app'.arrived = app.arrived ∧ app'.replied.map Prod.snd =
      app.replied.map Prod.snd ++ (app.replying? (.downlink ok)).toList := by
  cases down with
  | recv =>
    have hnone : app.replying? (.downlink ok) = none := by
      simp [replying?, downlinkHand, hpc]
    rw [hnone, Option.toList_none, List.append_nil]
    simp only [downlink] at h
    split at h
    · cases h
      exact ⟨rfl, rfl⟩
    · split at h
      · cases h
      · cases h
        exact ⟨rfl, rfl⟩
  | send m =>
    simp only [downlink] at h
    split at h
    · rename_i peer hpeer
      cases h
      simp [replying?, downlinkHand, hpc, hpeer, goto]
    · cases h
      exact ⟨rfl, (List.append_nil _).symm⟩
    · rename_i hpeer
      cases h
      simp [replying?, hpeer, goto]

/-- A datagram arrives, whatever becomes of it. -/
theorem socket_of_datagram {d : Datagram} (h : app.datagram up down d = some app') :
    app'.arrived = app.arrived ++ [d] ∧ app'.replied = app.replied := by
  have hreceive : ∀ {next : Outbound → HandlePc}, app.receive next d = some app' →
      app'.arrived = app.arrived ++ [d] ∧ app'.replied = app.replied := by
    intro next h
    rcases (receive_cases h).2 with ⟨q, -, -, rfl⟩ | ⟨buffer, -, rfl⟩
    · exact ⟨rfl, rfl⟩
    · exact ⟨rfl, rfl⟩
  cases up with
  | recvFrom =>
    unfold datagram at h
    exact hreceive h
  | recv =>
    unfold datagram at h
    exact hreceive h
  | sendFirst m src => cases h
  | connect src => cases h
  | send m => cases h

/-- **What a step of a handler receives and sends at the socket**: the datagram that arrives with
it, and the packet that goes to the application. -/
theorem socket_of_step (h : app.step inbox hasSender st = some (app', effect)) :
    app'.arrived = app.arrived ++ st.datagram?.toList ∧
      app'.replied.map Prod.snd = app.replied.map Prod.snd ++ (app.replying? st).toList := by
  unfold step at h
  split at h
  case h_7 up down ok hpc =>
    obtain ⟨harrived, hreplied⟩ := socket_of_uplink h
    rw [harrived, hreplied]
    exact ⟨(List.append_nil _).symm, (List.append_nil _).symm⟩
  case h_8 up down ok hpc =>
    obtain ⟨harrived, hreplied⟩ := socket_of_downlink hpc h
    exact ⟨harrived.trans (List.append_nil _).symm, hreplied⟩
  case h_9 up down d hpc =>
    obtain ⟨app₁, hdatagram, heq⟩ := Option.map_eq_some_iff.mp h
    cases heq
    obtain ⟨harrived, hreplied⟩ := socket_of_datagram hdatagram
    rw [hreplied]
    exact ⟨harrived, (List.append_nil _).symm⟩
  -- the other steps leave the socket alone
  all_goals
    cases h
  all_goals exact ⟨(List.append_nil _).symm, (List.append_nil _).symm⟩

end Socket

/-! ## What a handler has done -/

section Accepted

variable {d : Datagram} {q : UdpPacket}

/-- One more datagram. -/
theorem accepted_of_arrived {app app' : Application} (h : app'.arrived = app.arrived ++ [d]) :
    app'.accepted = app.accepted ++ d.accept?.toList := by
  rw [accepted, h, List.filterMap_append]
  cases hd : d.accept? <;> simp [hd, accepted]

/-- One more packet, as far as it was received. -/
theorem accepted_of_received (app : Application) (pc : HandlePc)
    (hq : d.packet.received d.size = some q) (hfrag : q.header.frag = 0) :
    ({ app with arrived := app.arrived ++ [d], buffer := none }.goto pc).accepted =
      app.accepted ++ [(d.src, q.outbound)] := by
  have haccept : d.accept? = some (d.src, q.outbound) := by
    simp only [Datagram.accept?, hq, if_pos hfrag]
  rw [accepted_of_arrived (d := d) rfl, haccept]
  rfl

/-- One more datagram that is ignored. -/
theorem accepted_of_ignored (app : Application) {buffer : Option Nat}
    (hd : (∃ q, d.packet.received d.size = some q ∧ q.header.frag ≠ 0 ∧ buffer = none) ∨
      d.packet.received d.size = none ∧ buffer = some d.size) :
    ({ app with arrived := app.arrived ++ [d], buffer := buffer } : Application).accepted =
      app.accepted := by
  have hnone : d.accept? = none := by
    rcases hd with ⟨q, hq, hfrag, -⟩ | ⟨hnone, -⟩
    · simp only [Datagram.accept?, hq, if_neg hfrag]
    · simp only [Datagram.accept?, hnone]
  rw [accepted_of_arrived (d := d) rfl, hnone]
  exact List.append_nil _

end Accepted

/-- Whom the socket is connected to, where the handler stands: nobody before the first packet has
been handed over, and then its sender. -/
def Pinned (app : Application) : Prop :=
  match app.pc with
  | .bind | .request | .reply | .refuse | .relaying .recvFrom _ =>
    app.accepted = [] ∧ app.peer = none
  | .relaying (.sendFirst m src) _ => app.accepted = [(src, m)] ∧ app.peer = none
  | .relaying (.connect src) _ => (∃ m, app.accepted = [(src, m)]) ∧ app.peer = none
  | .relaying .recv _ | .relaying (.send _) _ =>
    app.peer ≠ none ∧ app.accepted.head?.map Prod.fst = app.peer
  | .shutdown _ | .returned _ => app.peer = none ∨ app.accepted.head?.map Prod.fst = app.peer

/-- What a handler has done with the packets of its application, and where its replies went. -/
structure Orderly (app : Application) : Prop where
  /-- What was put into the send channel came in before, in this order. -/
  begins : app.relayed ++ app.outbox <+: app.accepted.map Prod.snd
  /-- Nothing is missing while both ends of the send channel are there. -/
  whole : app.isAttached = true → app.request ≠ .dropped →
    app.relayed ++ app.outbox ++ app.uplinkHand = app.accepted.map Prod.snd
  /-- The socket is connected to the sender of the first packet. -/
  pinned : app.Pinned
  /-- The replies were sent to whom the socket is connected to. -/
  replied : ∀ x ∈ app.replied, app.peer = some x.1
  /-- No packet is taken out of the send channel before the request has a connection. -/
  unserved : (∀ a, app.request ≠ .served a) → app.relayed = []
  /-- A handler that relays has made its request. -/
  requested : app.request = .unsent →
    app.pc = .bind ∨ app.pc = .request ∨ app.pc = .refuse ∨ ∃ isOk, app.pc = .returned isOk
  /-- It makes one request. -/
  early : app.pc = .bind ∨ app.pc = .request → app.request = .unsent

/-- A new handler has done nothing. -/
theorem Orderly.new : Application.new.Orderly where
  begins := List.prefix_rfl
  whole := nofun
  pinned := ⟨rfl, rfl⟩
  replied := nofun
  unserved _ := rfl
  requested _ := Or.inl rfl
  early _ := rfl

section Orderly

variable {app app' : Application} {inbox : List Inbound} {hasSender : Bool} {effect : InboxEffect}
  {st : HandleStep}

/-- It is a matter of where the handler stands, what it has accepted and whom the socket is
connected to. -/
theorem Pinned.congr (h : app.Pinned) (hpc : app'.pc = app.pc)
    (haccepted : app'.accepted = app.accepted) (hpeer : app'.peer = app.peer) : app'.Pinned := by
  rw [Pinned, hpc, haccepted, hpeer]
  exact h

/-- Every step of a handler keeps its socket to the sender of the first packet. -/
theorem Pinned.step (h : app.Pinned) (hs : app.Step inbox hasSender st app' effect) :
    app'.Pinned := by
  have hold := h
  unfold Pinned at h
  cases hs with
  | goes pc hpc =>
    rcases hpc with ⟨hpc, rfl | rfl⟩ | ⟨hpc, rfl⟩ | ⟨hpc | ⟨isOk, hpc⟩, isOk', rfl⟩
    · rwa [hpc] at h
    · rwa [hpc] at h
    · rwa [hpc] at h
    · rw [hpc] at h
      exact Or.inl h.2
    · rwa [hpc] at h
  | requests r hpc hr => rwa [hpc] at h
  | leaves pc hpc hend =>
    have hpeer : app.peer = none ∨ app.accepted.head?.map Prod.fst = app.peer := by
      rcases hpc with hpc | ⟨up, down, hpc⟩
      · rw [hpc] at h
        exact Or.inl h.2
      · rw [hpc] at h
        cases up with
        | recvFrom => exact Or.inl h.2
        | sendFirst m src => exact Or.inl h.2
        | connect src => exact Or.inl h.2
        | recv => exact Or.inr h.2
        | send m => exact Or.inr h.2
    rcases hend with ⟨isOk, rfl⟩ | ⟨isOk, rfl⟩
    · exact hpeer
    · exact hpeer
  | pushes m up down hup hreq =>
    rcases hup with ⟨src, hpc, rfl⟩ | ⟨hpc, rfl⟩
    · rw [hpc] at h
      exact ⟨⟨m, h.1⟩, h.2⟩
    · rwa [hpc] at h
  | drops m up down hup hreq =>
    rcases hup with ⟨src, hpc, rfl⟩ | ⟨hpc, rfl⟩
    · rw [hpc] at h
      exact ⟨⟨m, h.1⟩, h.2⟩
    · rwa [hpc] at h
  | connects src down hpc =>
    rw [hpc] at h
    obtain ⟨⟨m, haccepted⟩, -⟩ := h
    refine ⟨Option.some_ne_none src, ?_⟩
    change app.accepted.head?.map Prod.fst = some src
    rw [haccepted]
    rfl
  | accepts d q up down hbuffer hq hfrag hup =>
    have happend := accepted_of_received app (.relaying up down) hq hfrag
    rcases hup with ⟨hpc, rfl⟩ | ⟨hpc, rfl⟩
    · rw [hpc] at h
      refine ⟨happend.trans ?_, h.2⟩
      rw [h.1]
      rfl
    · rw [hpc] at h
      refine ⟨h.1, (congrArg (fun xs => xs.head?.map Prod.fst) happend).trans ?_⟩
      cases haccepted : app.accepted with
      | nil =>
        rw [haccepted] at h
        exact absurd h.2.symm h.1
      | cons x rest =>
        rw [haccepted] at h
        exact h.2
  | ignores d buffer down hbuffer hd hpc =>
    exact hold.congr rfl (accepted_of_ignored app hd) rfl
  | takes m rest up hpc hinbox =>
    rw [hpc] at h
    cases up <;> exact h
  | replies peer m up hpc hpeer =>
    rw [hpc] at h
    cases up <;> exact h

/-- A handler that has accepted nothing has nothing in the send channel. -/
theorem Orderly.outbox_eq_nil (h : app.Orderly) (haccepted : app.accepted = []) :
    app.relayed = [] ∧ app.outbox = [] := by
  have hbegins := h.begins
  rw [haccepted, List.map_nil, List.prefix_nil] at hbegins
  exact List.append_eq_nil_iff.mp hbegins

/-- A handler that has just been started, or waits for the reply, has accepted nothing. -/
theorem Orderly.accepted_eq_nil (h : app.Orderly)
    (hpc : app.pc = .bind ∨ app.pc = .request ∨ app.pc = .reply ∨
      ∃ down, app.pc = .relaying .recvFrom down) : app.accepted = [] ∧ app.peer = none := by
  have hpinned := h.pinned
  unfold Pinned at hpinned
  rcases hpc with hpc | hpc | hpc | ⟨down, hpc⟩
  all_goals
    rw [hpc] at hpinned
    exact hpinned

/-- Whoever has been sent a reply is the sender of the first packet. -/
theorem Orderly.head_of_replied (h : app.Orderly) {x : SocketAddr × Inbound}
    (hx : x ∈ app.replied) : app.accepted.head?.map Prod.fst = some x.1 := by
  have hpinned := h.pinned
  unfold Pinned at hpinned
  rw [h.replied x hx] at hpinned
  split at hpinned
  all_goals first
    | exact hpinned.2
    | cases hpinned.2
    | exact hpinned.resolve_left nofun

/-- A handler in the `select!` has made its request. -/
theorem Orderly.request_ne (h : app.Orderly)
    (hpc : app.pc = .reply ∨ ∃ up down, app.pc = .relaying up down) : app.request ≠ .unsent := by
  intro hreq
  rcases h.requested hreq with heq | heq | heq | ⟨isOk, heq⟩ <;>
    rcases hpc with hpc | ⟨up, down, hpc⟩ <;> rw [heq] at hpc <;> cases hpc

/-- Every step of a handler keeps the order. -/
theorem Orderly.step (h : app.Orderly) (hs : app.Step inbox hasSender st app' effect) :
    app'.Orderly := by
  have hpinned := h.pinned.step hs
  have hlate : ∀ up down, HandlePc.relaying up down = .bind ∨ HandlePc.relaying up down = .request →
      app.request = .unsent := by
    rintro up down (heq | heq) <;> cases heq
  cases hs with
  | ignores d buffer down hbuffer hd hpc =>
    have haccepted := accepted_of_ignored app hd
    refine ⟨?_, fun hatt hreq => ?_, hpinned, h.replied, h.unserved, h.requested, h.early⟩
    · rw [haccepted]
      exact h.begins
    · rw [haccepted]
      exact h.whole hatt hreq
  | goes pc hpc =>
    have hunsent : app.request = .unsent → pc = .bind ∨ pc = .request ∨ pc = .refuse ∨
        ∃ isOk, pc = .returned isOk := by
      intro hreq
      rcases hpc with ⟨-, rfl | rfl⟩ | ⟨hpc, -⟩ | ⟨-, hpc⟩
      · exact Or.inr (Or.inl rfl)
      · exact Or.inr (Or.inr (Or.inl rfl))
      · exact absurd hreq (h.request_ne (Or.inl hpc))
      · exact Or.inr (Or.inr (Or.inr hpc))
    have hearly : pc = .bind ∨ pc = .request → app.request = .unsent := by
      intro hpc'
      rcases hpc with ⟨hpc, -⟩ | ⟨-, rfl⟩ | ⟨-, isOk, rfl⟩
      · exact h.early (Or.inl hpc)
      · rcases hpc' with heq | heq <;> cases heq
      · rcases hpc' with heq | heq <;> cases heq
    refine ⟨h.begins, fun hatt hreq => ?_, hpinned, h.replied, h.unserved, hunsent, hearly⟩
    change app.relayed ++ app.outbox ++ (app.goto pc).uplinkHand = app.accepted.map Prod.snd
    have hnone : app.accepted = [] ∧ (app.goto pc).uplinkHand = [] := by
      rcases hpc with ⟨hpc, rfl | rfl⟩ | ⟨hpc, rfl⟩ | ⟨-, isOk, rfl⟩
      · exact ⟨(h.accepted_eq_nil (Or.inl hpc)).1, rfl⟩
      · cases hatt
      · exact ⟨(h.accepted_eq_nil (Or.inr (Or.inr (Or.inl hpc)))).1, rfl⟩
      · cases hatt
    obtain ⟨hrelayed, houtbox⟩ := h.outbox_eq_nil hnone.1
    rw [hrelayed, houtbox, hnone.1, hnone.2]
    rfl
  | requests r hpc hr =>
    have haccepted := (h.accepted_eq_nil (Or.inr (Or.inl hpc))).1
    obtain ⟨hrelayed, houtbox⟩ := h.outbox_eq_nil haccepted
    refine ⟨h.begins, fun _ _ => ?_, hpinned, h.replied, fun _ => hrelayed, fun hreq => ?_, ?_⟩
    · change app.relayed ++ app.outbox ++ [] = app.accepted.map Prod.snd
      rw [hrelayed, houtbox, haccepted]
      rfl
    · have heq : r = .unsent := hreq
      rcases hr with rfl | rfl <;> cases heq
    · rintro (heq | heq) <;> cases heq
  | leaves pc hpc hend =>
    refine ⟨h.begins, fun hatt => ?_, hpinned, h.replied, h.unserved,
      fun hreq => absurd hreq (h.request_ne hpc), ?_⟩
    · rcases hend with ⟨isOk, rfl⟩ | ⟨isOk, rfl⟩ <;> cases hatt
    · rcases hend with ⟨isOk, rfl⟩ | ⟨isOk, rfl⟩ <;> rintro (heq | heq) <;> cases heq
  | pushes m up down hup hreq =>
    have hhand : app.isAttached = true ∧ app.uplinkHand = [m] ∧
        (app.goto (.relaying up down)).uplinkHand = [] ∧
        ∃ up₀ down₀, app.pc = .relaying up₀ down₀ := by
      rcases hup with ⟨src, hpc, rfl⟩ | ⟨hpc, rfl⟩
      · simp [isAttached, uplinkHand, goto, hpc]
      · simp [isAttached, uplinkHand, goto, hpc]
    obtain ⟨hatt, hhand, hhand', hpc⟩ := hhand
    have hwhole : app.relayed ++ (app.outbox ++ [m]) = app.accepted.map Prod.snd := by
      have hwhole := h.whole hatt hreq
      rwa [hhand, List.append_assoc] at hwhole
    refine ⟨?_, fun _ _ => ?_, hpinned, h.replied, h.unserved,
      fun hunsent => absurd hunsent (h.request_ne (Or.inr hpc)), hlate up down⟩
    · change app.relayed ++ (app.outbox ++ [m]) <+: app.accepted.map Prod.snd
      rw [hwhole]
    · change app.relayed ++ (app.outbox ++ [m]) ++ (app.goto (.relaying up down)).uplinkHand =
        app.accepted.map Prod.snd
      rw [hhand', List.append_nil, hwhole]
  | drops m up down hup hreq =>
    refine ⟨h.begins, fun _ hne => absurd hreq hne, hpinned, h.replied, h.unserved,
      fun hunsent => ?_, hlate up down⟩
    have heq : app.request = .unsent := hunsent
    rw [hreq] at heq
    cases heq
  | connects src down hpc =>
    have hpeer : app.peer = none := by
      have hold := h.pinned
      rw [Pinned, hpc] at hold
      exact hold.2
    refine ⟨h.begins, fun _ hreq => ?_, hpinned, fun x hx => ?_, h.unserved,
      fun hunsent => absurd hunsent (h.request_ne (Or.inr ⟨_, _, hpc⟩)), hlate _ _⟩
    · have hwhole := h.whole (by rw [isAttached, hpc]) hreq
      rwa [uplinkHand, hpc] at hwhole
    · have hold := h.replied x hx
      rw [hpeer] at hold
      cases hold
  | accepts d q up down hbuffer hq hfrag hup =>
    have hhand : app.isAttached = true ∧ app.uplinkHand = [] ∧
        (app.goto (.relaying up down)).uplinkHand = [q.outbound] ∧
        ∃ up₀ down₀, app.pc = .relaying up₀ down₀ := by
      rcases hup with ⟨hpc, rfl⟩ | ⟨hpc, rfl⟩
      · simp [isAttached, uplinkHand, goto, hpc]
      · simp [isAttached, uplinkHand, goto, hpc]
    obtain ⟨hatt, hhand, hhand', hpc⟩ := hhand
    have haccepted := accepted_of_received app (.relaying up down) hq hfrag
    refine ⟨?_, fun _ hreq => ?_, hpinned, h.replied, h.unserved,
      fun hunsent => absurd hunsent (h.request_ne (Or.inr hpc)), hlate up down⟩
    · rw [haccepted, List.map_append]
      exact h.begins.trans (List.prefix_append _ _)
    · change app.relayed ++ app.outbox ++ (app.goto (.relaying up down)).uplinkHand = _
      have hwhole := h.whole hatt hreq
      rw [hhand, List.append_nil] at hwhole
      rw [haccepted, hhand', hwhole, List.map_append]
      rfl
  | takes m rest up hpc hinbox =>
    have hhand : (app.goto (.relaying up (.send m))).uplinkHand = app.uplinkHand := by
      cases up <;> simp [uplinkHand, goto, hpc]
    refine ⟨h.begins, fun _ hreq => ?_, hpinned, h.replied, h.unserved,
      fun hunsent => absurd hunsent (h.request_ne (Or.inr ⟨_, _, hpc⟩)), hlate _ _⟩
    change app.relayed ++ app.outbox ++ (app.goto (.relaying up (.send m))).uplinkHand = _
    rw [hhand]
    exact h.whole (by rw [isAttached, hpc]) hreq
  | replies peer m up hpc hpeer =>
    have hhand : (app.goto (.relaying up .recv)).uplinkHand = app.uplinkHand := by
      cases up <;> simp [uplinkHand, goto, hpc]
    refine ⟨h.begins, fun _ hreq => ?_, hpinned, fun x hx => ?_, h.unserved,
      fun hunsent => absurd hunsent (h.request_ne (Or.inr ⟨_, _, hpc⟩)), hlate _ _⟩
    · change app.relayed ++ app.outbox ++ (app.goto (.relaying up .recv)).uplinkHand = _
      rw [hhand]
      exact h.whole (by rw [isAttached, hpc]) hreq
    · rcases List.mem_append.mp hx with hold | hnew
      · exact h.replied x hold
      · cases List.mem_singleton.mp hnew
        exact hpeer

/-- What the request does with its end of the send channel keeps the order. -/
theorem Orderly.relay (h : app.Orderly) {a : Nat} (hreq : app.request = .served a) :
    app.relay.Orderly := by
  have hsame : app.relay.relayed ++ app.relay.outbox = app.relayed ++ app.outbox := by
    change app.relayed ++ app.outbox.head?.toList ++ app.outbox.tail = app.relayed ++ app.outbox
    cases app.outbox with
    | nil => simp
    | cons m rest => simp
  refine ⟨?_, fun hatt hne => ?_, h.pinned, h.replied, fun hnot => absurd hreq (hnot a),
    h.requested, h.early⟩
  · rw [hsame]
    exact h.begins
  · rw [hsame]
    exact h.whole hatt hne

/-- What becomes of a request that waits for a connection keeps the order. -/
theorem Orderly.resolve (h : app.Orderly) (hreq : app.request = .waiting) {r : RequestPc}
    (hr : r ≠ .unsent) : ({ app with request := r } : Application).Orderly where
  begins := h.begins
  whole hatt _ := by
    refine h.whole hatt ?_
    rw [hreq]
    exact nofun
  pinned := h.pinned
  replied := h.replied
  unserved _ := by
    refine h.unserved fun a => ?_
    rw [hreq]
    exact nofun
  requested heq := absurd heq hr
  early hpc := by
    have hunsent := h.early hpc
    rw [hreq] at hunsent
    cases hunsent

end Orderly

end Application

/-! ## The way back -/

/-- What is left in the receive channel after a step of the handler. -/
def InboxEffect.after : InboxEffect → List Inbound → List Inbound
  | .keep, inbox => inbox
  | .take, inbox => inbox.tail
  | .hangUp, _ => []

/-- The handler has its end of the channel after the step, if it had it before. -/
def InboxEffect.keepsEnd : InboxEffect → Bool
  | .keep | .take => true
  | .hangUp => false

namespace Application

/-- What a handler has done with the packets that were put into its receive channel. -/
structure Linked (app : Application) (inbox delivered : List Inbound) : Prop where
  /-- What was sent to the application was put into the channel before, in this order. -/
  begins : app.replied.map Prod.snd <+: delivered
  /-- Nothing is missing while the handler has its end of the channel. -/
  whole : app.isAttached = true →
    app.replied.map Prod.snd ++ app.downlinkHand ++ inbox = delivered

section Linked

variable {app app' : Application} {inbox delivered : List Inbound} {hasSender : Bool}
  {effect : InboxEffect} {st : HandleStep}

/-- Every step of a handler keeps the order of the replies. Before the request nothing can have been
put into the channel. -/
theorem Linked.step (h : app.Linked inbox delivered) (hs : app.Step inbox hasSender st app' effect)
    (hbind : app.pc = .bind → inbox = [] ∧ delivered = []) :
    app'.Linked (effect.after inbox) delivered := by
  -- a step that leaves the receive channel and the replies alone, from one place to another
  have hsame : ∀ pc, app.isAttached = true → (app.goto pc).downlinkHand = app.downlinkHand →
      app.replied.map Prod.snd ++ (app.goto pc).downlinkHand ++ inbox = delivered := by
    intro pc hatt hhand
    rw [hhand]
    exact h.whole hatt
  cases hs with
  | goes pc hpc =>
    refine ⟨h.begins, fun hatt => ?_⟩
    rcases hpc with ⟨hpc, rfl | rfl⟩ | ⟨hpc, rfl⟩ | ⟨-, isOk, rfl⟩
    · obtain ⟨hinbox, hdelivered⟩ := hbind hpc
      have hbegins := h.begins
      rw [hdelivered, List.prefix_nil] at hbegins
      change app.replied.map Prod.snd ++ [] ++ inbox = delivered
      rw [hbegins, hinbox, hdelivered]
      rfl
    · cases hatt
    · exact hsame _ (by rw [isAttached, hpc]) (by simp [downlinkHand, goto, hpc])
    · cases hatt
  | requests r hpc hr =>
    exact ⟨h.begins, fun _ => hsame .reply (by rw [isAttached, hpc])
      (by simp [downlinkHand, goto, hpc])⟩
  | leaves pc hpc hend =>
    refine ⟨h.begins, fun hatt => ?_⟩
    rcases hend with ⟨isOk, rfl⟩ | ⟨isOk, rfl⟩ <;> cases hatt
  | pushes m up down hup hreq =>
    refine ⟨h.begins, fun _ => hsame (.relaying up down) ?_ ?_⟩
    · rcases hup with ⟨src, hpc, rfl⟩ | ⟨hpc, rfl⟩ <;> rw [isAttached, hpc]
    · rcases hup with ⟨src, hpc, rfl⟩ | ⟨hpc, rfl⟩ <;> cases down <;>
        simp [downlinkHand, goto, hpc]
  | drops m up down hup hreq =>
    refine ⟨h.begins, fun _ => hsame (.relaying up down) ?_ ?_⟩
    · rcases hup with ⟨src, hpc, rfl⟩ | ⟨hpc, rfl⟩ <;> rw [isAttached, hpc]
    · rcases hup with ⟨src, hpc, rfl⟩ | ⟨hpc, rfl⟩ <;> cases down <;>
        simp [downlinkHand, goto, hpc]
  | connects src down hpc =>
    refine ⟨h.begins, fun _ => hsame (.relaying .recv down) (by rw [isAttached, hpc]) ?_⟩
    cases down <;> simp [downlinkHand, goto, hpc]
  | accepts d q up down hbuffer hq hfrag hup =>
    refine ⟨h.begins, fun _ => hsame (.relaying up down) ?_ ?_⟩
    · rcases hup with ⟨hpc, rfl⟩ | ⟨hpc, rfl⟩ <;> rw [isAttached, hpc]
    · rcases hup with ⟨hpc, rfl⟩ | ⟨hpc, rfl⟩ <;> cases down <;> simp [downlinkHand, goto, hpc]
  | ignores d buffer down hbuffer hd hpc => exact ⟨h.begins, h.whole⟩
  | takes m rest up hpc hinbox =>
    refine ⟨h.begins, fun _ => ?_⟩
    have hwhole := h.whole (by rw [isAttached, hpc])
    rw [downlinkHand, hpc, List.append_nil, hinbox] at hwhole
    change app.replied.map Prod.snd ++ [m] ++ inbox.tail = delivered
    rw [hinbox, ← hwhole, List.append_assoc]
    rfl
  | replies peer m up hpc hpeer =>
    have hwhole := h.whole (by rw [isAttached, hpc])
    rw [downlinkHand, hpc] at hwhole
    have hmap : (app.replied ++ [(peer, m)]).map Prod.snd = app.replied.map Prod.snd ++ [m] :=
      List.map_append
    refine ⟨?_, fun _ => ?_⟩
    · change (app.replied ++ [(peer, m)]).map Prod.snd <+: delivered
      rw [hmap]
      exact ⟨inbox, hwhole⟩
    · change (app.replied ++ [(peer, m)]).map Prod.snd ++ [] ++ inbox = delivered
      rw [hmap, List.append_nil]
      exact hwhole

/-- A packet that is put into the channel keeps the order. -/
theorem Linked.deliver (h : app.Linked inbox delivered) (m : Inbound) :
    app.Linked (inbox ++ [m]) (delivered ++ [m]) where
  begins := h.begins.trans (List.prefix_append _ _)
  whole hatt := by rw [← h.whole hatt, List.append_assoc, List.append_assoc, List.append_assoc]

/-- Whether a handler has its ends of the channels after a step. -/
theorem Step.isAttached (hs : app.Step inbox hasSender st app' effect) (hbind : app.pc ≠ .bind) :
    app'.isAttached = (app.isAttached && effect.keepsEnd) := by
  cases hs with
  | goes pc hpc =>
    rcases hpc with ⟨hpc, -⟩ | ⟨hpc, rfl⟩ | ⟨hpc | ⟨isOk, hpc⟩, isOk', rfl⟩
    · exact absurd hpc hbind
    · simp [Application.isAttached, InboxEffect.keepsEnd, goto, hpc]
    · simp [Application.isAttached, InboxEffect.keepsEnd, goto, hpc]
    · simp [Application.isAttached, InboxEffect.keepsEnd, goto, hpc]
  | requests r hpc hr => simp [Application.isAttached, InboxEffect.keepsEnd, goto, hpc]
  | leaves pc hpc hend =>
    rcases hend with ⟨isOk, rfl⟩ | ⟨isOk, rfl⟩ <;>
      simp [Application.isAttached, InboxEffect.keepsEnd, goto]
  | pushes m up down hup hreq =>
    rcases hup with ⟨src, hpc, rfl⟩ | ⟨hpc, rfl⟩ <;>
      simp [Application.isAttached, InboxEffect.keepsEnd, goto, hpc]
  | drops m up down hup hreq =>
    rcases hup with ⟨src, hpc, rfl⟩ | ⟨hpc, rfl⟩ <;>
      simp [Application.isAttached, InboxEffect.keepsEnd, goto, hpc]
  | connects src down hpc => simp [Application.isAttached, InboxEffect.keepsEnd, goto, hpc]
  | accepts d q up down hbuffer hq hfrag hup =>
    rcases hup with ⟨hpc, rfl⟩ | ⟨hpc, rfl⟩ <;>
      simp [Application.isAttached, InboxEffect.keepsEnd, goto, hpc]
  | ignores d buffer down hbuffer hd hpc => simp [Application.isAttached, InboxEffect.keepsEnd]
  | takes m rest up hpc hinbox => simp [Application.isAttached, InboxEffect.keepsEnd, goto, hpc]
  | replies peer m up hpc hpeer => simp [Application.isAttached, InboxEffect.keepsEnd, goto, hpc]

/-- What a step does to the request: it is made, or stays as it is. -/
theorem Step.request (hs : app.Step inbox hasSender st app' effect) :
    app'.request = app.request ∨
      app.pc = .request ∧ (app'.request = .waiting ∨ app'.request = .dropped) := by
  cases hs with
  | requests r hpc hr => exact Or.inr ⟨hpc, hr⟩
  | _ => exact Or.inl rfl

/-- A handler does not get an association by a step of its own. -/
theorem Step.served (hs : app.Step inbox hasSender st app' effect) {a : Nat}
    (hreq : app'.request = .served a) : app.request = .served a := by
  rcases hs.request with heq | ⟨-, hnew | hnew⟩
  · rw [← heq, hreq]
  · rw [hnew] at hreq
    cases hreq
  · rw [hnew] at hreq
    cases hreq

/-- Only the request takes packets out of the send channel. -/
theorem Step.relayed (hs : app.Step inbox hasSender st app' effect) :
    app'.relayed = app.relayed := by
  cases hs <;> rfl

/-- A step does not put anything into the send channel once the handler is gone. -/
theorem Step.outbox (hs : app.Step inbox hasSender st app' effect) (hatt : app.isAttached = false) :
    app'.outbox = app.outbox := by
  cases hs with
  | pushes m up down hup hreq =>
    rcases hup with ⟨src, hpc, rfl⟩ | ⟨hpc, rfl⟩
    · rw [Application.isAttached, hpc] at hatt
      cases hatt
    · rw [Application.isAttached, hpc] at hatt
      cases hatt
  | _ => rfl

end Linked

end Application

end Tuic.Client.Socks5
