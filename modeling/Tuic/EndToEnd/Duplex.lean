import Tuic.Client.Connect
import Tuic.Client.Incoming
import Tuic.Server.Tunnel

/-! # A client and a server connection, in both directions

The two ends of one QUIC connection with everything they send to each other: the sending tasks and
the `CONNECT`s of the client with the handlers they feed, the replies of the server with the tasks
that read them, and the bytes a `CONNECT` gets back on its stream.

QUIC hands a stream to the other end once something was sent on it, delivers its bytes in order and
in pieces of any size, and its end behind the last byte of a stream that was finished; it delivers a
datagram whole, at most once, or not at all; and a stream fails with the connection (`Delivery`).
Everything arrives in any order. -/

namespace Tuic

open ByteCodec Transition

/-! ## QUIC -/

/-- What QUIC does for the receiver of a stream. -/
inductive Delivery where
  /-- The next bytes arrive, at most `n`. -/
  | bytes (n : Nat)
  /-- The end of the stream arrives. -/
  | finish
  /-- The stream is lost. -/
  | reset
  deriving DecidableEq

/-- What the receiver gets, given what was sent, whether the stream was finished behind it, whether
it is lost, and what has arrived. -/
def Delivery.event (sent : Bytes) (ended lost : Bool) (data : Bytes) :
    Delivery → Option Server.StreamEvent
  | .bytes n => some (.data ((sent.drop data.length).take n))
  | .finish => if ended ∧ data = sent then some .finish else none
  | .reset => if lost then some .reset else none

/-- **What has arrived of a stream is a beginning of what was sent**, all of it once the end is
there, and a stream that fails is lost. -/
theorem Delivery.on {sent : Bytes} {ended lost : Bool} {recv recv' : Server.RecvStream}
    {d : Delivery} {ev : Server.StreamEvent} (h : d.event sent ended lost recv.data = some ev)
    (hon : recv.on ev = some recv') (hdata : recv.data <+: sent) :
    recv'.data <+: sent ∧ recv.data <+: recv'.data ∧
      (recv'.status = .finished → recv'.data = sent ∧ ended = true) ∧
      (recv'.status = .failed → lost = true) := by
  obtain ⟨hst, -, -⟩ := Server.RecvStream.on_cases hon
  unfold Server.RecvStream.on at hon
  rw [if_pos hst] at hon
  cases d with
  | bytes n =>
    cases h
    cases hon
    have hmore := append_take_drop_prefix hdata n
    refine ⟨hmore, List.prefix_append _ _, fun h => ?_, fun h => ?_⟩
    · rw [show recv.status = .finished from h] at hst
      cases hst
    · rw [show recv.status = .failed from h] at hst
      cases hst
  | finish =>
    simp only [Delivery.event] at h
    split at h
    · rename_i hend
      cases h
      cases hon
      refine ⟨hdata, List.prefix_refl _, fun _ => ⟨hend.2, hend.1⟩, fun h => ?_⟩
      cases h
    · cases h
  | reset =>
    simp only [Delivery.event] at h
    split at h
    · rename_i hlost
      cases h
      cases hon
      refine ⟨hdata, List.prefix_refl _, fun h => ?_, fun _ => hlost⟩
      cases h
    · cases h

/-! ## The two ends -/

/-- The channel a handler of the server gets a frame from. -/
def Client.Channel.source : Client.Channel → Server.Source
  | .uniStream => .uniStream
  | .datagram => .datagram

/-- The kind of channel packets are relayed on. -/
def Client.UdpRelayMode.channel : Client.UdpRelayMode → Client.Channel
  | .native => .datagram
  | .quic => .uniStream

/-- The channel on which the client expects reply `k`. -/
def Client.UdpRelayMode.peerChannel (mode : Client.UdpRelayMode) (k : Nat) : Server.PeerChannel :=
  match mode with
  | .native => .datagram k
  | .quic => .uniStream k

/-- All bytes of the frame are written, and the stream is finished or about to be. -/
def Client.Send.finished (snd : Client.Send) : Bool :=
  match snd.pc with
  | .write [] => true
  | .returned _ => snd.sent = snd.frame.bytes
  | _ => false

namespace EndToEnd

/-- What is fixed for the two ends. -/
structure Config where
  /-- How the client relays packets. -/
  mode : Client.UdpRelayMode
  /-- The digest of the client's token. -/
  tokenDigest : Server.Digest
  /-- The configuration of the server. -/
  server : Server.Config

/-- The task of the client that a stream or datagram comes from. -/
inductive Origin where
  /-- A sending task. -/
  | send (k : Nat)
  /-- A `CONNECT`. -/
  | connect (j : Nat)
  deriving DecidableEq

/-- What a task of the client sends. -/
structure Outgoing where
  /-- The channel. -/
  source : Server.Source
  /-- The command at the beginning. -/
  cmd : Command
  /-- What was sent so far. -/
  sent : Bytes
  /-- Whether the stream is finished behind it. A stream that is dropped after a failed write is
  not: the connection is lost, or the server has stopped the stream and reads no more of it. -/
  finished : Bool

/-- The two ends of a QUIC connection, and what has become of what was sent. -/
structure Duplex where
  /-- The client, as far as it sends. -/
  client : Client.Connection
  /-- The `CONNECT`s of the client. -/
  connects : List Client.Connect
  /-- The receiving side of the client. -/
  receiving : Client.Receiving
  /-- For every task of the receiving side, the reply of the server it reads. -/
  replyOf : List Nat
  /-- The server. -/
  server : Server.Established
  /-- For every handler of the server, the task of the client its stream or datagram comes from. -/
  origin : List Origin
  /-- For every handler of the server, what its target has sent, as far as it was read. -/
  fromTarget : Nat → Bytes

/-- A step of the two ends or of QUIC. -/
inductive DuplexAction where
  /-- Of the client, as far as it sends. -/
  | client (a : Client.Action)
  /-- A `CONNECT` comes in. -/
  | connect (addr : Address)
  /-- Of a `CONNECT` or its application. -/
  | connectStep (j : Nat) (a : Client.ConnectAction)
  /-- Of the receiving side of the client. -/
  | receive (a : Client.ReceiveAction)
  /-- Of the server, on its own. -/
  | server (a : Server.Action)
  /-- A stream or datagram of the client gets to the server. -/
  | accept (o : Origin)
  /-- Something arrives on the stream of a handler. -/
  | uplink (i : Nat) (d : Delivery)
  /-- A reply gets to the client. -/
  | acceptReply (k : Nat)
  /-- Something arrives on the stream of a reply. -/
  | reply (j : Nat) (d : Delivery)
  /-- Something arrives on the stream that a `CONNECT` shares with handler `i`. -/
  | response (i : Nat) (d : Delivery)

namespace Duplex

/-- The two ends of a new connection. -/
def new (cfg : Config) : Duplex :=
  ⟨.new cfg.mode cfg.tokenDigest, [], .new, [], (Server.connectionSystem cfg.server).init, [],
    fun _ => []⟩

/-- What a task of the client sends. -/
def outgoing (s : Duplex) : Origin → Option Outgoing
  | .send k => s.client.sends[k]?.map fun snd =>
    ⟨snd.frame.channel.source, snd.frame.cmd, snd.sent, snd.finished⟩
  | .connect j => s.connects[j]?.map fun c => ⟨.biStream, .connect c.addr, c.sent, c.finished⟩

/-- The steps of the server for which it needs nothing from the client. -/
def onItsOwn : Server.Action → Bool
  | .handle st => !st.isAccept
  | .stream _ _ => false
  | .task _ _ | .reply _ _ | .session _ _ | .peerClose _ | .drop => true

/-- What a listener of the server gets: a stream with nothing read of it, or a datagram. -/
def arrival (out : Outgoing) : Server.HandleStep :=
  match out.source with
  | .uniStream => .acceptUniStream
  | .biStream => .acceptBiStream
  | .datagram => .acceptDatagram out.sent

/-- What `listen_incoming` of the client gets, given what was written on the channel of a reply. -/
def incoming (mode : Client.UdpRelayMode) (data : Bytes) : Client.Incoming :=
  match mode with
  | .native => ⟨.datagram, ⟨data, 0, .finished⟩, .parse⟩
  | .quic => ⟨.uniStream, ⟨[], 0, .receiving⟩, .parse⟩

/-- Handler `i` with what feeds it. -/
def feed (s : Duplex) (i : Nat) : Option (Outgoing × Server.Task) :=
  s.origin[i]?.bind fun o => (s.outgoing o).bind fun out =>
    s.server.tasks[i]?.map fun t => (out, t)

/-- What was written on the channel of reply `k`. -/
def replyBytes (s : Duplex) (k : Nat) : Bytes :=
  Server.written (s.client.udpRelayMode.peerChannel k) s.server.conn.log

/-- One step of the server, with what it reads from the targets of its handlers. -/
def serverStep (cfg : Config) (s : Duplex) (a : Server.Action) : Option Duplex :=
  (s.server.step cfg.server a).map fun e =>
    { s with server := e, fromTarget := fun i => s.fromTarget i ++ s.server.fromTarget a i }

/-- One step of the two ends or of QUIC. -/
def step (cfg : Config) (s : Duplex) : DuplexAction → Option Duplex
  | .client a => (s.client.step a).map fun c => { s with client := c }
  | .connect addr =>
    -- an address that is not canonical is not one of a SOCKS5 request
    if canonical : addr.Canonical then
      some { s with connects := s.connects ++ [.new addr canonical] }
    else none
  | .connectStep j a =>
    match s.connects[j]? with
    | none => none
    | some c =>
      -- what arrives on the stream of a `CONNECT` comes from the server
      if a.isStream then none
      else (c.step a).map fun c' => { s with connects := s.connects.set j c' }
  | .receive a =>
    (s.receiving.step s.client.udpSessions a).map fun r => { s with receiving := r }
  | .server a => if onItsOwn a then s.serverStep cfg a else none
  | .accept o =>
    match s.outgoing o with
    | none => none
    | some out =>
      -- a stream is known to the peer by what is sent on it
      if out.sent = [] ∨ o ∈ s.origin then none
      else (s.serverStep cfg (.handle (arrival out))).map fun s' =>
        { s' with origin := s.origin ++ [o] }
  | .uplink i d =>
    match s.feed i with
    | none => none
    | some (out, t) =>
      match d.event out.sent out.finished s.server.conn.controller.isSome t.recv.data with
      | none => none
      | some ev => s.serverStep cfg (.stream i ev)
  | .acceptReply k =>
    if s.replyBytes k = [] ∨ k ∈ s.replyOf then none
    else
      some { s with
        receiving := s.receiving.spawn (incoming s.client.udpRelayMode (s.replyBytes k))
        replyOf := s.replyOf ++ [k] }
  | .reply j d =>
    match s.receiving.tasks[j]?, s.replyOf[j]? with
    | some t, some k =>
      let ended : Bool := .finish (s.client.udpRelayMode.peerChannel k) ∈ s.server.conn.log
      match d.event (s.replyBytes k) ended s.client.closed t.recv.data with
      | none => none
      | some ev => (t.recv.on ev).map fun recv =>
        { s with
          receiving := { s.receiving with
            tasks := s.receiving.tasks.set j { t with recv := recv } } }
    | _, _ => none
  | .response i d =>
    match s.origin[i]?, s.server.tasks[i]? with
    | some (.connect j), some t =>
      match s.connects[j]? with
      | none => none
      | some c =>
        -- a stream that is dropped is finished; it may be lost at any time
        match d.event (Server.written (.biStream i) s.server.conn.log) t.returned true
          c.recv.data with
        | none => none
        | some ev => (c.step (.stream ev)).map fun c' => { s with connects := s.connects.set j c' }
    | _, _ => none

end Duplex

/-- A client and a server connection, in both directions. -/
def duplexSystem (cfg : Config) : System Duplex DuplexAction := ⟨.new cfg, Duplex.step cfg⟩

namespace Duplex

/-! ## What a step does -/

/-- What the server has after a step: its new state, and more bytes from the targets. -/
def withServer (s : Duplex) (a : Server.Action) (e : Server.Established) : Duplex :=
  { s with server := e, fromTarget := fun i => s.fromTarget i ++ s.server.fromTarget a i }

/-- A `CONNECT` makes a step. -/
def setConnect (s : Duplex) (j : Nat) (c : Client.Connect) : Duplex :=
  { s with connects := s.connects.set j c }

/-- Something arrives at a task of the receiving side. -/
def setIncoming (s : Duplex) (j : Nat) (t : Client.Incoming) : Duplex :=
  { s with receiving := { s.receiving with tasks := s.receiving.tasks.set j t } }

/-- The steps of the two ends and of QUIC, one case each. -/
inductive Step (cfg : Config) (s : Duplex) : DuplexAction → Duplex → Prop where
  /-- The client makes a step. -/
  | client (a : Client.Action) (c : Client.Connection) (hstep : s.client.Step a c) :
      Step cfg s (.client a) { s with client := c }
  /-- A `CONNECT` comes in. -/
  | connect (addr : Address) (canonical : addr.Canonical) :
      Step cfg s (.connect addr) { s with connects := s.connects ++ [.new addr canonical] }
  /-- A `CONNECT` or its application makes a step, which nothing arrives by. -/
  | connectStep (j : Nat) (a : Client.ConnectAction) (c c' : Client.Connect)
      (hj : s.connects[j]? = some c) (hstep : c.step a = some c')
      (hrecv : c'.recv.data = c.recv.data) :
      Step cfg s (.connectStep j a) (s.setConnect j c')
  /-- The receiving side makes a step. -/
  | receive (a : Client.ReceiveAction) (r : Client.Receiving)
      (hstep : s.receiving.Step s.client.udpSessions r) :
      Step cfg s (.receive a) { s with receiving := r }
  /-- The server makes a step of its own. -/
  | server (a : Server.Action) (e : Server.Established) (hown : onItsOwn a = true)
      (hstep : (Server.connectionSystem cfg.server).step s.server a = some e) :
      Step cfg s (.server a) (s.withServer a e)
  /-- A stream or datagram of the client arrives. -/
  | accept (o : Origin) (out : Outgoing) (t : Server.Task) (ho : s.outgoing o = some out)
      (hsent : out.sent ≠ []) (hnew : o ∉ s.origin) (hfresh : t.Fresh)
      (hsrc : t.source = out.source) (hdata : out.source = .datagram → t.recv.data = out.sent)
      (hstep : (Server.connectionSystem cfg.server).step s.server (.handle (arrival out)) =
        some (s.server.spawn t)) :
      Step cfg s (.accept o)
        { s.withServer (.handle (arrival out)) (s.server.spawn t) with origin := s.origin ++ [o] }
  /-- Something arrives on the stream of a handler. -/
  | uplink (i : Nat) (d : Delivery) (o : Origin) (out : Outgoing) (t : Server.Task)
      (ev : Server.StreamEvent) (recv : Server.RecvStream) (hi : s.origin[i]? = some o)
      (ho : s.outgoing o = some out) (ht : s.server.tasks[i]? = some t)
      (hev : d.event out.sent out.finished s.server.conn.controller.isSome t.recv.data = some ev)
      (hon : t.recv.on ev = some recv)
      (hstep : (Server.connectionSystem cfg.server).step s.server (.stream i ev) =
        some { s.server with tasks := s.server.tasks.set i { t with recv := recv } }) :
      Step cfg s (.uplink i d) (s.withServer (.stream i ev)
        { s.server with tasks := s.server.tasks.set i { t with recv := recv } })
  /-- A reply arrives. -/
  | acceptReply (k : Nat) (hk : s.replyBytes k ≠ []) (hnew : k ∉ s.replyOf) :
      Step cfg s (.acceptReply k) { s with
        receiving := s.receiving.spawn (incoming s.client.udpRelayMode (s.replyBytes k))
        replyOf := s.replyOf ++ [k] }
  /-- Something arrives on the stream of a reply. -/
  | reply (j : Nat) (d : Delivery) (k : Nat) (t : Client.Incoming) (ended : Bool)
      (ev : Server.StreamEvent) (recv : Server.RecvStream) (hj : s.receiving.tasks[j]? = some t)
      (hk : s.replyOf[j]? = some k)
      (hended : ended = true →
        .finish (s.client.udpRelayMode.peerChannel k) ∈ s.server.conn.log)
      (hev : d.event (s.replyBytes k) ended s.client.closed t.recv.data = some ev)
      (hon : t.recv.on ev = some recv) :
      Step cfg s (.reply j d) (s.setIncoming j { t with recv := recv })
  /-- Something arrives on the stream of a `CONNECT`. -/
  | response (i : Nat) (d : Delivery) (j : Nat) (c : Client.Connect) (ended : Bool)
      (ev : Server.StreamEvent) (recv : Server.RecvStream)
      (hi : s.origin[i]? = some (.connect j)) (hj : s.connects[j]? = some c)
      (hev : d.event (Server.written (.biStream i) s.server.conn.log) ended true c.recv.data =
        some ev)
      (hon : c.recv.on ev = some recv) :
      Step cfg s (.response i d) (s.setConnect j { c with recv := recv })

variable {cfg : Config} {s s' : Duplex} {a : DuplexAction}

/-- A handler with what feeds it. -/
theorem feed_eq_some {i : Nat} {out : Outgoing} {t : Server.Task} (h : s.feed i = some (out, t)) :
    ∃ o, s.origin[i]? = some o ∧ s.outgoing o = some out ∧ s.server.tasks[i]? = some t := by
  obtain ⟨o, ho, h⟩ := Option.bind_eq_some_iff.mp h
  obtain ⟨out', hout, h⟩ := Option.bind_eq_some_iff.mp h
  obtain ⟨t', ht, h⟩ := Option.map_eq_some_iff.mp h
  cases h
  exact ⟨o, ho, hout, ht⟩

/-- A step of the server, as it is computed. -/
theorem serverStep_eq_some {b : Server.Action} (h : s.serverStep cfg b = some s') :
    ∃ e, (Server.connectionSystem cfg.server).step s.server b = some e ∧ s' = s.withServer b e := by
  obtain ⟨e, hstep, rfl⟩ := Option.map_eq_some_iff.mp h
  exact ⟨e, hstep, rfl⟩

/-- What arrives is a handler at its beginning, with the whole of a datagram or nothing of a stream.
-/
theorem accept_cases {e : Server.Established} {out : Outgoing}
    (h : (Server.connectionSystem cfg.server).step s.server (.handle (arrival out)) = some e) :
    ∃ t, e = s.server.spawn t ∧ t.Fresh ∧ t.source = out.source ∧
      (out.source = .datagram → t.recv.data = out.sent) := by
  have h : s.server.handleStep (arrival out) = some e := h
  unfold arrival at h
  -- only a handle task in its `select!` accepts anything
  cases hh : s.server.handle with
  | listening b =>
    cases hsrc : out.source with
    | uniStream =>
      simp only [hsrc, Server.Established.handleStep, hh] at h
      cases h
      refine ⟨_, rfl, ⟨rfl, rfl, fun hd => ?_, fun _ => ⟨rfl, rfl⟩⟩, rfl, fun hd => ?_⟩ <;> cases hd
    | biStream =>
      simp only [hsrc, Server.Established.handleStep, hh] at h
      cases h
      refine ⟨_, rfl, ⟨rfl, rfl, fun hd => ?_, fun _ => ⟨rfl, rfl⟩⟩, rfl, fun hd => ?_⟩ <;> cases hd
    | datagram =>
      simp only [hsrc, Server.Established.handleStep, hh] at h
      cases h
      exact ⟨_, rfl, ⟨rfl, rfl, fun _ => rfl, fun h => absurd rfl h⟩, rfl, fun _ => rfl⟩
  | _ => split at h <;> simp only [Server.Established.handleStep, hh] at h <;> cases h

/-- Every step of the two ends and of QUIC is one of these. -/
theorem step_cases (h : (duplexSystem cfg).step s a = some s') : Step cfg s a s' := by
  have h : s.step cfg a = some s' := h
  cases a with
  | client a =>
    obtain ⟨c, hstep, rfl⟩ := Option.map_eq_some_iff.mp h
    exact .client a c (Client.Connection.step_cases hstep)
  | connect addr =>
    simp only [step] at h
    split at h
    · cases h
      exact .connect addr _
    · cases h
  | connectStep j a =>
    simp only [step] at h
    split at h
    · cases h
    rename_i c hj
    split at h
    · cases h
    rename_i hstream
    obtain ⟨c', hstep, rfl⟩ := Option.map_eq_some_iff.mp h
    exact .connectStep j a c c' hj hstep (Client.Connect.recv_data_of_step hstream hstep)
  | receive a =>
    obtain ⟨r, hstep, rfl⟩ := Option.map_eq_some_iff.mp h
    exact .receive a r (Client.Receiving.step_cases hstep)
  | server a =>
    simp only [step] at h
    split at h
    · rename_i hown
      obtain ⟨e, hstep, rfl⟩ := serverStep_eq_some h
      exact .server a e hown hstep
    · cases h
  | accept o =>
    simp only [step] at h
    split at h
    · cases h
    rename_i out ho
    split at h
    · cases h
    rename_i hguard
    obtain ⟨hsent, hnew⟩ := not_or.mp hguard
    obtain ⟨s₁, hs₁, rfl⟩ := Option.map_eq_some_iff.mp h
    obtain ⟨e, hstep, rfl⟩ := serverStep_eq_some hs₁
    obtain ⟨t, rfl, hfresh, hsrc, hdata⟩ := accept_cases hstep
    exact .accept o out t ho hsent hnew hfresh hsrc hdata hstep
  | uplink i d =>
    simp only [step] at h
    split at h
    · cases h
    rename_i out t hfeed
    obtain ⟨o, hi, ho, ht⟩ := feed_eq_some hfeed
    split at h
    · cases h
    rename_i ev hev
    obtain ⟨e, hstep, rfl⟩ := serverStep_eq_some h
    obtain ⟨recv, hon, rfl⟩ := Server.Established.stream_cases cfg.server ht hstep
    exact .uplink i d o out t ev recv hi ho ht hev hon hstep
  | acceptReply k =>
    simp only [step] at h
    split at h
    · cases h
    rename_i hguard
    obtain ⟨hk, hnew⟩ := not_or.mp hguard
    cases h
    exact .acceptReply k hk hnew
  | reply j d =>
    simp only [step] at h
    split at h
    · rename_i t k hj hk
      split at h
      · cases h
      rename_i ev hev
      obtain ⟨recv, hon, rfl⟩ := Option.map_eq_some_iff.mp h
      exact .reply j d k t _ ev recv hj hk of_decide_eq_true hev hon
    · cases h
  | response i d =>
    simp only [step] at h
    split at h
    · rename_i j t hi ht
      split at h
      · cases h
      rename_i c hj
      split at h
      · cases h
      rename_i ev hev
      obtain ⟨c', hc, rfl⟩ := Option.map_eq_some_iff.mp h
      obtain ⟨recv, hon, rfl⟩ := Option.map_eq_some_iff.mp hc
      exact .response i d j c _ ev recv hi hj hev hon
    · cases h

/-- A step of the two ends leaves the sending side of the client alone, or is one of it. -/
theorem Step.client_cases (h : Step cfg s a s') :
    s'.client = s.client ∨ ∃ b, a = .client b ∧ s.client.Step b s'.client := by
  cases h with
  | client b c hstep => exact Or.inr ⟨b, rfl, hstep⟩
  | connect addr canonical => exact Or.inl rfl
  | connectStep j b c c' hj hstep hrecv => exact Or.inl rfl
  | receive b r hstep => exact Or.inl rfl
  | server b e hown hstep => exact Or.inl rfl
  | accept o out t ho hsent hnew hfresh hsrc hdata hstep => exact Or.inl rfl
  | uplink i d o out t ev recv hi ho ht hev hon hstep => exact Or.inl rfl
  | acceptReply k hk hnew => exact Or.inl rfl
  | reply j d k t ended ev recv hj hk hended hev hon => exact Or.inl rfl
  | response i d j c ended ev recv hi hj hev hon => exact Or.inl rfl

/-- A step of the two ends leaves the server alone, or is one of it: on its own, or by something
that arrives. -/
theorem Step.server_cases (h : Step cfg s a s') :
    s'.server = s.server ∨
      ∃ b, (Server.connectionSystem cfg.server).step s.server b = some s'.server ∧
        (a = .server b ∨ (∃ st, b = .handle st) ∨ ∃ i ev, b = .stream i ev) := by
  cases h with
  | server b e hown hstep => exact Or.inr ⟨b, hstep, Or.inl rfl⟩
  | accept o out t ho hsent hnew hfresh hsrc hdata hstep =>
    exact Or.inr ⟨_, hstep, Or.inr (Or.inl ⟨_, rfl⟩)⟩
  | uplink i d o out t ev recv hi ho ht hev hon hstep =>
    exact Or.inr ⟨_, hstep, Or.inr (Or.inr ⟨_, _, rfl⟩)⟩
  | client b c hstep => exact Or.inl rfl
  | connect addr canonical => exact Or.inl rfl
  | connectStep j b c c' hj hstep hrecv => exact Or.inl rfl
  | receive b r hstep => exact Or.inl rfl
  | acceptReply k hk hnew => exact Or.inl rfl
  | reply j d k t ended ev recv hj hk hended hev hon => exact Or.inl rfl
  | response i d j c ended ev recv hi hj hev hon => exact Or.inl rfl

/-- **The server of the two ends** goes through runs of a server connection. -/
theorem server_of_reachable {C : Duplex → DuplexAction → Prop}
    {D : Server.Established → Server.Action → Prop} (h : (duplexSystem cfg).ReachableBy C s)
    (hown : ∀ s b, C s (.server b) → D s.server b)
    (haccept : ∀ e st, D e (.handle st)) (hstream : ∀ e i ev, D e (.stream i ev)) :
    (Server.connectionSystem cfg.server).ReachableBy D s.server := by
  refine h.map Duplex.server rfl ?_
  intro s a s' _ hC hs
  rcases (step_cases hs).server_cases with heq | ⟨b, hstep, hb⟩
  · exact Or.inl heq
  · refine Or.inr ⟨b, ?_, hstep⟩
    rcases hb with rfl | ⟨st, rfl⟩ | ⟨i, ev, rfl⟩
    · exact hown s b hC
    · exact haccept _ _
    · exact hstream _ _ _

/-- Without a condition. -/
theorem server_reachable {C : Duplex → DuplexAction → Prop}
    (h : (duplexSystem cfg).ReachableBy C s) :
    (Server.connectionSystem cfg.server).Reachable s.server :=
  server_of_reachable h (fun _ _ _ => trivial) (fun _ _ => trivial) fun _ _ _ => trivial

end Duplex

end EndToEnd

end Tuic
