import Tuic.EndToEnd.Replies
import Tuic.EndToEnd.UdpFrames
import Tuic.Server.Confinement

/-! # The client and the server conform to each other

With a token of the server, whatever the client of this repository sends is valid where it arrives
(`Speaks.accepts`), so no handler of the server has a reason to fail but the time-out of the
authentication (`error_eq_timeout`), and the server does not close the connection for an error of
the client. The replies of the server are on the kind of channel the client listens to, and what
arrives of one is a beginning of a packet that the client can read (`Reads.parse`). -/

namespace Tuic

open ByteCodec Reader Transition

/-! ## What the client says -/

/-- The relay mode of the server for packets of the client. -/
def Client.UdpRelayMode.packetSource : Client.UdpRelayMode → Server.UdpPacketSource
  | .native => .datagram
  | .quic => .uniStream

/-- The frames of a client: its own token, and packets in its relay mode. -/
def Client.Frame.Of (mode : Client.UdpRelayMode) (tokenDigest : Server.Digest) :
    Client.Frame → Prop
  | .packet mode' _ _ _ _ => mode' = mode
  | .token tokenDigest' => tokenDigest' = tokenDigest
  | .dissociate _ | .heartbeat => True

/-- A new sending task of a client has one of its frames. -/
theorem Client.Connection.Step.frames {c c' : Client.Connection} {b : Client.Action}
    {tokenDigest : Server.Digest} (h : c.Step b c')
    (hw : All (fun _ snd => snd.Wf c.closed) c.sends)
    (hf : All (fun _ snd => snd.frame.Of c.udpRelayMode tokenDigest) c.sends) :
    All (fun _ snd => snd.frame.Of c.udpRelayMode tokenDigest) c'.sends := by
  cases h with
  | packet a assoc pkt addr fits ha hpc => exact hf.spawn rfl fun _ _ _ => id
  | dissociate a assoc ha hpc => exact hf.spawn trivial fun _ _ _ => id
  | heartbeat => exact hf.spawn trivial fun _ _ _ => id
  | send k outcome snd snd' hk hstep =>
    refine hf.set ?_ fun _ _ _ _ => id
    obtain ⟨-, hframe, -⟩ := (hw k snd hk).step hstep
    rw [hframe]
    exact hf k snd hk
  | request assocId => exact hf
  | insert a assoc ha hpc => exact hf
  | gone a assoc ha hpc => exact hf
  | close => exact hf

/-- A UDP datagram carries at most 65535 bytes. -/
def Client.AssociateStep.fitsUdp : Client.AssociateStep → Bool
  | .recv (some (pkt, _)) => pkt.length ≤ 65535
  | .recv none | .go => true

/-- The same for a step of the client. -/
def Client.Action.fitsUdp : Client.Action → Bool
  | .associate _ st => st.fitsUdp
  | .request _ | .heartbeat | .send _ _ | .close => true

/-- UDP datagrams carry at most 65535 bytes on either side. -/
def EndToEnd.DuplexAction.fitsUdp : EndToEnd.DuplexAction → Bool
  | .client a => a.fitsUdp
  | .server a => a.fitsUdp
  | .connect _ | .connectStep _ _ | .receive _ | .accept _ | .uplink _ _ | .acceptReply _
  | .reply _ _ | .response _ _ => true

namespace EndToEnd.Duplex

variable {cfg : Config} {s s' : Duplex} {a : DuplexAction} {C : Duplex → DuplexAction → Prop}

/-- What the client of a configuration sends. -/
structure Speaks (cfg : Config) (s : Duplex) : Prop where
  /-- It keeps to its relay mode. -/
  mode : s.client.udpRelayMode = cfg.mode
  /-- It sends its own token, and packets in that mode. -/
  frames : All (fun _ snd => snd.frame.Of cfg.mode cfg.tokenDigest) s.client.sends

/-- **What the client says**, in every reachable state. -/
theorem speaks_of_reachable (h : (duplexSystem cfg).ReachableBy C s) : s.Speaks cfg := by
  refine h.invariant (I := Speaks cfg) ⟨rfl, ?_⟩ ?_
  · intro k snd hk
    have hmem : snd ∈ [Client.Send.new (.token cfg.tokenDigest)] := List.mem_of_getElem? hk
    rw [List.mem_singleton.mp hmem]
    rfl
  · intro s a s' hr hspeaks _ hs
    rcases (step_cases hs).client_cases with heq | ⟨b, -, hstep⟩
    · exact ⟨heq ▸ hspeaks.mode, heq ▸ hspeaks.frames⟩
    · refine ⟨hstep.udpRelayMode.trans hspeaks.mode, ?_⟩
      have hwf := (fed_of_reachable hr).sends.mono fun _ _ _ h => h.1
      have hframes := hstep.frames hwf (hspeaks.mode.symm ▸ hspeaks.frames)
      rw [hspeaks.mode] at hframes
      exact hframes

/-- A frame of the client is valid on its channel. -/
theorem accepts_frame {token : List Server.Digest} {mode : Client.UdpRelayMode}
    {tokenDigest : Server.Digest} (htoken : tokenDigest ∈ token) {f : Client.Frame}
    (hf : f.Of mode tokenDigest) (data : Bytes) :
    f.channel.source.Accepts token mode.packetSource data f.cmd.onWire := by
  cases f with
  | packet mode' assocId pkt addr fits =>
    obtain rfl : mode' = mode := hf
    refine Or.inr ⟨?_, fun _ _ _ _ => ?_⟩
    · cases mode' with
      | native => exact Option.some_ne_none _
      | quic => exact Option.some_ne_none _
    · cases mode' with
      | native => rfl
      | quic => rfl
  | dissociate assocId => exact Or.inr ⟨Option.some_ne_none _, nofun⟩
  | token tokenDigest' =>
    obtain rfl : tokenDigest' = tokenDigest := hf
    exact Or.inl ⟨rfl, Or.inr ⟨_, htoken, rfl⟩⟩
  | heartbeat => exact Or.inl ⟨rfl, Or.inl rfl⟩

/-- **Whatever the client sends is valid where it arrives.** -/
theorem Speaks.accepts (h : s.Speaks cfg) (htoken : cfg.tokenDigest ∈ cfg.server.token) {o : Origin}
    {out : Outgoing} (ho : s.outgoing o = some out) (data : Bytes) :
    out.source.Accepts cfg.server.token cfg.mode.packetSource data out.cmd.onWire := by
  cases o with
  | send k =>
    obtain ⟨snd, hk, rfl⟩ := Option.map_eq_some_iff.mp ho
    exact accepts_frame htoken (h.frames k snd hk) data
  | connect j =>
    obtain ⟨c, hj, rfl⟩ := Option.map_eq_some_iff.mp ho
    exact Or.inr ⟨Option.some_ne_none _, nofun⟩

/-! ## What the server makes of it -/

/-- The bytes of a handler decode to its command, or there are not enough of them yet. -/
theorem Feeds.readFrom_cases {closed : Bool} {out : Outgoing} {t : Server.Task}
    (h : Feeds closed out t) (hw : out.Wf) :
    Server.Carries t.recv.data out.cmd.onWire ∨
      ∃ err, Command.readFrom t.recv.data = .error (.io err) ∧ err.kind = .unexpectedEof := by
  obtain ⟨rest, hbegins⟩ := hw.begins
  obtain ⟨x, hx⟩ := h.data.trans hbegins
  exact Command.final_readFrom.beginning (Command.readFrom_of_eq_append out.cmd hw.fits hx)

/-- **The relay mode of the server is that of the client**, once it is fixed. -/
theorem udpPacketFrom_eq (h : (duplexSystem cfg).ReachableBy C s)
    (htoken : cfg.tokenDigest ∈ cfg.server.token) {m : Server.UdpPacketSource}
    (hm : s.server.conn.udpPacketFrom = some m) : m = cfg.mode.packetSource := by
  -- it was fixed by a packet, which came from the client
  obtain ⟨i, t, assocId, len, addr, hi, hsrc, hc⟩ :=
    Server.Established.hasPacket_of_reachable (server_reachable h) hm
  have hf := fed_of_reachable h
  obtain ⟨o, out, -, hout, hfeeds⟩ := hf.handler i t hi
  have hcmd := hfeeds.carries (hf.outgoing_wf hout) hc
  rcases (speaks_of_reachable h).accepts htoken hout t.recv.data with
    ⟨-, hb | ⟨digest, -, ha⟩⟩ | ⟨-, hpkt⟩
  · rw [← hcmd] at hb
    cases hb
  · rw [← hcmd] at ha
    cases ha
  · rw [hfeeds.source, hpkt assocId len addr hcmd.symm] at hsrc
    exact (Option.some.inj hsrc).symm

/-- **The only error of a handler** is the time-out of the authentication, while the connection
lasts. -/
theorem error_eq_timeout (h : (duplexSystem cfg).ReachableBy C s)
    (htoken : cfg.tokenDigest ∈ cfg.server.token) (hopen : s.server.conn.controller = none)
    {i : Nat} {t : Server.Task} (hi : s.server.tasks[i]? = some t) {err : Server.DispatchError}
    (hfails : Server.FailsWith cfg.server.token s.server.conn t.source t.recv err) :
    err = .authenticationTimeout := by
  have hf := fed_of_reachable h
  have hspeaks := speaks_of_reachable h
  obtain ⟨o, out, -, hout, hfeeds⟩ := hf.handler i t hi
  have hw := hf.outgoing_wf hout
  -- a stream fails with the connection, which lasts
  have hlasts : t.recv.status ≠ .failed := by
    intro hst
    have hclosed := hfeeds.failed hst
    rw [hopen] at hclosed
    cases hclosed
  by_contra hne
  rcases hfeeds.readFrom_cases hw with hc | ⟨e, he, heof⟩
  · refine hfails.elim hc ?_ (fun _ _ => hlasts) (fun h => absurd h hne) fun hm =>
      udpPacketFrom_eq h htoken hm
    rw [hfeeds.source]
    exact hspeaks.accepts htoken hout t.recv.data
  · -- without its command a handler fails at the end of its stream only, which has the command
    have hnone : ∀ cmd, ¬ Server.Carries t.recv.data cmd := by
      rintro cmd ⟨rest, hread⟩
      rw [he] at hread
      cases hread
    cases err with
    | io e' =>
      have hst : t.recv.status ≠ .receiving := by
        rcases hfails with hfailed | ⟨e'', he'', hst⟩
        · exact absurd hfailed hlasts
        · rw [he] at he''
          cases he''
          exact hst heof
      cases hstatus : t.recv.status with
      | receiving => exact hst hstatus
      | failed => exact hlasts hstatus
      | finished => exact hnone _ (hfeeds.carries_of_header hw hstatus)
    | authenticationFailed =>
      obtain ⟨-, digest, -, hc⟩ := hfails
      exact hnone _ hc
    | authenticationTimeout => exact hne rfl
    | badCommand =>
      obtain ⟨cmd, hc, -⟩ := hfails
      exact hnone _ hc

/-- **The server closes the connection for the time-out only.** -/
theorem closed_of_reachable (h : (duplexSystem cfg).ReachableBy C s)
    (htoken : cfg.tokenDigest ∈ cfg.server.token) :
    ∀ code reason, s.server.conn.controller = some (.closed code reason) →
      code = Server.DispatchError.codeAuthenticationTimeout := by
  refine h.invariant (I := fun s => ∀ code reason,
    s.server.conn.controller = some (.closed code reason) →
      code = Server.DispatchError.codeAuthenticationTimeout) nofun ?_
  intro s a s' hr ih _ hs code reason hclosed
  rcases (step_cases hs).server_cases with heq | ⟨b, hstep, -⟩
  · rw [heq] at hclosed
    exact ih code reason hclosed
  rcases (Server.Established.step_cases hstep).closed_cases hclosed with
    hold | ⟨hopen, err, rfl, ⟨i, t, hi, herr⟩ | rfl⟩
  · exact ih code reason hold
  · have hsound := Server.Established.sound_of_reachable (server_reachable hr) i t hi
    have hfails := Server.Established.failsWith_of_error? hsound herr
    rw [error_eq_timeout hr htoken hopen hi hfails]
    rfl
  · rfl

/-! ## What the client makes of the replies -/

/-- A beginning of a reply is read as its packet, or is too short. -/
theorem parse_cases {t : Client.Incoming} {r : Server.Reply} (hpkt : r.pkt.length ≤ 65535)
    (hfits : r.addr.Fits) (hdata : t.recv.data <+: r.bytes)
    (hwhole : t.channel = .datagram → t.recv.data = r.bytes) :
    t.parse = .ok (r.assocId, r.pkt, r.addr.onWire) ∨
      ∃ err, t.parse = .error (.io err) ∧ err.kind = .unexpectedEof ∧ t.recv.data ≠ r.bytes := by
  obtain ⟨assocId, pkt, addr⟩ := r
  unfold Client.Incoming.parse
  cases hch : t.channel with
  | datagram =>
    left
    rw [hwhole hch]
    exact parseDatagram_bytes hfits hpkt
  | uniStream =>
    obtain ⟨x, hx⟩ := hdata
    have hall : Client.parseUniStream ((Server.Reply.mk assocId pkt addr).bytes ++ []) =
        .ok ((assocId, pkt, addr.onWire), []) := parseUniStream_bytes hfits hpkt []
    rw [List.append_nil] at hall
    rcases Client.final_parseUniStream.beginning (hx.symm ▸ hall) with ⟨rest, hok⟩ | ⟨err, he, heof⟩
    · left
      simp only [hok]
      rfl
    · right
      simp only [he]
      refine ⟨err, rfl, heof, fun heq => ?_⟩
      rw [heq, hall] at he
      cases he

/-- The packets of the replies fit. -/
theorem taken_fits (h : (duplexSystem cfg).ReachableBy (fun _ a => a.fitsUdp = true) s)
    {taken : List Server.Reply} (htaken : s.server.Replied taken) {k : Nat} {r : Server.Reply}
    (hr : taken[k]? = some r) : r.pkt.length ≤ 65535 ∧ r.addr.Fits := by
  have hserver : (Server.connectionSystem cfg.server).ReachableBy (fun _ a => a.fitsUdp = true)
      s.server :=
    server_of_reachable h (fun _ _ hfits => hfits) (fun _ _ => rfl) fun _ _ _ => rfl
  have hmem := List.mem_map_of_mem (f := fun r : Server.Reply => (r.assocId, r.pkt, r.addr))
    (List.mem_of_getElem? hr)
  obtain ⟨hpkt, addr, haddr⟩ := htaken.accounts.taken_fits
    (Server.Established.received_fits_of_reachable hserver) _ hmem
  refine ⟨hpkt, ?_⟩
  rw [show r.addr = .socketAddress addr from haddr]
  trivial

/-- **The client accepts the replies**: no task of its receiving side panics, one fails only with
the connection, and a reply that is there as a whole is read. -/
theorem accepted_of_reachable (h : (duplexSystem cfg).ReachableBy (fun _ a => a.fitsUdp = true) s)
    {j : Nat} {t : Client.Incoming} (hj : s.receiving.tasks[j]? = some t) :
    t.pc ≠ .panicked ∧ (∀ err, t.pc = .failed err → s.client.closed = true) ∧
      (t.recv.status = .finished → ∃ r, t.parse = .ok r) := by
  have hreplying := replying_of_reachable h
  obtain ⟨taken, htaken⟩ := Server.Established.replied_of_reachable (server_reachable h)
  obtain ⟨k, -, hreads⟩ := hreplying.reads j t hj
  obtain ⟨r, hr, hdata, hfinished⟩ := hreads.reply htaken
  obtain ⟨hpkt, hfits⟩ := taken_fits h htaken hr
  have hparse := parse_cases hpkt hfits hdata fun hch => hfinished (hreads.datagram hch)
  have hstands : t.Stands s.client.assocs := hreplying.stands j t hj
  unfold Client.Incoming.Stands at hstands
  refine ⟨fun hpc => ?_, fun err hpc => ?_, fun hst => ?_⟩
  · rw [hpc] at hstands
    rcases hparse with hok | ⟨e, he, -⟩
    · rw [hok] at hstands
      cases hstands
    · rw [he] at hstands
      cases hstands
  · rw [hpc] at hstands
    rcases hstands with hfailed | ⟨e, he, hst⟩
    · exact hreads.failed hfailed
    rcases hparse with hok | ⟨e', he', heof, hne⟩
    · rw [hok] at he
      cases he
    · rw [he'] at he
      cases he
      -- too few bytes, and the stream is at its end: so it failed
      cases hstatus : t.recv.status with
      | receiving => exact absurd hstatus (hst heof)
      | finished => exact absurd (hfinished hstatus) hne
      | failed => exact hreads.failed hstatus
  · rcases hparse with hok | ⟨e, -, -, hne⟩
    · exact ⟨_, hok⟩
    · exact absurd (hfinished hst) hne

/-- **The client and the server conform to each other.** With a token of the server, in either relay
mode and in every reachable state:

* the server has not closed the connection for a protocol error, a failed authentication or a bad
  command;
* what it has written, other than on the streams of `CONNECT`s, is on channels of the kind on which
  the client listens for replies;
* what the client has got there it reads as packets: no task panics, none fails unless the
  connection is closed, and a reply that is there as a whole is read. -/
theorem client_server_conform (cfg : Config) (htoken : cfg.tokenDigest ∈ cfg.server.token)
    (s : Duplex) (h : (duplexSystem cfg).ReachableBy (fun _ a => a.fitsUdp = true) s) :
    (∀ code reason, s.server.conn.controller = some (.closed code reason) →
      code ≠ Server.DispatchError.codeProtocol ∧
        code ≠ Server.DispatchError.codeAuthenticationFailed ∧
        code ≠ Server.DispatchError.codeBadCommand) ∧
    (∀ ch data, .toPeer ch data ∈ s.server.conn.log →
      (∃ i, ch = .biStream i) ∨ ∃ k, ch = cfg.mode.peerChannel k) ∧
    ∀ (j : Nat) (t : Client.Incoming), s.receiving.tasks[j]? = some t →
      t.channel = cfg.mode.channel ∧ t.pc ≠ .panicked ∧
        (∀ err, t.pc = .failed err → s.client.closed = true) ∧
        (t.recv.status = .finished → ∃ r, t.parse = .ok r) := by
  refine ⟨fun code reason hclosed => ?_, fun ch data he => ?_, fun j t hj => ⟨?_, ?_⟩⟩
  · rw [closed_of_reachable h htoken code reason hclosed]
    decide
  · have hmodes := Server.Established.modes_of_reachable (server_reachable h)
    cases ch with
    | biStream i => exact Or.inl ⟨i, rfl⟩
    | uniStream k =>
      have hm := udpPacketFrom_eq h htoken (hmodes.log _ he .uniStream rfl)
      refine Or.inr ⟨k, ?_⟩
      cases hmode : cfg.mode with
      | native =>
        rw [hmode] at hm
        cases hm
      | quic => rfl
    | datagram k =>
      have hm := udpPacketFrom_eq h htoken (hmodes.log _ he .datagram rfl)
      refine Or.inr ⟨k, ?_⟩
      cases hmode : cfg.mode with
      | native => rfl
      | quic =>
        rw [hmode] at hm
        cases hm
  · obtain ⟨k, -, hreads⟩ := (replying_of_reachable h).reads j t hj
    rw [hreads.channel, (speaks_of_reachable h).mode]
  · exact accepted_of_reachable h hj

/-- A configuration in which the server has the token of the client. -/
def sample (mode : Client.UdpRelayMode) : Config :=
  ⟨mode, ⟨List.replicate 32 0, rfl⟩, ⟨[⟨List.replicate 32 0, rfl⟩], 1500⟩⟩

/-- The client authenticates itself. -/
def authenticate : List DuplexAction :=
  [.client (.send 0 .ok), .client (.send 0 .ok), .accept (.send 0), .uplink 0 (.bytes 34),
    .server (.task 0 .ok), .server (.task 0 .ok), .server (.task 0 .ok)]

/-- A run in native mode: the client sends a packet for an association, and the socket of the
association gets `data` back from `source`, which the client reads. -/
def echo (data : Bytes) (source : SocketAddr) : List DuplexAction :=
  authenticate ++ ([.client (.request 7), .client (.associate 0 .go),
    .client (.associate 0 (.recv (some ([1], .socketAddress (.v4 ⟨1, 2, 3, 4⟩ 53))))),
    .client (.send 1 .ok), .accept (.send 1), .server (.task 1 .ok), .server (.task 1 .ok),
    .server (.task 1 .ok), .server (.task 1 .ok), .server (.task 1 .ok), .server (.task 1 .ok),
    .server (.task 1 .ok), .server (.session 0 .take), .server (.session 0 (.sendTo true)),
    .server (.session 0 (.recvFrom data source)), .server (.session 0 .handOn),
    .server (.handle .receive), .server (.reply 0 .ok), .server (.reply 0 .ok),
    .acceptReply 0, .receive (.task 0), .receive (.task 0), .receive (.task 0)] : List DuplexAction)

/-- The theorem in a run in which a reply gets to an association. -/
theorem client_server_conform_echo :
    ∃ s, (duplexSystem (sample .native)).ReachableBy (fun _ a => a.fitsUdp = true) s ∧
      s.receiving.delivered.length = 1 ∧
      ∀ code reason, s.server.conn.controller = some (.closed code reason) →
        code ≠ Server.DispatchError.codeProtocol ∧
          code ≠ Server.DispatchError.codeAuthenticationFailed ∧
          code ≠ Server.DispatchError.codeBadCommand := by
  obtain ⟨s, hs, hp⟩ := System.exists_reachableBy_of_runBy (duplexSystem (sample .native))
    (fun _ a => a.fitsUdp) (echo [9] (.v4 ⟨1, 2, 3, 4⟩ 53))
    (fun s => decide (s.receiving.delivered.length = 1)) (by decide)
  have htoken : (sample .native).tokenDigest ∈ (sample .native).server.token :=
    List.mem_singleton_self _
  exact ⟨s, hs, of_decide_eq_true hp, (client_server_conform (sample .native) htoken s hs).1⟩

end EndToEnd.Duplex

end Tuic
