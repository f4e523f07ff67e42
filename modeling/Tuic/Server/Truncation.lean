import Tuic.Server.Written

/-! # The payloads of replies

`listen_receive_packet` of `server/src/connection/udp.rs` receives into a buffer of `max_pkt_size`
bytes. What does not fit is discarded by the socket, and what fits is relayed as a packet like any
other. Here the datagrams that arrived are recorded as they were sent, and the replies that are
written to the client are compared with them (`Established.WholeReplies`). -/

namespace Tuic.Server

open ByteCodec Transition

/-- A datagram that arrives on the socket of a session: its payload and its source. -/
abbrev Arrival := SessionId × Bytes × SocketAddr

/-- The datagrams that arrive in a step, as they were sent. -/
def Action.arrivals : Action → List Arrival
  | .session sid (.recvFrom data addr) => [(sid, data, addr)]
  | .session _ .take | .session _ .disconnected | .session _ (.sendTo _) | .session _ .recvFail
  | .session _ .handOn | .handle _ | .task _ _ | .reply _ _ | .stream _ _ | .peerClose _
  | .drop => []

/-- What is received of a datagram with a buffer of `maxPktSize` bytes. -/
def Arrival.cut (maxPktSize : Nat) (e : Arrival) : Arrival := (e.1, e.2.1.take maxPktSize, e.2.2)

/-- A datagram that arrives fits the buffer. -/
def Action.fitsBuffer (maxPktSize : Nat) (a : Action) : Bool :=
  a.arrivals.all fun e => e.2.1.length ≤ maxPktSize

/-- A connection, with all datagrams that have arrived on the sockets of its sessions. -/
abbrev arrivalSystem (cfg : Config) : System (Established × List Arrival) Action :=
  (connectionSystem cfg).record Action.arrivals

namespace Established

/-- A reply has the whole payload of a datagram, which arrived on a socket of its association. -/
def IsWhole (s : Established) (arrived : List Arrival) (r : Reply) : Prop :=
  ∃ sid ses addr, s.conn.udpSessions.sessions[sid]? = some ses ∧ ses.assocId = r.assocId ∧
    r.addr = .socketAddress addr ∧ (sid, r.pkt, addr) ∈ arrived

/-- **Replies are whole.** What is on a stream to the client is the beginning of a reply with the
whole payload of a datagram, and it is that reply when the stream is finished; a datagram to the
client is such a reply. -/
def WholeReplies (s : Established) (arrived : List Arrival) : Prop :=
  ∀ k, (written (.uniStream k) s.conn.log ≠ [] → ∃ r, s.IsWhole arrived r ∧
      written (.uniStream k) s.conn.log <+: r.bytes ∧
      (.finish (.uniStream k) ∈ s.conn.log → written (.uniStream k) s.conn.log = r.bytes)) ∧
    (written (.datagram k) s.conn.log ≠ [] → ∃ r, s.IsWhole arrived r ∧
      written (.datagram k) s.conn.log = r.bytes)

variable {cfg : Config} {s : Established × List Arrival}

/-- **What comes in on the sockets at a step is what arrives**, up to the size of the buffer. -/
theorem Step.receivedBy_eq {s s' : Established} {a : Action} (h : Step cfg s a s') :
    s'.conn.udpSessions.receivedBy =
      s.conn.udpSessions.receivedBy ++ a.arrivals.map (Arrival.cut cfg.maxPktSize) := by
  cases h.traffic with
  | quiet _ ha _ heq =>
    have hnone : a.arrivals = [] := by
      cases a with
      | session sid st =>
        cases st with
        | recvFrom data addr => cases ha
        | _ => rfl
      | _ => rfl
    rw [heq, hnone]
    exact (List.append_nil _).symm
  | sends sid ses pkt addr _ _ _ heq =>
    rw [heq]
    exact (List.append_nil _).symm
  | receives sid ses data addr _ _ heq => exact heq

/-- **What came in on the sockets is what arrived**, up to the size of the buffer. -/
theorem received_of_reachable {C : Established × List Arrival → Action → Prop}
    (h : (arrivalSystem cfg).ReachableBy C s) :
    s.1.conn.udpSessions.receivedBy = s.2.map (Arrival.cut cfg.maxPktSize) := by
  refine h.invariant (I := fun s => s.1.conn.udpSessions.receivedBy =
    s.2.map (Arrival.cut cfg.maxPktSize)) rfl ?_
  intro s a s' _ ih _ hstep
  obtain ⟨hs, hrec⟩ := System.record_step hstep
  rw [(step_cases hs).receivedBy_eq, ih, hrec, List.map_append]

/-- The datagrams that arrived fit the buffer, when they all did so as they arrived. -/
theorem arrived_fits_of_reachable
    (h : (arrivalSystem cfg).ReachableBy (fun _ a => a.fitsBuffer cfg.maxPktSize = true) s) :
    ∀ e ∈ s.2, e.2.1.length ≤ cfg.maxPktSize := by
  refine h.invariant (I := fun s => ∀ e ∈ s.2, e.2.1.length ≤ cfg.maxPktSize) nofun ?_
  intro s a s' _ ih hfits hstep e he
  rw [(System.record_step hstep).2] at he
  rcases List.mem_append.mp he with he | he
  · exact ih e he
  · exact of_decide_eq_true (List.all_eq_true.mp hfits e he)

/-- A packet that was taken for a reply is whole, when what came in on the sockets is what arrived
there. -/
theorem Replied.isWhole {s : Established} {taken : List Reply} (ht : s.Replied taken)
    {arrived : List Arrival} (harrived : ∀ e ∈ s.conn.udpSessions.receivedBy, e ∈ arrived)
    {r : Reply} (hr : r ∈ taken) : s.IsWhole arrived r := by
  have hmem := ht.accounts.taken_subperm.subset
    (List.mem_map_of_mem (List.mem_map_of_mem (f := fun r => (r.assocId, r.pkt, r.addr)) hr))
  obtain ⟨e, he, heq⟩ := List.mem_map.mp hmem
  obtain ⟨hassoc, hpkt⟩ := Prod.mk.inj heq
  obtain ⟨hpkt, haddr⟩ := Prod.mk.inj hpkt
  obtain ⟨ses, hses, hid⟩ := Option.map_eq_some_iff.mp hassoc
  exact ⟨e.1, ses, e.2.2, hses, hid, haddr.symm, hpkt ▸ harrived e he⟩

/-- What is on the channels for replies is of packets that were taken, so the replies are whole when
these packets are. -/
theorem Replied.wholeReplies {s : Established} {taken : List Reply} (ht : s.Replied taken)
    {arrived : List Arrival} (hwhole : ∀ r ∈ taken, s.IsWhole arrived r) :
    s.WholeReplies arrived := by
  intro k
  by_cases hk : k < s.replies.length
  · have hpc := List.getElem?_eq_getElem hk
    have hlt : k < taken.length := ht.length ▸ hk
    have hwrote := ht.replies k _ taken[k] hpc (List.getElem?_eq_getElem hlt)
    have hr := hwhole taken[k] (List.getElem_mem hlt)
    exact ⟨fun _ => ⟨taken[k], hr, hwrote.uniStream, hwrote.finished⟩,
      fun hne => ⟨taken[k], hr, hwrote.datagram hne⟩⟩
  · -- there is no such reply task, and nothing is on its channels
    have hun := ht.unwritten k (Nat.le_of_not_lt hk)
    exact ⟨fun hne => absurd hun.1 hne, fun hne => absurd hun.2.1 hne⟩

/-- **Replies are whole** in every run in which no datagram arrives that is larger than the receive
buffer. -/
theorem wholeReplies_of_reachable (cfg : Config) (s : Established × List Arrival)
    (h : (arrivalSystem cfg).ReachableBy (fun _ a => a.fitsBuffer cfg.maxPktSize = true) s) :
    s.1.WholeReplies s.2 := by
  obtain ⟨taken, ht⟩ := replied_of_reachable
    (System.ReachableBy.of_record (C := fun _ a => a.fitsBuffer cfg.maxPktSize = true) h)
  have hfits := arrived_fits_of_reachable h
  have harrived : ∀ e ∈ s.1.conn.udpSessions.receivedBy, e ∈ s.2 := by
    intro e he
    rw [received_of_reachable h] at he
    obtain ⟨e, hmem, rfl⟩ := List.mem_map.mp he
    rw [Arrival.cut, List.take_of_length_le (hfits e hmem)]
    exact hmem
  exact ht.wholeReplies fun r hr => ht.isWhole harrived hr

/-- A client authenticates and sends a packet, and a datagram comes back to its session, to be
written to the client in a datagram. -/
def pingPong (data : Bytes) : List Action :=
  [.handle .acceptUniStream, .stream 0 (.data (4 :: 0 :: List.replicate 32 0)),
    .task 0 .ok, .task 0 .ok, .task 0 .ok,
    .handle (.acceptDatagram [4, 2, 0, 0, 0, 7, 0, 1, 1, 127, 0, 0, 1, 0, 53, 9]),
    .task 1 .ok, .task 1 .ok, .task 1 .ok, .task 1 .ok, .task 1 .ok, .task 1 .ok, .task 1 .ok,
    .session 0 (.recvFrom data (.v4 ⟨127, 0, 0, 1⟩ 53)), .session 0 .handOn,
    .handle .receive, .reply 0 .ok, .reply 0 .ok]

/-- The theorem in a run in which a reply of three bytes is written, all that fits the buffer. -/
theorem wholeReplies_of_reachable_pingPong :
    ∃ s, (arrivalSystem ⟨[⟨List.replicate 32 0, rfl⟩], 3⟩).ReachableBy
        (fun _ a => a.fitsBuffer 3 = true) s ∧
      written (.datagram 0) s.1.conn.log =
        [4, 2, 0, 0, 0, 7, 0, 3, 1, 127, 0, 0, 1, 0, 53, 1, 2, 3] ∧
      s.1.WholeReplies s.2 := by
  obtain ⟨s, hs, hp⟩ := System.exists_reachableBy_of_runBy
    (arrivalSystem ⟨[⟨List.replicate 32 0, rfl⟩], 3⟩) (fun _ a => a.fitsBuffer 3)
    (pingPong [1, 2, 3])
    (fun s => decide (written (.datagram 0) s.1.conn.log =
      [4, 2, 0, 0, 0, 7, 0, 3, 1, 127, 0, 0, 1, 0, 53, 1, 2, 3]))
    (by decide)
  exact ⟨s, hs, of_decide_eq_true hp, wholeReplies_of_reachable _ s hs⟩

/-- **A datagram that is larger than the buffer is forwarded cut short**: of the three bytes that
arrive, the client gets a packet with two. -/
theorem not_wholeReplies_of_cut :
    ∃ s, (arrivalSystem ⟨[⟨List.replicate 32 0, rfl⟩], 2⟩).Reachable s ∧
      s.2 = [(0, [1, 2, 3], .v4 ⟨127, 0, 0, 1⟩ 53)] ∧
      written (.datagram 0) s.1.conn.log =
        [4, 2, 0, 0, 0, 7, 0, 2, 1, 127, 0, 0, 1, 0, 53, 1, 2] ∧
      ¬ s.1.WholeReplies s.2 := by
  obtain ⟨s, hs, hp⟩ := System.exists_reachable_of_run
    (arrivalSystem ⟨[⟨List.replicate 32 0, rfl⟩], 2⟩) (pingPong [1, 2, 3])
    (fun s => decide (s.2 = [(0, [1, 2, 3], .v4 ⟨127, 0, 0, 1⟩ 53)] ∧
      written (.datagram 0) s.1.conn.log =
        [4, 2, 0, 0, 0, 7, 0, 2, 1, 127, 0, 0, 1, 0, 53, 1, 2]))
    (by decide)
  obtain ⟨harrived, hwritten⟩ := of_decide_eq_true hp
  refine ⟨s, hs, harrived, hwritten, fun hwhole => ?_⟩
  obtain ⟨⟨assocId, pkt, from'⟩, ⟨sid, ses, addr, -, -, haddr, hmem⟩, hbytes⟩ :=
    (hwhole 0).2 (by rw [hwritten]; exact List.cons_ne_nil _ _)
  rw [harrived, List.mem_singleton] at hmem
  cases hmem
  cases haddr
  -- a whole reply has one byte more than what was written
  have hlen := congrArg List.length hbytes
  rw [hwritten, Reply.bytes, List.length_append, Command.length_writeToBuf] at hlen
  cases hlen

end Established

end Tuic.Server
