import Tuic.EndToEnd.Conform
import Tuic.Server.Streams

/-! # UDP relay isolation, end to end

What the associations of a client submit, what the sockets of the server emit and receive, and what
gets into the receive channels of the associations, each with the id of its association
(`submitted`, `emitted`, `receptions`, `deliveries`). As multisets, what is emitted was submitted,
and what is delivered was received, by sockets of the same association. The way there is followed
packet by packet: a packet that a handler hands over is the frame of a sending task of its own
(`frame_of_hands`), and one that a receiving task hands on is the packet of a reply of its own
(`replyTo_of_delivered`). -/

namespace Tuic

open ByteCodec Transition

/-- The packet a frame is for, as it is on the wire. -/
def Client.Frame.packet? : Client.Frame → Option Server.Packet
  | .packet _ assocId pkt addr _ => some ⟨assocId, pkt, addr.onWire⟩
  | .dissociate _ | .token _ | .heartbeat => none

/-- The random generator does not repeat an id. -/
def Client.Action.isFresh (c : Client.Connection) : Client.Action → Bool
  | .request assocId => assocId ∉ c.assocs.map Client.Association.assocId
  | .associate _ _ | .heartbeat | .send _ _ | .close => true

/-- The same for a step of the two ends. -/
def EndToEnd.DuplexAction.isFresh (s : EndToEnd.Duplex) : EndToEnd.DuplexAction → Bool
  | .client a => a.isFresh s.client
  | .connect _ | .connectStep _ _ | .receive _ | .server _ | .accept _ | .uplink _ _
  | .acceptReply _ | .reply _ _ | .response _ _ => true

/-! ## The associations of the client -/

/-- The associations of a client and the packets they have submitted. -/
structure Client.Connection.Submits (c : Client.Connection) : Prop where
  /-- No two associations have the same id. -/
  nodup : (c.assocs.map Client.Association.assocId).Nodup
  /-- A packet is of an association, and fits. -/
  packets : ∀ (k : Nat) (snd : Client.Send) (p : Server.Packet), c.sends[k]? = some snd →
    snd.frame.packet? = some p →
      p.pkt.length ≤ 65535 ∧ p.assocId ∈ c.assocs.map Client.Association.assocId

namespace Client.Connection

variable {c c' : Connection} {a : Action}

/-- A task of an association goes on, and the ids are what they were. -/
theorem assocIds_goto {b : Nat} {assoc : Association} (hb : c.assocs[b]? = some assoc)
    (pc : AssociatePc) :
    (c.assocs.set b { assoc with pc := pc }).map Association.assocId =
      c.assocs.map Association.assocId := by
  obtain ⟨hlt, heq⟩ := List.getElem?_eq_some_iff.mp hb
  have hlt' : b < (c.assocs.map Association.assocId).length := by rwa [List.length_map]
  have hid : (c.assocs.map Association.assocId)[b] = assoc.assocId := by
    rw [List.getElem_map, heq]
  rw [List.map_set, ← hid, List.set_getElem_self]

/-- **Every step keeps the associations apart**, when the ids are fresh. -/
theorem Submits.step (hs : c.Submits) (hw : All (fun _ snd => snd.Wf c.closed) c.sends)
    (hfresh : a.isFresh c = true) (hfits : a.fitsUdp = true) (h : c.Step a c') : c'.Submits := by
  -- a sending task that was not there is for a frame that is no packet
  have hspawn : ∀ (f : Frame), f.packet? = none → ∀ (k : Nat) (snd : Send) (p : Server.Packet),
      (c.sends ++ [Send.new f])[k]? = some snd → snd.frame.packet? = some p →
      p.pkt.length ≤ 65535 ∧ p.assocId ∈ c.assocs.map Association.assocId := by
    intro f hf k snd p hk hp
    rcases getElem?_append_singleton_cases hk with ⟨-, rfl⟩ | hk
    · rw [show (Send.new f).frame = f from rfl, hf] at hp
      cases hp
    · exact hs.packets k snd p hk hp
  cases h with
  | request assocId =>
    have hnew : assocId ∉ c.assocs.map Association.assocId := of_decide_eq_true hfresh
    have hids : (c.assocs ++ [(⟨assocId, .insert⟩ : Association)]).map Association.assocId =
        c.assocs.map Association.assocId ++ [assocId] := by
      rw [List.map_append]
      rfl
    refine ⟨?_, fun k snd p hk hp => ?_⟩
    · rw [hids]
      exact hs.nodup.append (List.nodup_singleton _) (List.disjoint_singleton.mpr hnew)
    · obtain ⟨hpkt, hmem⟩ := hs.packets k snd p hk hp
      rw [hids]
      exact ⟨hpkt, List.mem_append_left _ hmem⟩
  | insert b assoc hb hpc =>
    have hids := assocIds_goto hb .recv
    exact ⟨hids.symm ▸ hs.nodup, fun k snd p hk hp => hids.symm ▸ hs.packets k snd p hk hp⟩
  | gone b assoc hb hpc =>
    have hids := assocIds_goto hb .remove
    exact ⟨hids.symm ▸ hs.nodup, fun k snd p hk hp => hids.symm ▸ hs.packets k snd p hk hp⟩
  | dissociate b assoc hb hpc =>
    have hids := assocIds_goto hb .dissociate
    exact ⟨hids.symm ▸ hs.nodup, fun k snd p hk hp => hids.symm ▸ hspawn _ rfl k snd p hk hp⟩
  | packet b assoc pkt addr fits hb hpc =>
    refine ⟨hs.nodup, fun k snd p hk hp => ?_⟩
    rcases getElem?_append_singleton_cases hk with ⟨-, rfl⟩ | hk
    · have hpkt : pkt.length ≤ 65535 := of_decide_eq_true hfits
      cases hp
      exact ⟨hpkt, List.mem_map_of_mem (List.mem_of_getElem? hb)⟩
    · exact hs.packets k snd p hk hp
  | heartbeat => exact ⟨hs.nodup, hspawn _ rfl⟩
  | send k outcome snd snd' hk hstep =>
    refine ⟨hs.nodup, fun k' snd₀ p hk' hp => ?_⟩
    rcases getElem?_set_cases hk' with ⟨rfl, rfl⟩ | ⟨-, hk'⟩
    · obtain ⟨-, hframe, -⟩ := (hw k' snd hk).step hstep
      rw [hframe] at hp
      exact hs.packets k' snd p hk hp
    · exact hs.packets k' snd₀ p hk' hp
  | close => exact ⟨hs.nodup, hs.packets⟩

end Client.Connection

namespace EndToEnd.Duplex

variable {cfg : Config} {s s' : Duplex} {C : Duplex → DuplexAction → Prop}

/-- The associations of the client, in every reachable state. -/
theorem submits_of_reachable
    (h : (duplexSystem cfg).ReachableBy (fun s a => a.fitsUdp = true ∧ a.isFresh s = true) s) :
    s.client.Submits := by
  have hinit : (Duplex.new cfg).client.Submits := by
    refine ⟨List.nodup_nil, fun k snd p hk hp => ?_⟩
    have hmem : snd ∈ [Client.Send.new (.token cfg.tokenDigest)] := List.mem_of_getElem? hk
    rw [List.mem_singleton.mp hmem] at hp
    cases hp
  refine h.invariant (I := fun s => s.client.Submits) hinit ?_
  rintro s a s' hr hsubmits ⟨hfits, hfresh⟩ hs
  rcases (step_cases hs).client_cases with heq | ⟨b, rfl, hstep⟩
  · exact heq ▸ hsubmits
  · have hwf := (fed_of_reachable hr).sends.mono fun _ _ _ h => h.1
    exact hsubmits.step hwf hfresh hfits hstep

/-! ## To the server -/

/-- Only the frame of a packet has the command of one. -/
theorem frame_eq_packet {f : Client.Frame} {assocId : UInt32} {len : UInt16} {addr : Address}
    (h : .packet assocId len addr = f.cmd.onWire) :
    ∃ mode pkt addr' fits, f = .packet mode assocId pkt addr' fits ∧
      len = UInt16.ofNat pkt.length ∧ addr = addr'.onWire := by
  cases f with
  | packet mode assocId' pkt addr' fits =>
    cases h
    exact ⟨mode, pkt, addr', fits, rfl, rfl, rfl⟩
  | dissociate assocId' => cases h
  | token tokenDigest => cases h
  | heartbeat => cases h

/-- The frame of a packet is its header and its payload. -/
theorem bytes_eq (mode : Client.UdpRelayMode) (assocId : UInt32) (pkt : Bytes) {addr : Address}
    (fits : addr.Fits) :
    ∃ header, (Client.Frame.packet mode assocId pkt addr fits).bytes = header ++ pkt ∧
      (Command.packet assocId (UInt16.ofNat pkt.length) addr.onWire).serializedLen =
        header.length := by
  refine ⟨_, bytes_packet mode fits, ?_⟩
  rw [← Command.length_writeToBuf]
  exact congrArg List.length
    (Command.writeToBuf_onWire (.packet assocId (UInt16.ofNat pkt.length) addr))

/-- **A packet that is handed over is the frame that was sent**, with its payload and its address.
-/
theorem frame_of_hands {closed closed' : Bool} {snd : Client.Send} {t : Server.Task}
    {p : Server.Packet} (hw : snd.Wf closed) (hwhole : snd.Whole)
    (hfeeds : Feeds closed'
      ⟨snd.frame.channel.source, snd.frame.cmd, snd.sent, snd.finished⟩ t)
    (hpkt : ∀ q, snd.frame.packet? = some q → q.pkt.length ≤ 65535)
    (hands : Server.Hands t.source t.recv.data p) : snd.frame.packet? = some p := by
  obtain ⟨len, hc, hp⟩ := hands
  obtain ⟨mode, pkt, addr, fits, hframe, rfl, haddr⟩ :=
    frame_eq_packet (hfeeds.carries (wf_of_send hw hwhole) hc)
  have hle := hpkt ⟨p.assocId, pkt, addr.onWire⟩ (by rw [hframe]; rfl)
  obtain ⟨header, hbytes, hheader⟩ := bytes_eq mode p.assocId pkt fits
  rw [← hframe] at hbytes
  rw [← haddr] at hheader
  -- all of the frame has arrived, so the payload is what stands behind the header
  have hall : t.recv.data = snd.frame.bytes := by
    rw [hfeeds.source] at hp
    cases hsrc : snd.frame.channel with
    | datagram =>
      have hsource : snd.frame.channel.source = .datagram := by rw [hsrc]; rfl
      obtain ⟨hdata, hne⟩ := hfeeds.datagram hsource
      exact hdata.trans ((hwhole hsrc).2.resolve_left hne)
    | uniStream =>
      have hsource : snd.frame.channel.source = .uniStream := by rw [hsrc]; rfl
      simp only [hsource] at hp
      have hlen := hp.1
      rw [hheader, toNat_length hle] at hlen
      refine (hfeeds.data.trans hw.begins).eq_of_length_le ?_
      rw [hbytes, List.length_append]
      exact hlen
  have hpayload : p.pkt = pkt := by
    rw [hall, hbytes, hheader, List.drop_left, toNat_length hle, List.take_length] at hp
    cases hsrc : t.source with
    | uniStream =>
      rw [hsrc] at hp
      exact hp.2
    | datagram =>
      rw [hsrc] at hp
      exact hp
    | biStream =>
      rw [hsrc] at hp
      exact hp.elim
  rw [hframe, ← hpayload]
  show some (Server.Packet.mk p.assocId p.pkt addr.onWire) = some p
  rw [← haddr]

/-- A `CONNECT` hands over no packet. -/
theorem not_hands_connect {closed : Bool} {c : Client.Connect} {t : Server.Task} {p : Server.Packet}
    (hs : c.Sound) (hfeeds : Feeds closed ⟨.biStream, .connect c.addr, c.sent, c.finished⟩ t) :
    ¬ Server.Hands t.source t.recv.data p := by
  rintro ⟨len, hc, -⟩
  cases hfeeds.carries (wf_of_connect hs) hc

/-- The packet of a handler is that of the sending task it comes from. -/
theorem send_of_hands
    (h : (duplexSystem cfg).ReachableBy (fun s a => a.fitsUdp = true ∧ a.isFresh s = true) s)
    {i : Nat} {t : Server.Task} {p : Server.Packet} (hi : s.server.tasks[i]? = some t)
    (hands : Server.Hands t.source t.recv.data p) :
    ∃ (k : Nat) (snd : Client.Send), s.origin[i]? = some (.send k) ∧
      s.client.sends[k]? = some snd ∧ snd.frame.packet? = some p := by
  have hf := fed_of_reachable h
  obtain ⟨o, out, ho, hout, hfeeds⟩ := hf.handler i t hi
  cases o with
  | send k =>
    obtain ⟨snd, hk, rfl⟩ := Option.map_eq_some_iff.mp hout
    obtain ⟨hw, hwhole⟩ := hf.sends k snd hk
    have hpkt := fun q hq => ((submits_of_reachable h).packets k snd q hk hq).1
    exact ⟨k, snd, ho, hk, frame_of_hands hw hwhole hfeeds hpkt hands⟩
  | connect j =>
    obtain ⟨c, hj, rfl⟩ := Option.map_eq_some_iff.mp hout
    exact absurd hands (not_hands_connect (hf.connects j c hj) hfeeds)

/-- **Every packet that was handed over was submitted**, and no two of them are the same submission.
-/
theorem queued_subperm
    (h : (duplexSystem cfg).ReachableBy (fun s a => a.fitsUdp = true ∧ a.isFresh s = true) s) :
    s.server.conn.udpSessions.queuedPackets.Subperm
      (s.client.sends.filterMap fun snd => snd.frame.packet?) := by
  have hf := fed_of_reachable h
  have hqueued := Server.Established.queued_of_reachable (server_reachable h)
  -- the sending task of a handler, of which there is one at most
  have hsource : Matched
      (fun k p => ∃ snd, s.client.sends[k]? = some snd ∧ snd.frame.packet? = some p)
      s.server.conn.udpSessions.queuedPackets := by
    refine hqueued.reindex (Q := fun i k => s.origin[i]? = some (.send k)) ?_ ?_
    · exact fun i j k hi hj => index_unique hf.nodup hi hj
    · rintro i p ⟨t, hi, -, hands⟩
      obtain ⟨k, snd, ho, hk, hp⟩ := send_of_hands h hi hands
      exact ⟨k, ho, snd, hk, hp⟩
  refine hsource.subperm (fun snd : Client.Send => snd.frame.packet?) ?_
  rintro k p ⟨snd, hk, hp⟩
  rw [hk]
  exact hp

/-! ## To the client -/

/-- **What a receiving task hands on is the packet of its reply.** -/
theorem replyTo_of_delivered (h : (duplexSystem cfg).ReachableBy (fun _ a => a.fitsUdp = true) s)
    {taken : List Server.Reply} (htaken : s.server.Replied taken) {j : Nat}
    {x : Nat × Bytes × Address} (hx : s.DeliveredBy j x) :
    ∃ k r, s.replyOf[j]? = some k ∧ taken[k]? = some r ∧
      s.client.assocs[x.1]?.map Client.Association.assocId = some r.assocId ∧
      x.2 = (r.pkt, r.addr.onWire) := by
  obtain ⟨t, assocId, hj, -, hparse, ha⟩ := hx
  obtain ⟨k, hk, hreads⟩ := (replying_of_reachable h).reads j t hj
  obtain ⟨r, hr, hdata, hfinished⟩ := hreads.reply htaken
  obtain ⟨hpkt, hfits⟩ := taken_fits h htaken hr
  refine ⟨k, r, hk, hr, ?_⟩
  rcases parse_cases hpkt hfits hdata fun hch => hfinished (hreads.datagram hch) with
    hok | ⟨err, herr, -⟩
  · rw [hok] at hparse
    obtain ⟨hid, hpair⟩ := Prod.mk.inj (Except.ok.inj hparse)
    exact ⟨hid ▸ ha, hpair.symm⟩
  · rw [herr] at hparse
    cases hparse

/-- The datagrams that were put into the receive channels are those of replies, no two the same. -/
theorem delivered_subperm (h : (duplexSystem cfg).ReachableBy (fun _ a => a.fitsUdp = true) s)
    {taken : List Server.Reply} (htaken : s.server.Replied taken) :
    (s.receiving.delivered.map fun x =>
        (s.client.assocs[x.1]?.map Client.Association.assocId, x.2)).Subperm
      (taken.map fun r => (some r.assocId, r.pkt, r.addr.onWire)) := by
  have hreplying := replying_of_reachable h
  have hreply : Matched (fun k (y : Option UInt32 × Bytes × Address) => ∃ r, taken[k]? = some r ∧
      y = (some r.assocId, r.pkt, r.addr.onWire))
      (s.receiving.delivered.map fun x =>
        (s.client.assocs[x.1]?.map Client.Association.assocId, x.2)) := by
    have hmap : Matched (fun j (y : Option UInt32 × Bytes × Address) =>
        ∃ k r, s.replyOf[j]? = some k ∧ taken[k]? = some r ∧
          y = (some r.assocId, r.pkt, r.addr.onWire))
        (s.receiving.delivered.map fun x =>
          (s.client.assocs[x.1]?.map Client.Association.assocId, x.2)) := by
      refine hreplying.delivered.map _ fun j x hx => ?_
      obtain ⟨k, r, hk, hr, hid, hpair⟩ := replyTo_of_delivered h htaken hx
      exact ⟨k, r, hk, hr, by rw [hid, hpair]⟩
    refine hmap.reindex (Q := fun j k => s.replyOf[j]? = some k) ?_ ?_
    · exact fun i j k hi hj => index_unique hreplying.nodup hi hj
    · rintro j y ⟨k, r, hk, hr, hy⟩
      exact ⟨k, hk, r, hr, hy⟩
  have hall : (taken.map fun r => (some r.assocId, r.pkt, r.addr.onWire)) =
      taken.filterMap fun r => some (some r.assocId, r.pkt, r.addr.onWire) := by
    rw [List.filterMap_eq_map']
  rw [hall]
  refine hreply.subperm _ ?_
  rintro k y ⟨r, hr, rfl⟩
  rw [hr]
  rfl

/-! ## Isolation -/

/-- What the associations of the client have submitted, as it is on the wire: the id of the
association, the payload, and the destination. -/
def submitted (s : Duplex) : List (Option UInt32 × Bytes × Address) :=
  (s.client.sends.filterMap fun snd => snd.frame.packet?).map fun p =>
    (some p.assocId, p.pkt, p.addr)

/-- What the sockets of the server have emitted: the id of the association that the socket was
created for, the payload, and the destination. -/
def emitted (s : Duplex) : List (Option UInt32 × Bytes × Address) :=
  s.server.conn.udpSessions.sentBy.map fun e => (s.server.conn.udpSessions.assocOf e.1, e.2)

/-- What they have received: the id of the association that the socket was created for, the payload,
and the source. -/
def receptions (s : Duplex) : List (Option UInt32 × Bytes × Address) :=
  s.server.conn.udpSessions.receivedBy.map fun e =>
    (s.server.conn.udpSessions.assocOf e.1, e.2.1, .socketAddress e.2.2)

/-- What was put into the receive channels of the associations: the id of the association, the
payload, and the source. -/
def deliveries (s : Duplex) : List (Option UInt32 × Bytes × Address) :=
  s.receiving.delivered.map fun x => (s.client.assocs[x.1]?.map Client.Association.assocId, x.2)

/-- What was emitted is some of what was submitted. -/
theorem emitted_subperm
    (h : (duplexSystem cfg).ReachableBy (fun s a => a.fitsUdp = true ∧ a.isFresh s = true) s) :
    s.emitted.Subperm s.submitted :=
  (Server.Established.sent_subperm (server_reachable h)).trans (subperm_map (queued_subperm h) _)

/-- What was delivered is some of what was received. -/
theorem deliveries_subperm
    (h : (duplexSystem cfg).ReachableBy (fun _ a => a.fitsUdp = true) s) :
    s.deliveries.Subperm (s.receptions.map fun x => (x.1, x.2.1, x.2.2.onWire)) := by
  obtain ⟨taken, htaken⟩ := Server.Established.replied_of_reachable (server_reachable h)
  have hreceived := subperm_map htaken.accounts.taken_subperm
    fun x : Option UInt32 × Bytes × Address => (x.1, x.2.1, x.2.2.onWire)
  rw [List.map_map, List.map_map] at hreceived
  exact (delivered_subperm h htaken).trans hreceived

/-- **UDP relay isolation.** When no id is drawn twice and UDP datagrams carry at most 65535 bytes,
in every reachable state, for every number of associations and in either relay mode:

* no two associations have the same id, and what was submitted is of one of them;
* what was emitted is, as a multiset, some of what was submitted, by sockets of the same
  association;
* what was delivered is, as a multiset, some of what was received by sockets of the same
  association, but for the flow information and the scope of an IPv6 source, which are not on the
  wire. -/
theorem udp_isolation (cfg : Config) (s : Duplex)
    (h : (duplexSystem cfg).ReachableBy (fun s a => a.fitsUdp = true ∧ a.isFresh s = true) s) :
    (s.client.assocs.map Client.Association.assocId).Nodup ∧
    (∀ x ∈ s.submitted, ∃ assoc ∈ s.client.assocs, x.1 = some assoc.assocId) ∧
    s.emitted.Subperm s.submitted ∧
    s.deliveries.Subperm (s.receptions.map fun x => (x.1, x.2.1, x.2.2.onWire)) := by
  have hsubmits := submits_of_reachable h
  refine ⟨hsubmits.nodup, fun x hx => ?_, emitted_subperm h,
    deliveries_subperm (h.mono fun _ _ hC => hC.1)⟩
  obtain ⟨p, hp, rfl⟩ := List.mem_map.mp hx
  obtain ⟨snd, hsnd, hp⟩ := List.mem_filterMap.mp hp
  obtain ⟨k, hk⟩ := List.mem_iff_getElem?.mp hsnd
  obtain ⟨assoc, hassoc, hid⟩ := List.mem_map.mp (hsubmits.packets k snd p hk hp).2
  exact ⟨assoc, hassoc, by rw [hid]⟩

/-- A run in which both conditions hold at every step. -/
theorem exists_reachable_of_echo (source : SocketAddr) (p : Duplex → Bool)
    (hrun : ((duplexSystem (sample .native)).runBy (fun s a => a.fitsUdp && a.isFresh s)
      (duplexSystem (sample .native)).init (echo [9] source)).any p = true) :
    ∃ s, (duplexSystem (sample .native)).ReachableBy
      (fun s a => a.fitsUdp = true ∧ a.isFresh s = true) s ∧ p s = true := by
  obtain ⟨s, hs, hp⟩ := System.exists_reachableBy_of_runBy (duplexSystem (sample .native))
    (fun s a => a.fitsUdp && a.isFresh s) (echo [9] source) p hrun
  exact ⟨s, hs.mono fun _ _ hC => Bool.and_eq_true_iff.mp hC, hp⟩

/-- The theorem in a run in which a packet is emitted and another one is delivered. -/
theorem udp_isolation_echo :
    ∃ s, (duplexSystem (sample .native)).ReachableBy
        (fun s a => a.fitsUdp = true ∧ a.isFresh s = true) s ∧
      s.emitted.length = 1 ∧ s.deliveries.length = 1 ∧ s.emitted.Subperm s.submitted := by
  obtain ⟨s, hs, hp⟩ := exists_reachable_of_echo (.v4 ⟨1, 2, 3, 4⟩ 53)
    (fun s => decide (s.emitted.length = 1 ∧ s.deliveries.length = 1)) (by decide)
  obtain ⟨hemitted, hdelivered⟩ := of_decide_eq_true hp
  exact ⟨s, hs, hemitted, hdelivered, (udp_isolation (sample .native) s hs).2.2.1⟩

/-- **The scope of a source is lost.** A datagram from a link-local IPv6 address is delivered with a
source from which no socket has received. -/
theorem not_received_scope :
    ∃ s, (duplexSystem (sample .native)).ReachableBy
        (fun s a => a.fitsUdp = true ∧ a.isFresh s = true) s ∧
      ∃ x ∈ s.deliveries, x ∉ s.receptions := by
  obtain ⟨s, hs, hp⟩ := exists_reachable_of_echo
    (.v6 ⟨0xfe80, 0, 0, 0, 0, 0, 0, 1⟩ 53 0 2)
    (fun s => decide (∃ x ∈ s.deliveries, x ∉ s.receptions)) (by decide)
  exact ⟨s, hs, of_decide_eq_true hp⟩

end EndToEnd.Duplex

end Tuic
