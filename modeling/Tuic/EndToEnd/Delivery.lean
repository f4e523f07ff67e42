import Tuic.EndToEnd.Isolation
import Tuic.Server.Delivery
import Tuic.Server.Entries

/-! # Nothing is lost from end to end

`Isolation` says that what the sockets of the server emit was submitted by the associations of the
client, no datagram twice. This file says that nothing is missing once everything has come to rest
(`Settled`): when the connection lasts, QUIC has delivered everything and no operation on a socket
failed, what was emitted is what was submitted (`emitted_perm_submitted`).

It takes no second look at the packets. As a multiset, what was emitted is a part of what was put
into the channels, and that is a part of what was submitted; so it is enough to count. The count
goes the other way: every packet that was submitted has a handler of its own, which at rest has come
back from it (`Settled.handedOver`), every such handler has put a packet into a channel, and the
channels are empty. -/

namespace Tuic

open ByteCodec Transition

namespace EndToEnd

/-- No operation on a socket of the server fails. -/
def DuplexAction.isSmooth (s : Duplex) : DuplexAction → Bool
  | .server a => s.server.isSmooth a
  | .client _ | .connect _ | .connectStep _ _ | .receive _ | .accept _ | .uplink _ _
  | .acceptReply _ | .reply _ _ | .response _ _ => true

namespace Duplex

variable {cfg : Config} {s s' : Duplex} {a : DuplexAction} {C : Duplex → DuplexAction → Prop}

/-! ## At rest -/

/-- **At rest, as far as the sending tasks of the client are concerned**: everything they have to
send was sent and has arrived, and the server can do nothing more about it. The `CONNECT`s, the
replies and the heartbeats to come are not part of this. -/
structure Settled (cfg : Config) (s : Duplex) : Prop where
  /-- The connection lasts. -/
  isOpen : s.server.conn.controller = none
  /-- Every sending task has written its frame. -/
  written : ∀ snd ∈ s.client.sends, snd.sent = snd.frame.bytes
  /-- Every stream and every datagram has got to the server. -/
  arrived : ∀ k, k < s.client.sends.length → .send k ∈ s.origin
  /-- It has arrived with all its bytes and its end. -/
  delivered : ∀ (i k : Nat) (snd : Client.Send) (t : Server.Task), s.origin[i]? = some (.send k) →
    s.client.sends[k]? = some snd → s.server.tasks[i]? = some t →
      t.recv.data = snd.sent ∧ t.recv.status ≠ .receiving
  /-- Its handler cannot go on. -/
  handlers : ∀ (i k : Nat) (outcome : Server.Outcome), s.origin[i]? = some (.send k) →
    (Server.connectionSystem cfg.server).step s.server (.task i outcome) = none
  /-- No session has a packet to take or to send. -/
  sessions : ∀ sid,
    (Server.connectionSystem cfg.server).step s.server (.session sid .take) = none ∧
      (Server.connectionSystem cfg.server).step s.server (.session sid (.sendTo true)) = none

/-- The client has a task that sends its token. -/
theorem token_of_reachable (h : (duplexSystem cfg).ReachableBy C s) :
    ∃ (k : Nat) (snd : Client.Send),
      s.client.sends[k]? = some snd ∧ snd.frame = .token cfg.tokenDigest := by
  refine h.invariant (I := fun s => ∃ (k : Nat) (snd : Client.Send),
    s.client.sends[k]? = some snd ∧ snd.frame = .token cfg.tokenDigest) ⟨0, _, rfl, rfl⟩ ?_
  rintro s a s' hr ⟨k, snd, hk, hframe⟩ _ hs
  rcases (step_cases hs).client_cases with heq | ⟨b, -, hstep⟩
  · rw [heq]
    exact ⟨k, snd, hk, hframe⟩
  · obtain ⟨snd', hk', heq | ⟨outcome, hsend⟩⟩ := hstep.send_keep hk
    · exact ⟨k, snd', hk', heq ▸ hframe⟩
    · have hw := ((fed_of_reachable hr).sends k snd hk).1
      exact ⟨k, snd', hk', (hw.step hsend).2.1.trans hframe⟩

namespace Settled

/-- The handler of a sending task has the whole frame, and carries its command. -/
theorem carries (h : s.Settled cfg) {i k : Nat} {snd : Client.Send} {t : Server.Task}
    (ho : s.origin[i]? = some (.send k)) (hk : s.client.sends[k]? = some snd)
    (ht : s.server.tasks[i]? = some t) :
    t.recv.data = snd.frame.bytes ∧ Server.Carries t.recv.data snd.frame.cmd.onWire := by
  have hdata : t.recv.data = snd.frame.bytes :=
    (h.delivered i k snd t ho hk ht).1.trans (h.written snd (List.mem_of_getElem? hk))
  obtain ⟨rest, hrest⟩ := snd.frame.cmd_prefix_bytes
  refine ⟨hdata, ?_⟩
  rw [hdata, ← hrest]
  exact Server.Carries.of_writeToBuf snd.frame.cmd_fits rest

/-- The handler of a sending task has returned, or is parked without a wake pending. -/
theorem task_cases (h : s.Settled cfg) (hr : (duplexSystem cfg).ReachableBy C s) {i k : Nat}
    {snd : Client.Send} {t : Server.Task} (ho : s.origin[i]? = some (.send k))
    (hk : s.client.sends[k]? = some snd) (ht : s.server.tasks[i]? = some t) :
    t.pc = .done ∨ ∃ cmd, t.pc = .parked cmd ∧ .handler i ∉ s.server.conn.woken := by
  have hroom : ∀ (sid : Server.SessionId) (ses : Server.UdpSession),
      s.server.conn.udpSessions.sessions[sid]? = some ses → ses.running = true →
        ses.queue = [] := by
    intro sid ses hses hrun
    have hpending := Server.Established.pending_eq_nil hses hrun (h.sessions sid).1
      (h.sessions sid).2
    exact (List.append_eq_nil_iff.mp hpending).2
  rcases Server.Established.handler_at_rest (server_reachable hr) ht
    (h.delivered i k snd t ho hk ht).2 (fun outcome => h.handlers i k outcome ho) hroom with
    hret | hparked
  · refine Or.inl ?_
    cases hpc : t.pc with
    | done => rfl
    | failed err =>
      -- it would have closed the connection
      exact absurd h.isOpen
        (Server.Established.closed_of_failed (server_reachable hr) i t ht err hpc)
    | _ => simp [Server.Task.returned, hpc] at hret
  · exact Or.inr hparked

/-- The client is authenticated. -/
theorem authenticated (h : s.Settled cfg) (hr : (duplexSystem cfg).ReachableBy C s)
    (htoken : cfg.tokenDigest ∈ cfg.server.token) :
    s.server.conn.isAuthenticated.isAuthenticated = true := by
  have hf := fed_of_reachable hr
  obtain ⟨k, snd, hk, hframe⟩ := token_of_reachable hr
  obtain ⟨i, ho⟩ := List.mem_iff_getElem?.mp (h.arrived k (List.getElem?_eq_some_iff.mp hk).1)
  obtain ⟨snd', t, hk', ht, hfeeds⟩ := hf.handler_of_send ho
  rw [hk] at hk'
  cases hk'
  have hcarries := (h.carries ho hk ht).2
  have hsource := hfeeds.source
  have hsound := (Server.Established.sound_of_reachable (server_reachable hr) i t ht).2
  rw [hframe] at hcarries hsource
  rcases h.task_cases hr ho hk ht with hdone | ⟨cmd, hparked, -⟩
  · rw [hdone] at hsound
    exact hsound.choose_spec.2.1
  · -- its own handler does not wait at the barrier
    rw [hparked] at hsound
    cases hsound.1.unique hcarries
    have hawait : Server.Pc.ofCommand cfg.server.token t.source
        (.authenticate cfg.tokenDigest) = .await (.authenticate cfg.tokenDigest) := hsound.2
    have hset : Server.Pc.ofCommand cfg.server.token .uniStream
        (.authenticate cfg.tokenDigest) = .setAuthenticated := if_pos htoken
    rw [show t.source = .uniStream from hsource, hset] at hawait
    cases hawait

/-- **The handler of every sending task has returned.** -/
theorem handler_done (h : s.Settled cfg) (hr : (duplexSystem cfg).ReachableBy C s)
    (htoken : cfg.tokenDigest ∈ cfg.server.token) {i k : Nat} {snd : Client.Send}
    {t : Server.Task} (ho : s.origin[i]? = some (.send k)) (hk : s.client.sends[k]? = some snd)
    (ht : s.server.tasks[i]? = some t) : t.pc = .done := by
  have hf := fed_of_reachable hr
  rcases h.task_cases hr ho hk ht with hdone | ⟨cmd, hparked, hwoken⟩
  · exact hdone
  exfalso
  -- with the flag set, the handler is woken, or the one that is to wake it can go on
  rcases Server.Established.drained_of_reachable (server_reachable hr) (h.authenticated hr htoken)
    with ⟨j, u, hj, hwake⟩ | hall
  · have hsound := (Server.Established.sound_of_reachable (server_reachable hr) j u hj).2
    rw [hwake] at hsound
    obtain ⟨o, out, hoj, hout, hfeeds⟩ := hf.handler j u hj
    cases o with
    | send k' =>
      obtain ⟨snd', hk', -⟩ := Option.map_eq_some_iff.mp hout
      rcases h.task_cases hr hoj hk' hj with hdone | ⟨cmd', hparked', -⟩
      · rw [hwake] at hdone
        cases hdone
      · rw [hwake] at hparked'
        cases hparked'
    | connect j' =>
      -- that one has a unidirectional stream
      obtain ⟨c, -, rfl⟩ := Option.map_eq_some_iff.mp hout
      have hsource := hfeeds.source
      rw [hsound.2.1] at hsource
      cases hsource
  · exact hwoken (hall i ⟨t, cmd, ht, hparked⟩)

/-- **Every packet was handed over**: its handler has come back from it. -/
theorem handedOver (h : s.Settled cfg) (hr : (duplexSystem cfg).ReachableBy C s)
    (htoken : cfg.tokenDigest ∈ cfg.server.token) {k : Nat} {snd : Client.Send}
    {p : Server.Packet} (hk : s.client.sends[k]? = some snd) (hp : snd.frame.packet? = some p)
    (hpkt : p.pkt.length ≤ 65535) :
    ∃ (i : Nat) (t : Server.Task), s.origin[i]? = some (.send k) ∧ s.server.tasks[i]? = some t ∧
      t.HandedOver := by
  have hf := fed_of_reachable hr
  obtain ⟨i, ho⟩ := List.mem_iff_getElem?.mp (h.arrived k (List.getElem?_eq_some_iff.mp hk).1)
  obtain ⟨snd', t, hk', ht, hfeeds⟩ := hf.handler_of_send ho
  rw [hk] at hk'
  cases hk'
  obtain ⟨hdata, hcarries⟩ := h.carries ho hk ht
  refine ⟨i, t, ho, ht, h.handler_done hr htoken ho hk ht, ?_, ?_⟩
  · cases hframe : snd.frame with
    | packet mode assocId pkt addr fits =>
      rw [hframe] at hdata hcarries hp
      cases hp
      refine ⟨assocId, UInt16.ofNat pkt.length, addr.onWire, hcarries, fun _ _ => ?_⟩
      obtain ⟨header, hbytes, hlen⟩ := bytes_eq mode assocId pkt fits
      rw [hdata, hbytes, hlen, toNat_length hpkt, List.length_append]
    | dissociate assocId =>
      rw [hframe] at hp
      cases hp
    | token digest =>
      rw [hframe] at hp
      cases hp
    | heartbeat =>
      rw [hframe] at hp
      cases hp
  · intro hfailed
    have hclosed := hfeeds.failed hfailed
    rw [h.isOpen] at hclosed
    cases hclosed

end Settled

/-! ## Counting -/

/-- At rest, no fewer packets were put into the channels than were submitted. -/
theorem Settled.submitted_le (h : s.Settled cfg) (hr : (duplexSystem cfg).ReachableBy C s)
    (htoken : cfg.tokenDigest ∈ cfg.server.token) (hsubmits : s.client.Submits)
    (hserver : s.server.Accounted) :
    (s.client.sends.filterMap fun snd => snd.frame.packet?).length ≤
      s.server.conn.udpSessions.queuedPackets.length := by
  obtain ⟨owners, hlen, howners⟩ := hserver
  -- the tasks that send a packet, each with its handler among the owners
  let senders := s.client.sends.findIdxs fun snd => snd.frame.packet?.isSome
  have hsenders : (senders.map Origin.send).Subperm (owners.filterMap fun i => s.origin[i]?) := by
    refine List.subperm_of_subset (List.nodup_findIdxs.map fun _ _ heq => by cases heq; rfl) ?_
    intro o ho
    obtain ⟨k, hk, rfl⟩ := List.mem_map.mp ho
    obtain ⟨hlt, hsome⟩ := List.mem_findIdxs_iff_exists_getElem_pos.mp hk
    obtain ⟨p, hp⟩ := Option.isSome_iff_exists.mp hsome
    have hsnd := List.getElem?_eq_getElem hlt
    obtain ⟨i, t, hi, ht, hover⟩ :=
      h.handedOver hr htoken hsnd hp (hsubmits.packets k _ p hsnd hp).1
    exact List.mem_filterMap.mpr ⟨i, howners i t ht hover, hi⟩
  calc (s.client.sends.filterMap fun snd => snd.frame.packet?).length
      = senders.length := by rw [List.length_filterMap_eq_countP, List.length_findIdxs]
    _ = (senders.map Origin.send).length := (List.length_map _).symm
    _ ≤ (owners.filterMap fun i => s.origin[i]?).length := hsenders.length_le
    _ ≤ owners.length := List.length_filterMap_le _ _
    _ ≤ s.server.conn.udpSessions.queuedPackets.length := hlen

/-- At rest, no fewer datagrams were emitted than were submitted. -/
theorem Settled.length_submitted_le (hrest : s.Settled cfg)
    (htoken : cfg.tokenDigest ∈ cfg.server.token)
    (h : (duplexSystem cfg).ReachableBy
      (fun s a => a.fitsUdp = true ∧ a.isFresh s = true ∧ a.isSmooth s = true) s) :
    s.submitted.length ≤ s.emitted.length := by
  have hfresh : (duplexSystem cfg).ReachableBy
      (fun s a => a.fitsUdp = true ∧ a.isFresh s = true) s := h.mono fun _ _ hC => ⟨hC.1, hC.2.1⟩
  have hsmooth : (Server.connectionSystem cfg.server).ReachableBy
      (fun s a => s.isSmooth a = true) s.server :=
    server_of_reachable h (fun _ _ hC => hC.2.2) (fun _ _ => rfl) fun _ _ _ => rfl
  calc s.submitted.length
      = (s.client.sends.filterMap fun snd => snd.frame.packet?).length := List.length_map _
    _ ≤ s.server.conn.udpSessions.queuedPackets.length :=
      hrest.submitted_le h htoken (submits_of_reachable hfresh)
        (Server.Established.accounted_of_reachable hsmooth)
    _ = s.server.conn.udpSessions.sentBy.length :=
      Server.Established.sent_of_idle hsmooth hrest.sessions
    _ = s.emitted.length := (List.length_map _).symm

/-- **UDP packets are relayed exactly once.** Every poll of the barrier is one step here, so that no
handler is left behind by a lost wake-up. With a token of the server, in every run in which no id is
drawn twice, UDP datagrams carry at most 65535 bytes and no operation on a socket of the server
fails, for any number of associations, in either relay mode and however the tasks are interleaved:
once everything that the client has to send has arrived and the server has nothing more to do about
it, while the connection lasts, the datagrams that the sockets of the server have emitted are, as a
multiset, those that the associations of the client have submitted, each by a socket of its
association. -/
theorem emitted_perm_submitted (cfg : Config) (htoken : cfg.tokenDigest ∈ cfg.server.token)
    (s : Duplex)
    (h : (duplexSystem cfg).ReachableBy
      (fun s a => a.fitsUdp = true ∧ a.isFresh s = true ∧ a.isSmooth s = true) s)
    (hrest : s.Settled cfg) : s.emitted.Perm s.submitted := by
  have hpart : s.emitted.Subperm s.submitted :=
    emitted_subperm (h.mono fun _ _ hC => ⟨hC.1, hC.2.1⟩)
  exact hpart.perm_of_length_le (hrest.length_submitted_le htoken h)

/-- Where everything has arrived and every handler has returned, the two ends are at rest. -/
theorem Settled.of_done (hopen : s.server.conn.controller = none)
    (hwritten : ∀ snd ∈ s.client.sends, snd.sent = snd.frame.bytes)
    (harrived : ∀ k < s.client.sends.length, .send k ∈ s.origin)
    (hdelivered : ∀ i < s.origin.length, ∀ o ∈ s.origin[i]?, ∀ out ∈ s.outgoing o,
      ∀ t ∈ s.server.tasks[i]?, t.recv.data = out.sent ∧ t.recv.status ≠ .receiving)
    (hdone : ∀ t ∈ s.server.tasks, t.pc = .done)
    (hidle : ∀ ses ∈ s.server.conn.udpSessions.sessions, ses.pending = []) : s.Settled cfg := by
  refine ⟨hopen, hwritten, harrived, ?_, ?_, Server.Established.idle_of_pending hidle⟩
  · intro i k snd t ho hk ht
    have hlt := (List.getElem?_eq_some_iff.mp ho).1
    have hout : s.outgoing (.send k) =
        some ⟨snd.frame.channel.source, snd.frame.cmd, snd.sent, snd.finished⟩ := by
      rw [outgoing, hk]
      rfl
    exact hdelivered i hlt _ ho _ hout t ht
  · intro i k outcome _
    cases ht : s.server.tasks[i]? with
    | none => simp [Server.connectionSystem, Server.Established.step, ht]
    | some t =>
      have hpc := hdone t (List.mem_of_getElem? ht)
      simp [Server.connectionSystem, Server.Established.step, ht, Server.Task.step, hpc]

/-- The client authenticates itself and sends two packets, of which the second arrives first. -/
def overtaking : List DuplexAction :=
  authenticate ++ ([.uplink 0 .finish, .client (.request 7), .client (.associate 0 .go),
    .client (.associate 0 (.recv (some ([1], .socketAddress (.v4 ⟨1, 2, 3, 4⟩ 53))))),
    .client (.associate 0 (.recv (some ([2], .socketAddress (.v4 ⟨1, 2, 3, 4⟩ 53))))),
    .client (.send 1 .ok), .client (.send 2 .ok), .accept (.send 2), .accept (.send 1)] ++
    List.replicate 7 (.server (.task 1 .ok)) ++
    [.server (.session 0 .take), .server (.session 0 (.sendTo true))] ++
    List.replicate 5 (.server (.task 2 .ok)) ++
    [.server (.session 0 .take), .server (.session 0 (.sendTo true))])

/-- Both packets are relayed, in the other order. -/
theorem emitted_perm_submitted_overtaking :
    ∃ s, (duplexSystem (sample .native)).Reachable s ∧ s.submitted.length = 2 ∧
      s.emitted ≠ s.submitted ∧ s.emitted.Perm s.submitted := by
  obtain ⟨s, hs, hp⟩ := System.exists_reachableBy_of_runBy (duplexSystem (sample .native))
    (fun s a => a.fitsUdp && (a.isFresh s && a.isSmooth s)) overtaking
    (fun s => decide (s.submitted.length = 2 ∧ s.emitted ≠ s.submitted ∧
      s.server.conn.controller = none ∧
      (∀ snd ∈ s.client.sends, snd.sent = snd.frame.bytes) ∧
      (∀ k < s.client.sends.length, Origin.send k ∈ s.origin) ∧
      (∀ i < s.origin.length, ∀ o ∈ s.origin[i]?, ∀ out ∈ s.outgoing o,
        ∀ t ∈ s.server.tasks[i]?, t.recv.data = out.sent ∧ t.recv.status ≠ .receiving) ∧
      (∀ t ∈ s.server.tasks, t.pc = .done) ∧
      ∀ ses ∈ s.server.conn.udpSessions.sessions, ses.pending = [])) (by decide)
  obtain ⟨hlen, hne, hopen, hwritten, harrived, hdelivered, hdone, hidle⟩ := of_decide_eq_true hp
  refine ⟨s, hs.mono fun _ _ _ => trivial, hlen, hne, ?_⟩
  refine emitted_perm_submitted (sample .native) (by decide) s (hs.mono fun _ _ hC => ?_)
    (Settled.of_done hopen hwritten harrived hdelivered hdone hidle)
  simpa using hC

end Duplex

end EndToEnd

end Tuic
