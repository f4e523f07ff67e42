import Tuic.Server.Written
import Tuic.Server.Payload

/-! # From the items of a connection to its sessions

How far a handler has read its item, where it stands (`Task.Placed`), and with it what it hands to
`UdpSessionMap::send`. `queued_of_reachable` says that every packet that was put into the channel of
a session is the packet of an item of its own, with the payload that stands behind its header: no
packet is made up, changed on the way, or put into a channel twice. -/

namespace Tuic.Server

open ByteCodec Transition

/-! ## The packet of an item -/

/-- The item of a handler is this packet: the header, and behind it the payload, of which a stream
may have more behind it. -/
def Hands (src : Source) (data : Bytes) (p : Packet) : Prop :=
  ∃ len, Carries data (.packet p.assocId len p.addr) ∧
    match src with
    | .uniStream => (Command.packet p.assocId len p.addr).serializedLen + len.toNat ≤ data.length ∧
        p.pkt = (data.drop (Command.packet p.assocId len p.addr).serializedLen).take len.toNat
    | .datagram => p.pkt = data.drop (Command.packet p.assocId len p.addr).serializedLen
    | .biStream => False

/-- How far a handler has read its item, where it stands, and what it hands to `send`. -/
def Task.Placed (t : Task) : Prop :=
  match t.pc with
  | .read => t.recv.pos = 0
  | .await cmd | .parked cmd | .dispatch cmd => t.recv.pos = cmd.serializedLen
  | .relay (.readPayload assocId len addr) => t.source = .uniStream ∧
      Carries t.recv.data (.packet assocId len addr) ∧
      t.recv.pos = (Command.packet assocId len addr).serializedLen
  | .relay (.send call) => Hands t.source t.recv.data call.packet
  | _ => True

section Items

variable {token : List Digest} {c c' : Connection} {i : Nat} {t t' : Task} {src : Source}
  {data : Bytes}

/-- More bytes of a stream do not change its packet. -/
theorem Hands.append {p : Packet} (h : Hands src data p) (hsrc : src ≠ .datagram) (x : Bytes) :
    Hands src (data ++ x) p := by
  obtain ⟨len, hc, hp⟩ := h
  refine ⟨len, hc.append x, ?_⟩
  cases src with
  | uniStream =>
    obtain ⟨hlen, hpkt⟩ := hp
    refine ⟨by rw [List.length_append]; omega, ?_⟩
    rw [hpkt, List.drop_append_of_le_length (by omega), List.take_append_of_le_length]
    rw [List.length_drop]
    omega
  | biStream => exact hp.elim
  | datagram => exact absurd rfl hsrc

/-- What a relay task begins with is behind the header of its command. -/
theorem Task.placed_entry {cmd : Command} {task : RelayTask} {recv : RecvStream}
    (hc : Carries recv.data cmd) (hpos : recv.pos = cmd.serializedLen)
    (htask : src.relayTask recv.data cmd = some task) :
    (⟨src, recv, .relay task.entry⟩ : Task).Placed := by
  unfold Source.relayTask at htask
  split at htask
  · cases htask
    exact ⟨rfl, hc, hpos⟩
  · cases htask
    trivial
  · cases htask
    trivial
  · rename_i assocId len addr
    cases htask
    exact ⟨len, hc, rfl⟩
  · cases htask

/-- A relay task reads on behind the header. -/
theorem RelayStep.placed {u u' : Udp} {r : Relay} {events : List Event} {recv' : RecvStream}
    {r' : Option Relay} (hp : t.Placed) (hpc : t.pc = .relay r)
    (h : RelayStep u i t.recv r u' events recv' r') :
    ({ t with recv := recv', pc := .ofRelay r' } : Task).Placed := by
  unfold Task.Placed at hp
  rw [hpc] at hp
  cases h with
  | payload assocId len addr hlen =>
    obtain ⟨hsrc, hc, hpos⟩ := hp
    have hle := hc.serializedLen_le
    rw [RecvStream.unread, hpos, List.length_drop] at hlen
    have hin :
        (Command.packet assocId len addr).serializedLen + len.toNat ≤ t.recv.data.length := by
      omega
    show Hands t.source t.recv.data ⟨assocId, t.recv.unread.take len.toNat, addr⟩
    rw [hsrc, RecvStream.unread, hpos]
    exact ⟨len, hc, hin, rfl⟩
  | send call bindOk u' n hstep =>
    cases n with
    | returned ok => trivial
    | call call' =>
      have hpacket : call'.packet = call.packet := packet_of_sendStep (sendStep_cases hstep)
      show Hands t.source t.recv.data call'.packet
      rw [hpacket]
      exact hp
  | connect pc outcome events recv' pc' hstep => cases pc' <;> trivial
  | noPayload assocId len addr hst => trivial
  | dissociate assocId => trivial

/-- **Every step of a handler reads on where it stands.** -/
theorem TaskStep.placed (h : TaskStep token c i t c' t') (hs : t.Sound token c) (hp : t.Placed) :
    t'.Placed := by
  obtain ⟨-, hpcs⟩ := hs
  cases h with
  | relay r u events recv r' hpc hstep => exact hstep.placed hp hpc
  | decodes cmd rest hpc hread =>
    unfold Task.Placed at hp
    rw [hpc] at hp
    have hpos : t.recv.pos + (t.recv.data.length - rest.length) = cmd.serializedLen := by
      have hlen := (Command.serializedLen_of_readFrom hread).1
      omega
    unfold Task.Placed
    rcases Pc.ofCommand_cases token t.source cmd with h | ⟨-, digest, -, ⟨-, h⟩ | ⟨-, h⟩⟩
    · simp only [h]
      exact hpos
    · simp only [h]
    · simp only [h]
  | poll cmd hpc =>
    have hpos : t.recv.pos = cmd.serializedLen := by
      unfold Task.Placed at hp
      rcases hpc with hpc | ⟨hpc, -⟩ <;> rw [hpc] at hp <;> exact hp
    unfold Task.Placed
    rcases c.poll_cases (.handler i) with ⟨-, hres, -⟩ | ⟨-, -, hres, -⟩ | ⟨-, -, hres, -⟩
    · simp only [hres, Pc.ofPoll]
    · simp only [hres, Pc.ofPoll]
      exact hpos
    · simp only [hres, Pc.ofPoll]
      exact hpos
  | dispatch cmd hpc cell res hres =>
    unfold Task.Placed at hp
    rw [hpc] at hp hpcs
    obtain ⟨hc, hawait, -⟩ := hpcs
    cases dispatch_cases hc hawait hres with
    | packet assocId len addr m task hm hcell htask => exact Task.placed_entry hc hp htask
    | other cmd task hcmd htask => exact Task.placed_entry hc hp htask
    | otherMode assocId len addr m m' hm hcell hne => trivial
    | heartbeat hsrc => trivial
    | notAllowed cmd htask hcmd => trivial
  | readFails err hpc hst => trivial
  | undecodable err hpc hread hst => trivial
  | decoderPanics hpc hread => trivial
  | setAuthenticated hpc => trivial
  | wakeAuthenticated hpc => trivial
  | closeFailed hpc => trivial
  | wakeFailed hpc => trivial
  | fail err hpc => trivial

/-- More bytes of a stream leave a handler where it is. -/
theorem Task.Placed.on {ev : StreamEvent} {recv : RecvStream} (hp : t.Placed)
    (hsrc : t.source ≠ .datagram) (hon : t.recv.on ev = some recv) :
    ({ t with recv := recv } : Task).Placed := by
  obtain ⟨-, hpos, x, hx⟩ := RecvStream.on_cases hon
  unfold Task.Placed at hp ⊢
  cases hpc : t.pc with
  | relay r =>
    rw [hpc] at hp
    cases r with
    | readPayload assocId len addr =>
      obtain ⟨hs, hc, hp⟩ := hp
      refine ⟨hs, ?_, hpos.trans hp⟩
      show Carries recv.data _
      rw [hx]
      exact hc.append x
    | send call =>
      show Hands t.source recv.data call.packet
      rw [hx]
      exact Hands.append hp hsrc x
    | dissociate assocId => trivial
    | connect pc => trivial
  | read =>
    rw [hpc] at hp
    exact hpos.trans hp
  | await cmd =>
    rw [hpc] at hp
    exact hpos.trans hp
  | parked cmd =>
    rw [hpc] at hp
    exact hpos.trans hp
  | dispatch cmd =>
    rw [hpc] at hp
    exact hpos.trans hp
  | _ => trivial

end Items

/-! ## The packets in the channels -/

/-- What a step of a handler puts into the channels of the sessions: nothing, or the packet of its
call, and then it has returned. -/
theorem TaskStep.queued {token : List Digest} {c c' : Connection} {i : Nat} {t t' : Task}
    (h : TaskStep token c i t c' t') :
    c'.udpSessions.queuedPackets = c.udpSessions.queuedPackets ∨
      ∃ call, t.pc = .relay (.send call) ∧ t'.pc = .done ∧
        c'.udpSessions.queuedPackets = c.udpSessions.queuedPackets ++ [call.packet] := by
  cases h with
  | relay r u events recv r' hpc hstep =>
    cases hstep with
    | send call bindOk u' n hsend =>
      have hemit : ∀ (u : Udp) (e : UdpEvent), e.packet? = none →
          (u.emit e).queuedPackets = u.queuedPackets := by
        intro u e he
        rw [Udp.queuedPackets, Udp.filterMap_emit, he, Option.toList_none, List.append_nil]
        rfl
      cases sendStep_cases hsend with
      | queue p sid ses hses hrun =>
        refine Or.inr ⟨_, hpc, rfl, ?_⟩
        show (Udp.emit _ _).queuedPackets = _
        rw [Udp.queuedPackets, Udp.filterMap_emit]
        rfl
      | create p => exact Or.inl (hemit _ _ rfl)
      | insert p sid => exact Or.inl (hemit _ _ rfl)
      | lose p sid ses hses hrun => exact Or.inl (hemit _ _ rfl)
      | hit p sid hl => exact Or.inl rfl
      | miss p hl => exact Or.inl rfl
      | bindFails p => exact Or.inl rfl
    | dissociate assocId =>
      refine Or.inl ?_
      show (Udp.emit _ _).queuedPackets = _
      rw [Udp.queuedPackets, Udp.filterMap_emit]
      exact List.append_nil _
    | payload assocId len addr hlen => exact Or.inl rfl
    | noPayload assocId len addr hst => exact Or.inl rfl
    | connect pc outcome events recv' pc' hstep => exact Or.inl rfl
  | readFails err hpc hst => exact Or.inl rfl
  | decodes cmd rest hpc hread => exact Or.inl rfl
  | undecodable err hpc hread hst => exact Or.inl rfl
  | decoderPanics hpc hread => exact Or.inl rfl
  | setAuthenticated hpc => exact Or.inl rfl
  | wakeAuthenticated hpc => exact Or.inl rfl
  | closeFailed hpc => exact Or.inl rfl
  | wakeFailed hpc => exact Or.inl rfl
  | poll cmd hpc => exact Or.inl rfl
  | dispatch cmd hpc cell res hres => exact Or.inl rfl
  | fail err hpc => exact Or.inl rfl

/-- A session puts nothing into the channels. -/
theorem SessionMove.queued {maxPktSize : Nat} {hasSender : Bool} {u u' : Udp} {sid : SessionId}
    {ses : UdpSession} {st : SessionStep} (h : SessionMove maxPktSize hasSender u sid ses st u') :
    u'.queuedPackets = u.queuedPackets := by
  cases h with
  | sendTo pkt addr hsending =>
    rw [Udp.queuedPackets, Udp.filterMap_emit]
    exact List.append_nil _
  | recvFrom data addr hreceived =>
    rw [Udp.queuedPackets, Udp.filterMap_emit]
    exact List.append_nil _
  | take p queue hsending hqueue => rfl
  | ends st hends => rfl
  | handOn pkt addr hreceived hopen => rfl
  | handOnNowhere pkt addr hreceived hclosed => rfl

namespace Established

variable {cfg : Config} {s s' : Established} {a : Action}

/-- Handler `i` has handed over a packet, which is the packet of its item. -/
def HandedBy (s : Established) (i : Nat) (p : Packet) : Prop :=
  ∃ t, s.tasks[i]? = some t ∧ t.pc = .done ∧ Hands t.source t.recv.data p

/-- A handler that has handed over its packet stays so. -/
theorem Step.handedBy (h : Step cfg s a s') (hs : All (fun _ t => t.Sound cfg.token s.conn) s.tasks)
    {i : Nat} {p : Packet} (hp : s.HandedBy i p) : s'.HandedBy i p := by
  obtain ⟨t, hi, hpc, hp⟩ := hp
  have hother : s'.tasks[i]? = some t → s'.HandedBy i p := fun hi' => ⟨t, hi', hpc, hp⟩
  have hlt := (List.getElem?_eq_some_iff.mp hi).1
  cases h with
  | task j outcome t₀ t' conn hj hstep =>
    by_cases hij : j = i
    · subst hij
      rw [hi] at hj
      cases hj
      -- it has returned, so it makes no step
      cases hstep <;> simp_all
    · exact hother ((List.getElem?_set_ne hij).trans hi)
  | stream j ev t₀ recv hj hon =>
    by_cases hij : j = i
    · subst hij
      rw [hi] at hj
      cases hj
      obtain ⟨hst, -, x, hx⟩ := RecvStream.on_cases hon
      have hsrc : t.source ≠ .datagram := by
        intro hsrc
        rw [(hs j t hi).1 hsrc] at hst
        cases hst
      refine ⟨{ t with recv := recv }, List.getElem?_set_self hlt, hpc, ?_⟩
      show Hands t.source recv.data p
      rw [hx]
      exact hp.append hsrc x
    · exact hother ((List.getElem?_set_ne hij).trans hi)
  | accept st t' b hhandle hfresh => exact hother ((List.getElem?_append_left hlt).trans hi)
  | _ => exact hother hi

/-- Where every handler stands in its item. -/
theorem placed_of_reachable {C : Established → Action → Prop}
    (h : (connectionSystem cfg).ReachableBy C s) : All (fun _ t => t.Placed) s.tasks := by
  refine h.invariant (I := fun s => All (fun _ t => t.Placed) s.tasks) All.nil ?_
  intro s a s' hr hp _ hstep j t' hj
  have hsound := sound_of_reachable hr
  rcases (step_cases hstep).task_cases hj with ⟨hj, -⟩ | ⟨-, hfresh⟩ | ⟨-, t, -, hj, htask⟩ |
    ⟨ev, t, recv, -, hj₀, hon, rfl⟩
  · exact hp j t' hj
  · unfold Task.Placed
    rw [hfresh.1]
    exact hfresh.2.1
  · exact htask.placed (hsound j t hj) (hp j t hj)
  · refine (hp j t hj₀).on (fun hsrc => ?_) hon
    have hst := (RecvStream.on_cases hon).1
    rw [(hsound j t hj₀).1 hsrc] at hst
    cases hst

/-- **Every packet that was put into the channel of a session is the packet of an item of its own.**
-/
theorem queued_of_reachable {C : Established → Action → Prop}
    (h : (connectionSystem cfg).ReachableBy C s) :
    Matched s.HandedBy s.conn.udpSessions.queuedPackets := by
  refine h.invariant (I := fun s => Matched s.HandedBy s.conn.udpSessions.queuedPackets)
    Matched.nil ?_
  intro s a s' hr hm _ hstep
  have hsound := sound_of_reachable hr
  have hstep := step_cases hstep
  have hkeep : ∀ i p, s.HandedBy i p → s'.HandedBy i p := fun i p => hstep.handedBy hsound
  -- most steps put nothing into a channel
  have hsame : s'.conn.udpSessions.queuedPackets = s.conn.udpSessions.queuedPackets →
      Matched s'.HandedBy s'.conn.udpSessions.queuedPackets := by
    intro heq
    rw [heq]
    exact hm.mono hkeep
  cases hstep with
  | task i outcome t t' conn hi htask =>
    rcases htask.queued with heq | ⟨call, hpc, hpc', heq⟩
    · exact hsame heq
    · have hplaced : t.Placed := placed_of_reachable hr i t hi
      unfold Task.Placed at hplaced
      rw [hpc] at hplaced
      obtain ⟨hsrc, hdata, -⟩ := htask.stream_eq
      have hlt := (List.getElem?_eq_some_iff.mp hi).1
      show Matched _ conn.udpSessions.queuedPackets
      rw [heq]
      refine hm.snoc (i := i) (fun p hp => ?_) hkeep ?_
      -- the handler was still in its call, so nothing is put down to it
      · obtain ⟨t₀, hi₀, hdone, -⟩ := hp
        rw [hi] at hi₀
        cases hi₀
        rw [hpc] at hdone
        cases hdone
      · refine ⟨t', List.getElem?_set_self hlt, hpc', ?_⟩
        rw [hsrc, hdata]
        exact hplaced
  | session sid st u hsess =>
    obtain ⟨ses, -, -, hmove⟩ := sessionStep_cases hsess
    exact hsame hmove.queued
  | accept st t b hhandle hfresh => exact hsame rfl
  | receive r rest b hhandle hrecv => exact hsame rfl
  | listenerEnds reason b hhandle hclosed => exact hsame rfl
  | pollPending hhandle hpoll => exact hsame rfl
  | pollReady hhandle res hpoll => exact hsame rfl
  | timeout hhandle => exact hsame rfl
  | timeoutClose hhandle => exact hsame rfl
  | timeoutWake hhandle => exact hsame rfl
  | unreachable hhandle => exact hsame rfl
  | setClosed err hhandle => exact hsame rfl
  | reply k outcome pc pc' events hk hreply => exact hsame rfl
  | stream i ev t recv hi hrecv => exact hsame rfl
  | peerClose err => exact hsame rfl
  | drop hhandle htasks hreplies => exact hsame rfl

/-- A packet that was put into the channel of a session is of the association of the session. -/
theorem queuedFor_map (h : (connectionSystem cfg).Reachable s) :
    (s.conn.udpSessions.queuedFor.map fun e => (s.conn.udpSessions.assocOf e.1, e.2)) =
      s.conn.udpSessions.queuedPackets.map fun p => (some p.assocId, p.pkt, p.addr) := by
  have hwf := UdpPool.wf_of_reachable (udpPool_of_reachable h)
  rw [Udp.queuedFor, Udp.queuedPackets, List.map_filterMap, List.map_filterMap]
  refine List.filterMap_congr fun e he => ?_
  cases e with
  | queued p sid =>
    obtain ⟨ses, hses, hid⟩ := hwf.log p sid (Or.inl (List.mem_reverse.mp he))
    have hassoc : s.conn.udpSessions.assocOf sid = some p.assocId := by
      rw [Udp.assocOf, show s.conn.udpSessions.sessions[sid]? = some ses from hses, Option.map_some,
        hid]
    show some (s.conn.udpSessions.assocOf sid, p.pkt, p.addr) = some (some p.assocId, p.pkt, p.addr)
    rw [hassoc]
  | created sid assocId => rfl
  | inserted assocId sid => rfl
  | removed assocId => rfl
  | lost p sid => rfl
  | sentTo sid pkt addr => rfl
  | receivedFrom sid pkt addr => rfl

/-- **What the sockets sent is among the packets that were handed over**, each by a socket of its
association. -/
theorem sent_subperm (h : (connectionSystem cfg).Reachable s) :
    (s.conn.udpSessions.sentBy.map fun e => (s.conn.udpSessions.assocOf e.1, e.2)).Subperm
      (s.conn.udpSessions.queuedPackets.map fun p => (some p.assocId, p.pkt, p.addr)) := by
  obtain ⟨taken, htaken⟩ := replied_of_reachable h
  rw [← queuedFor_map h]
  exact subperm_map htaken.accounts.sent_subperm _

end Established

end Tuic.Server
