import Tuic.Transition.Account
import Tuic.Server.ConnectionSteps

/-! # What goes through the UDP sessions of a connection

Every session passes packets on in two directions: from its channel to its socket, and from its
socket to the channel of received packets. `Udp.Accounts` says for both directions that nothing
comes out that did not go in, session by session, and `Accounts.step` and `Accounts.take` carry it
through every step of a connection, whatever sessions are created, overwritten, removed or ended
meanwhile.

A packet that is taken out of the channel of received packets is not in the session table any more,
so `Accounts` has the list of those as a parameter. -/

namespace Tuic.Server

open ByteCodec Transition

/-! ## What the log says -/

namespace UdpEvent

/-- What went out of a socket. -/
def sent? : UdpEvent → Option (SessionId × Bytes × Address)
  | .sentTo sid pkt addr => some (sid, pkt, addr)
  | .created _ _ | .inserted _ _ | .removed _ | .queued _ _ | .lost _ _
  | .receivedFrom _ _ _ => none

/-- What went into the channel of a session. -/
def queued? : UdpEvent → Option (SessionId × Bytes × Address)
  | .queued p sid => some (sid, p.pkt, p.addr)
  | .created _ _ | .inserted _ _ | .removed _ | .lost _ _ | .sentTo _ _ _
  | .receivedFrom _ _ _ => none

/-- The packet that went into a channel. -/
def packet? : UdpEvent → Option Packet
  | .queued p _ => some p
  | .created _ _ | .inserted _ _ | .removed _ | .lost _ _ | .sentTo _ _ _
  | .receivedFrom _ _ _ => none

/-- What came in on a socket. -/
def received? : UdpEvent → Option (SessionId × Bytes × SocketAddr)
  | .receivedFrom sid pkt addr => some (sid, pkt, addr)
  | .created _ _ | .inserted _ _ | .removed _ | .queued _ _ | .lost _ _ | .sentTo _ _ _ => none

end UdpEvent

namespace Udp

/-- All that went out of the sockets, in order. -/
def sentBy (u : Udp) : List (SessionId × Bytes × Address) :=
  u.log.reverse.filterMap UdpEvent.sent?

/-- All that went into the channels of the sessions, in order. -/
def queuedFor (u : Udp) : List (SessionId × Bytes × Address) :=
  u.log.reverse.filterMap UdpEvent.queued?

/-- The packets that went into them. -/
def queuedPackets (u : Udp) : List Packet := u.log.reverse.filterMap UdpEvent.packet?

/-- All that came in on the sockets, in order. -/
def receivedBy (u : Udp) : List (SessionId × Bytes × SocketAddr) :=
  u.log.reverse.filterMap UdpEvent.received?

variable (u : Udp) (e : UdpEvent)

/-- One more event is recorded last. -/
theorem filterMap_emit {β : Type} (f : UdpEvent → Option β) :
    (u.emit e).log.reverse.filterMap f = u.log.reverse.filterMap f ++ (f e).toList := by
  rw [emit_log, List.reverse_cons, List.filterMap_append]
  cases h : f e <;> simp [h]

variable {u e}

/-- An event that is about no packet that went out. -/
theorem sentBy_emit (he : e.sent? = none) : (u.emit e).sentBy = u.sentBy := by
  rw [sentBy, filterMap_emit, he, Option.toList_none, List.append_nil]
  rfl

/-- An event that is about no packet in a channel. -/
theorem queuedFor_emit (he : e.queued? = none) : (u.emit e).queuedFor = u.queuedFor := by
  rw [queuedFor, filterMap_emit, he, Option.toList_none, List.append_nil]
  rfl

/-- An event that is about no packet that came in. -/
theorem receivedBy_emit (he : e.received? = none) : (u.emit e).receivedBy = u.receivedBy := by
  rw [receivedBy, filterMap_emit, he, Option.toList_none, List.append_nil]
  rfl

end Udp

/-- What a session has still to send. -/
def UdpSession.pending (ses : UdpSession) : List (Bytes × Address) :=
  ses.sending.toList ++ ses.queue

/-- What a session has still to hand on. -/
def UdpSession.waiting (ses : UdpSession) : List (Bytes × SocketAddr) := ses.received.toList

/-! ## The steps of a session -/

/-- A datagram goes through the socket with the step. -/
def SessionStep.isTraffic : SessionStep → Bool
  | .sendTo ok => ok
  | .recvFrom _ _ => true
  | .take | .disconnected | .recvFail | .handOn => false

/-- No datagram goes through the socket when the session ends. -/
theorem UdpSession.Ends.isTraffic {hasSender : Bool} {ses : UdpSession} {st : SessionStep}
    (h : ses.Ends hasSender st) : st.isTraffic = false := by
  cases h with
  | disconnected hsending hqueue hgone => rfl
  | sendTo p hsending => rfl
  | recvFail hreceived => rfl

/-! ## The steps of a connection, as its session table sees them -/

/-- What a step of a connection does to its session table, when it takes no received packet. -/
inductive UdpStep (maxPktSize : Nat) (u : Udp) : Action → Udp → Prop where
  /-- Nothing. -/
  | same (a : Action) : UdpStep maxPktSize u a u
  /-- A call of `send` makes a step. -/
  | send (a : Action) (c : SendCall) (u' : Udp) (n : SendNext) (h : SendStep u c u' n) :
      UdpStep maxPktSize u a u'
  /-- An association is removed. -/
  | dissociate (a : Action) (assocId : UInt32) : UdpStep maxPktSize u a (u.dissociate assocId)
  /-- A session makes a step. -/
  | session {hasSender : Bool} (sid : SessionId) (ses : UdpSession) (st : SessionStep) (u' : Udp)
      (hses : u.sessions[sid]? = some ses)
      (h : SessionMove maxPktSize hasSender u sid ses st u') :
      UdpStep maxPktSize u (.session sid st) u'
  /-- The receiving end of the channel of received packets is dropped. -/
  | hangUp (a : Action) : UdpStep maxPktSize u a u.hangUp
  /-- The table is dropped. -/
  | drop (a : Action) : UdpStep maxPktSize u a { u with map := ∅ }

/-- What a handler does to the session table. -/
theorem TaskStep.udpStep {token : List Digest} {c c' : Connection} {i : Nat} {t t' : Task}
    (h : TaskStep token c i t c' t') (maxPktSize : Nat) (a : Action) :
    UdpStep maxPktSize c.udpSessions a c'.udpSessions := by
  cases h with
  | relay r u events recv r' hpc hstep =>
    cases hstep with
    | send call bindOk u' n hsend => exact .send a call _ n (sendStep_cases hsend)
    | dissociate assocId => exact .dissociate a assocId
    | payload assocId len addr hlen => exact .same a
    | noPayload assocId len addr hst => exact .same a
    | connect pc outcome events recv' pc' hstep => exact .same a
  | readFails err hpc hst => exact .same a
  | decodes cmd rest hpc hread => exact .same a
  | undecodable err hpc hread hst => exact .same a
  | decoderPanics hpc hread => exact .same a
  | setAuthenticated hpc => exact .same a
  | wakeAuthenticated hpc => exact .same a
  | closeFailed hpc => exact .same a
  | wakeFailed hpc => exact .same a
  | poll cmd hpc => exact .same a
  | dispatch cmd hpc cell res hres => exact .same a
  | fail err hpc => exact .same a

/-- **A step of a connection** takes a received packet for a new reply, or does to the session table
one of the things above and begins no reply. -/
theorem Established.Step.udp_cases {cfg : Config} {s s' : Established} {a : Action}
    (h : Step cfg s a s') :
    (∃ r rest, s.conn.udpSessions.recvPkt = (r.assocId, r.pkt, r.addr) :: rest ∧
      s'.conn.udpSessions = { s.conn.udpSessions with recvPkt := rest } ∧
      s'.conn.log = s.conn.log ∧ s'.replies = s.replies ++ [.check r]) ∨
    UdpStep cfg.maxPktSize s.conn.udpSessions a s'.conn.udpSessions ∧
      s'.replies.length = s.replies.length := by
  cases h with
  | receive r rest b hhandle hrecv => exact Or.inl ⟨r, rest, hrecv, rfl, rfl, rfl⟩
  | task i outcome t t' conn hi hstep => exact Or.inr ⟨hstep.udpStep _ _, rfl⟩
  | session sid st u hstep =>
    obtain ⟨ses, hses, -, hmove⟩ := sessionStep_cases hstep
    exact Or.inr ⟨.session sid ses st u hses hmove, rfl⟩
  | reply k outcome pc pc' events hk hstep => exact Or.inr ⟨.same _, List.length_set⟩
  | accept st t b hhandle hfresh => exact Or.inr ⟨.same _, rfl⟩
  | listenerEnds reason b hhandle hclosed => exact Or.inr ⟨.hangUp _, rfl⟩
  | pollPending hhandle hpoll => exact Or.inr ⟨.same _, rfl⟩
  | pollReady hhandle res hpoll => exact Or.inr ⟨.same _, rfl⟩
  | timeout hhandle => exact Or.inr ⟨.same _, rfl⟩
  | timeoutClose hhandle => exact Or.inr ⟨.same _, rfl⟩
  | timeoutWake hhandle => exact Or.inr ⟨.hangUp _, rfl⟩
  | unreachable hhandle => exact Or.inr ⟨.same _, rfl⟩
  | setClosed err hhandle => exact Or.inr ⟨.same _, rfl⟩
  | stream i ev t recv hi hrecv => exact Or.inr ⟨.same _, rfl⟩
  | peerClose err => exact Or.inr ⟨.same _, rfl⟩
  | drop hhandle htasks hreplies => exact Or.inr ⟨.drop _, rfl⟩

/-! ## The accounts -/

namespace Udp

/-- **The accounts of the sessions.** What was sent out of the sockets, or is still to be, was put
into the channels. What was handed on, or is still to be, was received; and the packets that were
taken for replies, or are still to be, were handed on by sessions of their associations. -/
structure Accounts (u : Udp) (taken : List (UInt32 × Bytes × Address)) : Prop where
  /-- From the channels to the sockets. -/
  sent : Conserved UdpSession.pending u.sessions u.queuedFor u.sentBy
  /-- From the sockets to the channel of received packets. -/
  received : ∃ handed : List (SessionId × UInt32 × Bytes × SocketAddr),
    Conserved UdpSession.waiting u.sessions u.receivedBy (handed.map fun e => (e.1, e.2.2)) ∧
    (∀ e ∈ handed, ∃ ses, u.sessions[e.1]? = some ses ∧ ses.assocId = e.2.1) ∧
    (taken ++ u.recvPkt).Sublist
      (handed.map fun e => (e.2.1, e.2.2.1, Address.socketAddress e.2.2.2))

variable {u u' : Udp} {taken : List (UInt32 × Bytes × Address)} {maxPktSize : Nat}

/-- A connection without sessions. -/
theorem Accounts.new : Udp.new.Accounts [] :=
  ⟨Conserved.nil, [], Conserved.nil, nofun, List.Sublist.refl _⟩

/-- An event that is about no packet in a channel or a socket changes no account. -/
theorem Accounts.emit {e : UdpEvent} (h : u.Accounts taken) (hs : e.sent? = none)
    (hq : e.queued? = none) (hr : e.received? = none) : (u.emit e).Accounts taken := by
  obtain ⟨hsent, handed, hreceived, hassoc, htaken⟩ := h
  refine ⟨?_, handed, ?_, hassoc, htaken⟩
  · rw [sentBy_emit hs, queuedFor_emit hq]
    exact hsent
  · rw [receivedBy_emit hr]
    exact hreceived

/-- Sessions keep their associations when one of them is replaced by a session of its own. -/
theorem assoc_set {sid : SessionId} {ses ses' : UdpSession} (hses : u.sessions[sid]? = some ses)
    (hassoc : ses'.assocId = ses.assocId) {k : SessionId} {assocId : UInt32}
    (h : ∃ x, u.sessions[k]? = some x ∧ x.assocId = assocId) :
    ∃ x, (u.sessions.set sid ses')[k]? = some x ∧ x.assocId = assocId := by
  obtain ⟨x, hx, hid⟩ := h
  by_cases hk : sid = k
  · subst hk
    rw [hses] at hx
    cases hx
    exact ⟨ses', getElem?_set_of_some hses, hassoc.trans hid⟩
  · exact ⟨x, by rw [List.getElem?_set_ne hk]; exact hx, hid⟩

/-- A session that neither takes anything in nor gives anything out may drop some of what it has. -/
theorem Accounts.setSession {sid : SessionId} {ses ses' : UdpSession} (h : u.Accounts taken)
    (hses : u.sessions[sid]? = some ses) (hassoc : ses'.assocId = ses.assocId)
    (hpending : ses'.pending.Sublist ses.pending) (hwaiting : ses'.waiting.Sublist ses.waiting) :
    (u.setSession sid ses').Accounts taken := by
  obtain ⟨hsent, handed, hreceived, hassocs, htaken⟩ := h
  exact ⟨hsent.keep hses hpending, handed, hreceived.keep hses hwaiting,
    fun e he => assoc_set hses hassoc (hassocs e he), htaken⟩

/-- A call of `send` puts packets into channels. -/
theorem Accounts.send (h : u.Accounts taken) {c : SendCall} {n : SendNext}
    (hstep : SendStep u c u' n) : u'.Accounts taken := by
  cases hstep with
  | hit p sid hl => exact h
  | miss p hl => exact h
  | bindFails p => exact h
  | insert p sid =>
    have hmap : ({ u with map := u.map.insert p.assocId sid } : Udp).Accounts taken :=
      ⟨h.sent, h.received⟩
    exact hmap.emit rfl rfl rfl
  | lose p sid ses hses hrun => exact h.emit rfl rfl rfl
  | create p =>
    obtain ⟨hsent, handed, hreceived, hassocs, htaken⟩ := h
    have hnew : ({ u with sessions := u.sessions ++ [UdpSession.new p.assocId] } :
        Udp).Accounts taken := by
      refine ⟨hsent.spawn rfl, handed, hreceived.spawn rfl, fun e he => ?_, htaken⟩
      obtain ⟨ses, hses, hid⟩ := hassocs e he
      refine ⟨ses, ?_, hid⟩
      show (u.sessions ++ [_])[e.1]? = some ses
      exact getElem?_append_of_some hses
    exact hnew.emit rfl rfl rfl
  | queue p sid ses hses hrun =>
    obtain ⟨hsent, handed, hreceived, hassocs, htaken⟩ := h
    refine ⟨?_, handed, ?_, fun e he => ?_, htaken⟩
    · -- the packet is taken in at the end of the channel
      have hmove : ([] ++ { ses with queue := ses.queue ++ [(p.pkt, p.addr)] }.pending).Sublist
          (ses.pending ++ [(p.pkt, p.addr)]) := by
        rw [List.nil_append, UdpSession.pending, UdpSession.pending, List.append_assoc]
      have hset := hsent.set hses hmove
      rw [List.map_nil, List.append_nil] at hset
      rw [queuedFor, filterMap_emit, sentBy, filterMap_emit]
      exact (List.append_nil (u.sentBy)).symm ▸ hset
    · rw [receivedBy_emit rfl]
      exact hreceived.keep hses (List.Sublist.refl _)
    · have hid : { ses with queue := ses.queue ++ [(p.pkt, p.addr)] }.assocId = ses.assocId := rfl
      exact assoc_set hses hid (hassocs e he)

/-- A session passes packets on. -/
theorem Accounts.session (h : u.Accounts taken) {hasSender : Bool} {sid : SessionId}
    {ses : UdpSession} {st : SessionStep} (hses : u.sessions[sid]? = some ses)
    (hmove : SessionMove maxPktSize hasSender u sid ses st u') : u'.Accounts taken := by
  cases hmove with
  | take p queue hsending hqueue =>
    refine h.setSession hses rfl ?_ (List.Sublist.refl _)
    rw [UdpSession.pending, UdpSession.pending, hsending, hqueue]
    exact List.Sublist.refl _
  | ends st hends => exact h.setSession hses rfl (List.nil_sublist _) (List.nil_sublist _)
  | handOnNowhere pkt addr hreceived hclosed =>
    exact h.setSession hses rfl (List.Sublist.refl _) (List.nil_sublist _)
  | sendTo pkt addr hsending =>
    obtain ⟨hsent, handed, hreceived, hassocs, htaken⟩ := h
    -- the packet that was being sent is given out
    have hout : ([(pkt, addr)] ++ { ses with sending := none }.pending).Sublist
        (ses.pending ++ []) := by
      rw [List.append_nil, UdpSession.pending, UdpSession.pending, hsending]
      exact List.Sublist.refl _
    have hset := hsent.set hses hout
    rw [List.map_nil, List.append_nil] at hset
    have hid : { ses with sending := none }.assocId = ses.assocId := rfl
    refine ⟨?_, handed, ?_, fun e he => assoc_set hses hid (hassocs e he), htaken⟩
    · rw [queuedFor, filterMap_emit, sentBy, filterMap_emit]
      exact (List.append_nil (u.queuedFor)).symm ▸ hset
    · rw [receivedBy_emit rfl]
      exact hreceived.keep hses (List.Sublist.refl _)
  | recvFrom data addr hreceived =>
    obtain ⟨hsent, handed, hrecv, hassocs, htaken⟩ := h
    have hnew : ([] ++ { ses with received := some (data.take maxPktSize, addr) }.waiting).Sublist
        (ses.waiting ++ [(data.take maxPktSize, addr)]) := by
      rw [UdpSession.waiting, UdpSession.waiting, hreceived]
      exact List.Sublist.refl _
    have hset := hrecv.set hses hnew
    rw [List.map_nil, List.append_nil] at hset
    have hid : { ses with received := some (data.take maxPktSize, addr) }.assocId = ses.assocId :=
      rfl
    refine ⟨?_, handed, ?_, fun e he => assoc_set hses hid (hassocs e he), htaken⟩
    · rw [queuedFor, filterMap_emit, sentBy, filterMap_emit]
      exact (List.append_nil (u.queuedFor)).symm ▸ (List.append_nil (u.sentBy)).symm ▸
        hsent.keep hses (List.Sublist.refl _)
    · rw [receivedBy, filterMap_emit]
      exact hset
  | handOn pkt addr hreceived hopen =>
    obtain ⟨hsent, handed, hrecv, hassocs, htaken⟩ := h
    have hout : ([(pkt, addr)] ++ { ses with received := none }.waiting).Sublist
        (ses.waiting ++ []) := by
      rw [UdpSession.waiting, UdpSession.waiting, hreceived]
      exact List.Sublist.refl _
    have hset := hrecv.set hses hout
    rw [List.map_nil, List.append_nil] at hset
    have hid : { ses with received := none }.assocId = ses.assocId := rfl
    refine ⟨hsent.keep hses (List.Sublist.refl _), handed ++ [(sid, ses.assocId, pkt, addr)],
      ?_, fun e he => ?_, ?_⟩
    · rw [List.map_append]
      exact hset
    · refine assoc_set hses hid ?_
      rcases List.mem_append.mp he with he | he
      · exact hassocs e he
      · rw [List.mem_singleton.mp he]
        exact ⟨ses, hses, rfl⟩
    · rw [List.map_append, ← List.append_assoc]
      exact htaken.append (List.Sublist.refl _)

/-- **Every step keeps the accounts**, when it takes no received packet. -/
theorem Accounts.step (h : u.Accounts taken) {a : Action} (hstep : UdpStep maxPktSize u a u') :
    u'.Accounts taken := by
  cases hstep with
  | same => exact h
  | send _ c u' n hsend => exact h.send hsend
  | session sid ses st u' hses hmove => exact h.session hses hmove
  | dissociate _ assocId =>
    have hmap : ({ u with map := u.map.erase assocId } : Udp).Accounts taken := ⟨h.sent, h.received⟩
    exact hmap.emit rfl rfl rfl
  | drop => exact ⟨h.sent, h.received⟩
  | hangUp =>
    obtain ⟨handed, hreceived, hassocs, htaken⟩ := h.received
    refine ⟨h.sent, handed, hreceived, hassocs, ?_⟩
    show (taken ++ []).Sublist _
    rw [List.append_nil]
    exact (List.sublist_append_left _ _).trans htaken

/-- A received packet that is taken out of its channel is taken. -/
theorem Accounts.take (h : u.Accounts taken) {x : UInt32 × Bytes × Address}
    {rest : List (UInt32 × Bytes × Address)} (hrecv : u.recvPkt = x :: rest) :
    ({ u with recvPkt := rest } : Udp).Accounts (taken ++ [x]) := by
  obtain ⟨handed, hreceived, hassocs, htaken⟩ := h.received
  refine ⟨h.sent, handed, hreceived, hassocs, ?_⟩
  show (taken ++ [x] ++ rest).Sublist _
  rw [hrecv] at htaken
  rwa [List.append_assoc]

/-! ## Both directions as multisets -/

/-- The association a session was created for. -/
def assocOf (u : Udp) (sid : SessionId) : Option UInt32 := u.sessions[sid]?.map UdpSession.assocId

/-- What went out of the sockets is among what went into the channels. -/
theorem Accounts.sent_subperm (h : u.Accounts taken) : u.sentBy.Subperm u.queuedFor :=
  h.sent.subperm

/-- The packets that were taken for replies are among those received by sockets of their
associations. -/
theorem Accounts.taken_subperm (h : u.Accounts taken) :
    (taken.map fun x => (some x.1, x.2)).Subperm
      (u.receivedBy.map fun e => (u.assocOf e.1, e.2.1, Address.socketAddress e.2.2)) := by
  obtain ⟨handed, hreceived, hassocs, htaken⟩ := h.received
  have hsub := (List.sublist_append_left taken u.recvPkt).trans htaken
  have hhanded := subperm_map hreceived.subperm
    fun e => (u.assocOf e.1, e.2.1, Address.socketAddress e.2.2)
  -- a packet that was handed on is one of the association of its session
  have hassoc : (handed.map fun e => (e.2.1, e.2.2.1, Address.socketAddress e.2.2.2)).map
        (fun x => (some x.1, x.2)) =
      (handed.map fun e => (e.1, e.2.2)).map
        fun e => (u.assocOf e.1, e.2.1, Address.socketAddress e.2.2) := by
    rw [List.map_map, List.map_map]
    refine List.map_congr_left fun e he => ?_
    obtain ⟨ses, hses, hid⟩ := hassocs e he
    show (some e.2.1, e.2.2.1, _) = (u.assocOf e.1, e.2.2.1, _)
    rw [assocOf, hses, Option.map_some, hid]
  rw [← hassoc] at hhanded
  exact (subperm_map hsub.subperm _).trans hhanded

end Udp

/-! ## The sockets, step by step -/

/-- A datagram goes through a socket with the step. -/
def Action.isTraffic : Action → Bool
  | .session _ st => st.isTraffic
  | .handle _ | .task _ _ | .reply _ _ | .stream _ _ | .peerClose _ | .drop => false

/-- What goes through the sockets at a step: nothing, or one datagram by a step of its session. -/
inductive Traffic (maxPktSize : Nat) (u u' : Udp) : Action → Prop where
  /-- Nothing. -/
  | quiet (a : Action) (ha : a.isTraffic = false) (hsent : u'.sentBy = u.sentBy)
      (hreceived : u'.receivedBy = u.receivedBy) : Traffic maxPktSize u u' a
  /-- A datagram goes out. -/
  | sends (sid : SessionId) (ses : UdpSession) (pkt : Bytes) (addr : Address)
      (hses : u.sessions[sid]? = some ses) (hsending : ses.sending = some (pkt, addr))
      (hsent : u'.sentBy = u.sentBy ++ [(sid, pkt, addr)])
      (hreceived : u'.receivedBy = u.receivedBy) :
      Traffic maxPktSize u u' (.session sid (.sendTo true))
  /-- A datagram comes in, and is cut off at the size of the buffer. -/
  | receives (sid : SessionId) (ses : UdpSession) (data : Bytes) (addr : SocketAddr)
      (hses : u.sessions[sid]? = some ses) (hsent : u'.sentBy = u.sentBy)
      (hreceived : u'.receivedBy = u.receivedBy ++ [(sid, data.take maxPktSize, addr)]) :
      Traffic maxPktSize u u' (.session sid (.recvFrom data addr))

/-- What a session sends and receives. -/
theorem SessionMove.traffic {maxPktSize : Nat} {hasSender : Bool} {u u' : Udp} {sid : SessionId}
    {ses : UdpSession} {st : SessionStep} (h : SessionMove maxPktSize hasSender u sid ses st u')
    (hses : u.sessions[sid]? = some ses) : Traffic maxPktSize u u' (.session sid st) := by
  cases h with
  | take p queue hsending hqueue => exact .quiet _ rfl rfl rfl
  | ends st hends => exact .quiet _ hends.isTraffic rfl rfl
  | handOn pkt addr hreceived hopen => exact .quiet _ rfl rfl rfl
  | handOnNowhere pkt addr hreceived hclosed => exact .quiet _ rfl rfl rfl
  | sendTo pkt addr hsending =>
    refine .sends sid ses pkt addr hses hsending ?_ (Udp.receivedBy_emit rfl)
    rw [Udp.sentBy, Udp.filterMap_emit]
    rfl
  | recvFrom data addr hreceived =>
    refine .receives sid ses data addr hses (Udp.sentBy_emit rfl) ?_
    rw [Udp.receivedBy, Udp.filterMap_emit]
    rfl

/-- The other tasks send and receive nothing. -/
theorem UdpStep.quiet {maxPktSize : Nat} {u u' : Udp} {a : Action}
    (h : UdpStep maxPktSize u a u') (ha : ∀ sid st, a ≠ .session sid st) :
    u'.sentBy = u.sentBy ∧ u'.receivedBy = u.receivedBy := by
  cases h with
  | same => exact ⟨rfl, rfl⟩
  | hangUp => exact ⟨rfl, rfl⟩
  | drop => exact ⟨rfl, rfl⟩
  | dissociate _ assocId => exact ⟨Udp.sentBy_emit rfl, Udp.receivedBy_emit rfl⟩
  | session sid ses st u' hses hmove => exact absurd rfl (ha sid st)
  | send _ c u' n hsend =>
    cases hsend with
    | hit p sid hl => exact ⟨rfl, rfl⟩
    | miss p hl => exact ⟨rfl, rfl⟩
    | bindFails p => exact ⟨rfl, rfl⟩
    | insert p sid => exact ⟨Udp.sentBy_emit rfl, Udp.receivedBy_emit rfl⟩
    | lose p sid ses hses hrun => exact ⟨Udp.sentBy_emit rfl, Udp.receivedBy_emit rfl⟩
    | create p => exact ⟨Udp.sentBy_emit rfl, Udp.receivedBy_emit rfl⟩
    | queue p sid ses hses hrun => exact ⟨Udp.sentBy_emit rfl, Udp.receivedBy_emit rfl⟩

/-- **What a step of a connection sends and receives.** -/
theorem Established.Step.traffic {cfg : Config} {s s' : Established} {a : Action}
    (h : Step cfg s a s') :
    Traffic cfg.maxPktSize s.conn.udpSessions s'.conn.udpSessions a := by
  by_cases ha : ∃ sid st, a = .session sid st
  · obtain ⟨sid, st, rfl⟩ := ha
    cases h with
    | session _ _ u hstep =>
      obtain ⟨ses, hses, -, hmove⟩ := sessionStep_cases hstep
      exact hmove.traffic hses
  · have hquiet : a.isTraffic = false := by
      cases a with
      | session sid st => exact absurd ⟨sid, st, rfl⟩ ha
      | _ => rfl
    rcases h.udp_cases with ⟨r, rest, -, heq, -⟩ | ⟨hudp, -⟩
    · rw [heq]
      exact .quiet a hquiet rfl rfl
    · obtain ⟨hsent, hreceived⟩ := hudp.quiet fun sid st heq => ha ⟨sid, st, heq⟩
      exact .quiet a hquiet hsent hreceived

/-! ## The size of what comes in -/

/-- A UDP datagram carries at most 65535 bytes. -/
def SessionStep.fitsUdp : SessionStep → Bool
  | .recvFrom data _ => data.length ≤ 65535
  | .take | .disconnected | .sendTo _ | .recvFail | .handOn => true

/-- The same for a step of a connection. -/
def Action.fitsUdp : Action → Bool
  | .session _ st => st.fitsUdp
  | .handle _ | .task _ _ | .reply _ _ | .stream _ _ | .peerClose _ | .drop => true

/-- **What came in on the sockets fits a packet**, when UDP datagrams do. -/
theorem Established.received_fits_of_reachable {cfg : Config} {s : Established}
    (h : (connectionSystem cfg).ReachableBy (fun _ a => a.fitsUdp = true) s) :
    ∀ e ∈ s.conn.udpSessions.receivedBy, e.2.1.length ≤ 65535 := by
  refine h.invariant
    (I := fun s => ∀ e ∈ s.conn.udpSessions.receivedBy, e.2.1.length ≤ 65535) ?_ ?_
  · intro e he
    cases he
  · intro s a s' _ ih hfits hs e he
    cases (step_cases hs).traffic with
    | quiet _ _ _ heq => exact ih e (heq ▸ he)
    | sends _ _ _ _ _ _ _ heq => exact ih e (heq ▸ he)
    | receives sid ses data addr _ _ heq =>
      rw [heq] at he
      rcases List.mem_append.mp he with he | he
      · exact ih e he
      · have hdata : data.length ≤ 65535 := of_decide_eq_true hfits
        rw [List.mem_singleton.mp he, List.length_take]
        omega

/-- So do the packets that were taken for replies. -/
theorem Udp.Accounts.taken_fits {u : Udp} {taken : List (UInt32 × Bytes × Address)}
    (h : u.Accounts taken) (hfits : ∀ e ∈ u.receivedBy, e.2.1.length ≤ 65535) :
    ∀ x ∈ taken, x.2.1.length ≤ 65535 ∧ ∃ addr, x.2.2 = .socketAddress addr := by
  intro x hx
  have hmem := h.taken_subperm.subset (List.mem_map_of_mem hx)
  obtain ⟨e, he, heq⟩ := List.mem_map.mp hmem
  obtain ⟨-, hpkt⟩ := Prod.mk.inj heq
  rw [← hpkt]
  exact ⟨hfits e he, e.2.2, rfl⟩

end Tuic.Server
