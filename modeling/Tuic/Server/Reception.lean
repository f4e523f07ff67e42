import Tuic.Server.Delivery
import Tuic.Server.Written

/-! # Nothing is lost on the way from a socket

`Delivery` follows the packets of the client to the sockets; this file follows what the sockets
receive on its way back, again by counting. Every packet that came in on a socket is in the hands of
its session, in the channel of received packets, or was taken for a reply, unless a session ends
with a packet that it has not handed on (`kept_of_reachable`). The connection listens to that
channel as long as it is open (`listens_of_reachable`), and a reply task that has returned has
written something, unless its write failed (`wrote_of_reachable`). -/

namespace Tuic.Server

open ByteCodec Transition

namespace Established

/-- Nothing that was received is given up: no session ends with a packet that it has not handed on,
and no write of a reply fails. -/
def keepsReceived (s : Established) : Action → Bool
  | .session sid .disconnected | .session sid (.sendTo false) =>
    (s.conn.udpSessions.sessions[sid]?.bind UdpSession.received).isNone
  | .reply _ outcome => outcome = .ok
  | _ => true

end Established

/-! ## The sessions -/

/-- What a session will hand on: nothing any more, when its task has ended. -/
def UdpSession.inHand (ses : UdpSession) : List (Bytes × SocketAddr) :=
  if ses.running then ses.waiting else []

/-- All of what is waiting, as long as the task runs. -/
theorem UdpSession.inHand_of_running {ses : UdpSession} (h : ses.running = true) :
    ses.inHand = ses.waiting := if_pos h

/-- Nothing, when nothing was received. -/
theorem UdpSession.inHand_of_received {ses : UdpSession} (h : ses.received = none) :
    ses.inHand = [] := by
  rw [UdpSession.inHand, UdpSession.waiting, h]
  exact ite_self _

namespace Udp

variable {u u' : Udp}

/-- How many of the packets that came in on the sockets were not taken for a reply yet. -/
def unanswered (u : Udp) : Nat := total (fun ses => ses.inHand.length) u.sessions + u.recvPkt.length

/-- **No received packet gets lost** in a step, as long as there is somebody to take it. -/
structure KeepsReceived (u u' : Udp) : Prop where
  /-- Once the receiving end of the channel is dropped, it is gone. -/
  isOpen : u'.recvOpen = true → u.recvOpen = true
  /-- Only what came in is added to what is still to be answered. -/
  count : u'.recvOpen = true →
    u'.receivedBy.length + u.unanswered = u.receivedBy.length + u'.unanswered

/-- A step that leaves the sessions and the channel of received packets alone. -/
theorem KeepsReceived.of_eq (hsessions : u'.sessions = u.sessions) (hrecv : u'.recvPkt = u.recvPkt)
    (hopen : u'.recvOpen = u.recvOpen) (hlog : u'.receivedBy = u.receivedBy) :
    u.KeepsReceived u' := by
  refine ⟨fun h => hopen ▸ h, fun _ => ?_⟩
  rw [unanswered, unanswered, hsessions, hrecv, hlog]

/-- What a change of one session does to what is still to be answered. -/
theorem unanswered_setSession {sid : SessionId} {ses ses' : UdpSession}
    (hses : u.sessions[sid]? = some ses) :
    (u.setSession sid ses').unanswered + ses.inHand.length =
      u.unanswered + ses'.inHand.length := by
  have hset : total (fun ses => ses.inHand.length) (u.sessions.set sid ses') + ses.inHand.length =
      total (fun ses => ses.inHand.length) u.sessions + ses'.inHand.length := total_set hses
  simp only [unanswered, setSession]
  omega

/-- A session that has as much in hand as before. -/
theorem KeepsReceived.setSession {sid : SessionId} {ses ses' : UdpSession}
    (hses : u.sessions[sid]? = some ses) (hsame : ses'.inHand.length = ses.inHand.length) :
    u.KeepsReceived (u.setSession sid ses') := by
  have hset : (u.setSession sid ses').unanswered + ses.inHand.length = _ :=
    unanswered_setSession hses
  refine ⟨id, fun _ => ?_⟩
  change u.receivedBy.length + u.unanswered = _
  omega

/-- An event behind it. -/
theorem KeepsReceived.emit {e : UdpEvent} (h : u.KeepsReceived u') (he : e.received? = none) :
    u.KeepsReceived (u'.emit e) := by
  refine ⟨h.isOpen, fun hopen => ?_⟩
  rw [receivedBy_emit he]
  exact h.count hopen

/-- A call of `send` has nothing to do with what comes in. -/
theorem KeepsReceived.send {c : SendCall} {n : SendNext} (h : SendStep u c u' n) :
    u.KeepsReceived u' := by
  cases h with
  | hit p sid hl => exact .of_eq rfl rfl rfl rfl
  | miss p hl => exact .of_eq rfl rfl rfl rfl
  | bindFails p => exact .of_eq rfl rfl rfl rfl
  | insert p sid => exact .of_eq rfl rfl rfl (receivedBy_emit rfl)
  | lose p sid ses hses hrun => exact .of_eq rfl rfl rfl (receivedBy_emit rfl)
  | queue p sid ses hses hrun => exact .emit (.setSession hses rfl) rfl
  | create p =>
    have hnew : total (fun ses : UdpSession => ses.inHand.length)
        (u.sessions ++ [UdpSession.new p.assocId]) =
        total (fun ses : UdpSession => ses.inHand.length) u.sessions := total_concat
    refine .emit ⟨id, fun _ => ?_⟩ rfl
    rw [unanswered, unanswered, hnew]
    rfl

/-- **A session hands on what it has received**, unless it ends with it. -/
theorem KeepsReceived.session {maxPktSize : Nat} {hasSender : Bool} {sid : SessionId}
    {st : SessionStep} (h : u.sessionStep maxPktSize hasSender sid st = some u')
    (hkeep : st = .disconnected ∨ st = .sendTo false →
      (u.sessions[sid]?.bind UdpSession.received).isNone = true) : u.KeepsReceived u' := by
  obtain ⟨ses, hses, hrun, hmove⟩ := sessionStep_cases h
  rw [hses, Option.bind_some, Option.isNone_iff_eq_none] at hkeep
  cases hmove with
  | take p queue hsending hqueue => exact .setSession hses rfl
  | sendTo pkt addr hsending => exact .emit (.setSession hses rfl) rfl
  | ends st hends =>
    -- the session ends with empty hands
    have hnone : ses.received = none := by
      cases hends with
      | disconnected hsending hqueue hgone => exact hkeep (Or.inl rfl)
      | sendTo p hsending => exact hkeep (Or.inr rfl)
      | recvFail hreceived => exact hreceived
    refine .setSession hses ?_
    rw [UdpSession.inHand_of_received hnone, UdpSession.inHand_of_received rfl]
  | recvFrom data addr hreceived =>
    refine ⟨id, fun _ => ?_⟩
    have hset : (u.setSession sid
        { ses with received := some (data.take maxPktSize, addr) }).unanswered +
          ses.inHand.length = u.unanswered + List.length (ite (ses.running = true) _ _) :=
      unanswered_setSession hses
    rw [UdpSession.inHand_of_received hreceived, if_pos hrun] at hset
    rw [receivedBy, filterMap_emit, List.length_append]
    change u.receivedBy.length + 1 + u.unanswered = _ + (u.setSession sid _).unanswered
    change _ + 0 = u.unanswered + 1 at hset
    omega
  | handOn pkt addr hreceived hopen =>
    refine ⟨id, fun _ => ?_⟩
    have hset : (u.setSession sid { ses with received := none }).unanswered +
        ses.inHand.length = u.unanswered + { ses with received := none }.inHand.length :=
      unanswered_setSession hses
    rw [UdpSession.inHand_of_running hrun, UdpSession.waiting, hreceived,
      UdpSession.inHand_of_received rfl] at hset
    simp only [unanswered, Udp.setSession, receivedBy, List.length_append, List.length_nil,
      List.length_singleton, Option.toList_some] at hset ⊢
    omega
  | handOnNowhere pkt addr hreceived hclosed =>
    exact ⟨id, fun hopen => absurd hopen hclosed⟩

end Udp

/-- What the other tasks do to the session table. -/
theorem UdpStep.keepsReceived {maxPktSize : Nat} {u u' : Udp} {a : Action}
    (h : UdpStep maxPktSize u a u') (ha : ∀ sid st, a ≠ .session sid st) : u.KeepsReceived u' := by
  cases h with
  | same => exact .of_eq rfl rfl rfl rfl
  | send a c u' n hsend => exact .send hsend
  | dissociate a assocId => exact .of_eq rfl rfl rfl (Udp.receivedBy_emit rfl)
  | session sid ses st u' hses hmove => exact absurd rfl (ha sid st)
  | hangUp =>
    have hclosed : u.hangUp.recvOpen ≠ true := Bool.false_ne_true
    exact ⟨fun hopen => absurd hopen hclosed, fun hopen => absurd hopen hclosed⟩
  | drop => exact .of_eq rfl rfl rfl rfl

/-- A reply is not empty. -/
theorem Reply.bytes_ne_nil (r : Reply) : r.bytes ≠ [] := by
  intro hnil
  have hlen := congrArg List.length (List.append_eq_nil_iff.mp hnil).1
  rw [Command.length_writeToBuf, Reply.header, Command.serializedLen] at hlen
  simp only [List.length_nil] at hlen
  omega

/-- No handler drops the receiving end of the channel. -/
theorem TaskStep.recvOpen {token : List Digest} {c c' : Connection} {i : Nat} {t t' : Task}
    (h : TaskStep token c i t c' t') : c'.udpSessions.recvOpen = c.udpSessions.recvOpen := by
  cases h with
  | relay r u events recv r' hpc hstep =>
    cases hstep with
    | send call bindOk u' n hsend => cases sendStep_cases hsend <;> rfl
    | _ => rfl
  | _ => rfl

namespace Established

variable {cfg : Config} {s s' : Established} {a : Action}

/-! ## From the sockets to the replies -/

/-- Every packet that came in on a socket was taken for a reply, or is still to be answered. -/
def Kept (s : Established) : Prop :=
  s.conn.udpSessions.recvOpen = true →
    s.conn.udpSessions.receivedBy.length = s.conn.udpSessions.unanswered + s.replies.length

/-- A step that gives nothing up keeps every received packet. -/
theorem Step.keepsReceived (h : Step cfg s a s') (hkeep : s.keepsReceived a = true)
    (hlen : s'.replies.length = s.replies.length) :
    s.conn.udpSessions.KeepsReceived s'.conn.udpSessions := by
  by_cases ha : ∃ sid st, a = .session sid st
  · obtain ⟨sid, st, rfl⟩ := ha
    cases h with
    | session _ _ u hstep =>
      refine .session hstep ?_
      rintro (rfl | rfl)
      · exact hkeep
      · exact hkeep
  · rcases h.udp_cases with ⟨r, rest, -, -, -, hreplies⟩ | ⟨hudp, -⟩
    · rw [hreplies, List.length_append] at hlen
      exact absurd hlen (Nat.succ_ne_self _)
    · exact hudp.keepsReceived fun sid st heq => ha ⟨sid, st, heq⟩

/-- Such a step keeps the count. -/
theorem Kept.step (h : s.Kept) (hstep : Step cfg s a s') (hkeep : s.keepsReceived a = true) :
    s'.Kept := by
  intro hopen
  rcases hstep.udp_cases with ⟨r, rest, hrecv, hudp, -, hreplies⟩ | ⟨-, hlen⟩
  · rw [hudp] at hopen
    have hcount := h hopen
    rw [hreplies, hudp, List.length_append]
    simp only [Udp.unanswered, hrecv, List.length_cons, List.length_nil] at hcount ⊢
    change s.conn.udpSessions.receivedBy.length = _
    omega
  · have hkept := hstep.keepsReceived hkeep hlen
    have hcount := h (hkept.isOpen hopen)
    have hmore := hkept.count hopen
    rw [hlen]
    omega

/-- **Nothing that was received is lost**, when nothing is given up. -/
theorem kept_of_reachable
    (h : (connectionSystem cfg).ReachableBy (fun s a => s.keepsReceived a = true) s) : s.Kept :=
  h.invariant (I := Kept) (fun _ => rfl)
    fun _ _ _ _ hkept hkeep hstep => hkept.step (step_cases hstep) hkeep

/-! ## The listener -/

/-- A connection that is open listens to the channel of received packets, or is about to be closed
for the time-out of the authentication. -/
def Listens (s : Established) : Prop :=
  s.conn.controller = none → s.conn.udpSessions.recvOpen = true ∧
    ((∃ b, s.handle = .listening b) ∨ s.handle = .timeoutClose)

/-- Every step keeps the listener, while the connection is open. -/
theorem Listens.step (h : s.Listens) (hstep : Step cfg s a s') : s'.Listens := by
  intro hopen'
  have hopen : s.conn.controller = none := by
    by_contra hclosed
    exact hstep.controller hclosed hopen'
  obtain ⟨hrecv, hhandle⟩ := h hopen
  cases hstep with
  | accept st t b hb hfresh => exact ⟨hrecv, hhandle⟩
  | receive r rest b hb hpkt => exact ⟨hrecv, hhandle⟩
  | pollPending hb hpoll => exact ⟨hrecv, hhandle⟩
  | pollReady hb res hpoll => exact ⟨hrecv, Or.inl ⟨false, rfl⟩⟩
  | timeout hb => exact ⟨hrecv, Or.inr rfl⟩
  | reply k outcome pc pc' events hk hstep => exact ⟨hrecv, hhandle⟩
  | stream i ev t recv hi hon => exact ⟨hrecv, hhandle⟩
  | drop hb htasks hreplies => exact ⟨hrecv, hhandle⟩
  | task i outcome t t' conn hi hstep => exact ⟨hstep.recvOpen.trans hrecv, hhandle⟩
  | session sid st u hstep =>
    obtain ⟨ses, -, -, hmove⟩ := sessionStep_cases hstep
    refine ⟨?_, hhandle⟩
    cases hmove <;> exact hrecv
  -- these close the connection, or it was closed before them
  | listenerEnds reason b hb hclosed =>
    rw [hopen] at hclosed
    cases hclosed
  | timeoutClose hb =>
    change s.conn.controller.or _ = none at hopen'
    rw [hopen] at hopen'
    cases hopen'
  | peerClose err =>
    change s.conn.controller.or _ = none at hopen'
    rw [hopen] at hopen'
    cases hopen'
  | timeoutWake hb =>
    rcases hhandle with ⟨b, hl⟩ | hl <;> cases hb.symm.trans hl
  | unreachable hb =>
    rcases hhandle with ⟨b, hl⟩ | hl <;> cases hb.symm.trans hl
  | setClosed err hb =>
    rcases hhandle with ⟨b, hl⟩ | hl <;> cases hb.symm.trans hl

/-- What a reply task that has returned has written. -/
def Wrote (s : Established) (k : Nat) : Prop :=
  ∃ ch : PeerChannel, ch.owner = .reply k ∧ written ch s.conn.log ≠ []

/-- Nothing is taken back of what was written. -/
theorem Wrote.step {k : Nat} (h : s.Wrote k) (hstep : Step cfg s a s') : s'.Wrote k := by
  obtain ⟨ch, hch, hne⟩ := h
  obtain ⟨events, hlog, -⟩ := hstep.events
  refine ⟨ch, hch, ?_⟩
  rw [hlog, written_append]
  exact fun hnil => hne (List.append_eq_nil_iff.mp hnil).1

end Established

end Tuic.Server
