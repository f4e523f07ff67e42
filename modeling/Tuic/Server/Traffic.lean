import Tuic.Server.Frame
import Tuic.Server.UdpAccounts

/-! # Sockets and associations, step by step

A datagram goes out or comes in by a step of the session whose socket it is (`Traffic`). Every
session keeps its association (`Step.assocOf_kept`), and there is one only for an association that a
handler had a packet of (`Step.assocOf_cases`). -/

namespace Tuic.Server

open ByteCodec Transition

section Udp

variable {maxPktSize : Nat} {u u' : Udp} {a : Action}

/-- The association of a session that is there. -/
theorem Udp.assocOf_of_some {sid : SessionId} {ses : UdpSession}
    (hses : u.sessions[sid]? = some ses) : u.assocOf sid = some ses.assocId := by
  rw [Udp.assocOf, hses]
  rfl

/-- A session that goes on is of the same association. -/
theorem Udp.assocOf_setSession {sid : SessionId} {ses : UdpSession}
    (hses : u.sessions[sid]? = some ses) {queue : List (Bytes × Address)}
    {sending : Option (Bytes × Address)} {received : Option (Bytes × SocketAddr)} {running : Bool}
    (k : SessionId) :
    (u.setSession sid ⟨ses.assocId, queue, sending, received, running⟩).assocOf k =
      u.assocOf k := by
  unfold Udp.assocOf Udp.setSession
  by_cases hk : k = sid
  · subst hk
    simp [getElem?_set_of_some hses, hses]
  · simp [List.getElem?_set_ne (Ne.symm hk)]

/-- A session keeps its association in all it does. -/
theorem SessionMove.assocOf_eq {hasSender : Bool} {sid : SessionId} {ses : UdpSession}
    {st : SessionStep} (h : SessionMove maxPktSize hasSender u sid ses st u')
    (hses : u.sessions[sid]? = some ses) (k : SessionId) : u'.assocOf k = u.assocOf k := by
  cases h with
  | take p queue hsending hqueue => exact Udp.assocOf_setSession hses k
  | ends st hends => exact Udp.assocOf_setSession hses k
  | handOn pkt addr hreceived hopen => exact Udp.assocOf_setSession hses k
  | handOnNowhere pkt addr hreceived hclosed => exact Udp.assocOf_setSession hses k
  | sendTo pkt addr hsending => exact Udp.assocOf_setSession hses k
  | recvFrom data addr hreceived => exact Udp.assocOf_setSession hses k

/-- A call of `send` leaves the sessions and their associations alone, but for a new one. -/
theorem SendStep.assocOf_cases {c : SendCall} {n : SendNext} (h : SendStep u c u' n) :
    (∀ k, u'.assocOf k = u.assocOf k) ∨
      ∃ p, c = .create p ∧ u'.sessions = u.sessions ++ [UdpSession.new p.assocId] := by
  cases h with
  | create p => exact Or.inr ⟨p, rfl, rfl⟩
  | queue p sid ses hses hrun => exact Or.inl fun k => Udp.assocOf_setSession hses k
  | hit p sid hl => exact Or.inl fun _ => rfl
  | miss p hl => exact Or.inl fun _ => rfl
  | bindFails p => exact Or.inl fun _ => rfl
  | insert p sid => exact Or.inl fun _ => rfl
  | lose p sid ses hses hrun => exact Or.inl fun _ => rfl

end Udp

namespace Established

variable {cfg : Config} {s s' : Established} {a : Action}

/-- **What a step does to the sessions and their associations**: nothing, or a handler that has a
packet creates one for the association of the packet. -/
theorem Step.assocOf_cases (h : Step cfg s a s') :
    (∀ k, s'.conn.udpSessions.assocOf k = s.conn.udpSessions.assocOf k) ∨
      ∃ (i : Nat) (t : Task) (p : Packet), s.tasks[i]? = some t ∧
        t.pc = .relay (.send (.create p)) ∧
        s'.conn.udpSessions.sessions =
          s.conn.udpSessions.sessions ++ [UdpSession.new p.assocId] := by
  cases h with
  | task i outcome t t' conn hi hstep =>
    rcases hstep.frame.udpSessions with heq | ⟨r, events, recv, r', hpc, hrelay⟩
    · exact Or.inl fun k => congrArg (Udp.assocOf · k) heq
    · show (∀ k, conn.udpSessions.assocOf k = _) ∨ _
      generalize conn.udpSessions = u' at hrelay
      cases hrelay with
      | send call bindOk u' n hsend =>
        rcases (sendStep_cases hsend).assocOf_cases with hsame | ⟨p, rfl, hsessions⟩
        · exact Or.inl hsame
        · exact Or.inr ⟨i, t, p, hi, hpc, hsessions⟩
      | dissociate assocId => exact Or.inl fun _ => rfl
      | payload assocId len addr hlen => exact Or.inl fun _ => rfl
      | noPayload assocId len addr hst => exact Or.inl fun _ => rfl
      | connect pc outcome events recv' pc' hstep => exact Or.inl fun _ => rfl
  | session sid st u hstep =>
    obtain ⟨ses, hses, -, hmove⟩ := sessionStep_cases hstep
    exact Or.inl (hmove.assocOf_eq hses)
  | _ => exact Or.inl fun _ => rfl

/-- A session keeps its association. -/
theorem Step.assocOf_kept (h : Step cfg s a s') {sid : SessionId} {assocId : UInt32}
    (hsid : s.conn.udpSessions.assocOf sid = some assocId) :
    s'.conn.udpSessions.assocOf sid = some assocId := by
  rcases h.assocOf_cases with hsame | ⟨i, t, p, -, -, hsessions⟩
  · rw [hsame]
    exact hsid
  · obtain ⟨ses, hses, hid⟩ := Option.map_eq_some_iff.mp hsid
    rw [Udp.assocOf, hsessions, getElem?_append_of_some hses, Option.map_some, hid]

/-- Datagrams went through sockets of sessions. -/
structure Located (s : Established) : Prop where
  /-- Those that went out. -/
  sent : ∀ e ∈ s.conn.udpSessions.sentBy,
    ∃ assocId, s.conn.udpSessions.assocOf e.1 = some assocId
  /-- Those that came in. -/
  received : ∀ e ∈ s.conn.udpSessions.receivedBy,
    ∃ assocId, s.conn.udpSessions.assocOf e.1 = some assocId

/-- **Datagrams go through sockets of sessions**, in every run. -/
theorem located_of_reachable {C : Established → Action → Prop}
    (h : (connectionSystem cfg).ReachableBy C s) : s.Located := by
  have hinit : (connectionSystem cfg).init.Located :=
    ⟨fun e he => absurd he List.not_mem_nil, fun e he => absurd he List.not_mem_nil⟩
  refine h.invariant (I := Located) hinit ?_
  intro s a s' _ ih _ hs
  have hstep := step_cases hs
  have hsent : ∀ e ∈ s.conn.udpSessions.sentBy,
      ∃ assocId, s'.conn.udpSessions.assocOf e.1 = some assocId :=
    fun e he => (ih.sent e he).imp fun _ hid => hstep.assocOf_kept hid
  have hreceived : ∀ e ∈ s.conn.udpSessions.receivedBy,
      ∃ assocId, s'.conn.udpSessions.assocOf e.1 = some assocId :=
    fun e he => (ih.received e he).imp fun _ hid => hstep.assocOf_kept hid
  cases hstep.traffic with
  | quiet _ _ heq heq' => exact ⟨heq ▸ hsent, heq' ▸ hreceived⟩
  | sends sid ses pkt addr hses _ heq heq' =>
    refine ⟨fun e he => ?_, heq' ▸ hreceived⟩
    rw [heq] at he
    rcases List.mem_append.mp he with he | he
    · exact hsent e he
    · rw [List.mem_singleton.mp he]
      exact ⟨ses.assocId, hstep.assocOf_kept (Udp.assocOf_of_some hses)⟩
  | receives sid ses data addr hses heq heq' =>
    refine ⟨heq ▸ hsent, fun e he => ?_⟩
    rw [heq'] at he
    rcases List.mem_append.mp he with he | he
    · exact hreceived e he
    · rw [List.mem_singleton.mp he]
      exact ⟨ses.assocId, hstep.assocOf_kept (Udp.assocOf_of_some hses)⟩

end Established

end Tuic.Server
