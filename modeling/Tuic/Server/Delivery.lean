import Tuic.Server.Streams
import Tuic.Server.Teardown
import Tuic.Server.UdpTable

/-! # Nothing is lost on the way to a socket

`UdpAccounts` and `Streams` say that nothing comes out of a socket that no client has sent. This is
the other direction, for runs in which no operation on a socket fails (`isSmooth`), and it is
counting: every packet that was put into the channel of a session was sent or is still in the
session (`balanced_of_reachable`), and every handler that has returned from a packet with its
payload has put one there (`handed_step`). So what was not sent is somewhere on the way, and it can
move on. -/

namespace Tuic.Server

open ByteCodec Transition

namespace Established

/-- No operation on a socket fails: neither the bind of a new session nor a `send_to` or
`recv_from`. -/
def isSmooth (s : Established) : Action → Bool
  | .session _ (.sendTo ok) => ok
  | .session _ .recvFail => false
  -- the outcome is that of a bind where the call is about to make one
  | .task i outcome =>
    match s.tasks[i]?.map Task.pc with
    | some (.relay (.send (.create _))) => outcome.succeeds
    | _ => true
  | _ => true

end Established

/-! ## The sessions -/

/-- What a session will send: nothing any more, when its task has ended. -/
def UdpSession.underway (ses : UdpSession) : List (Bytes × Address) :=
  if ses.running then ses.pending else []

/-- All of what is pending, as long as the task runs. -/
theorem UdpSession.underway_of_running {ses : UdpSession} (h : ses.running = true) :
    ses.underway = ses.pending := if_pos h

namespace Udp

variable {u u' : Udp}

/-- How many packets are in the sessions, on their way from the channel to the socket. -/
def inSessions (u : Udp) : Nat := total (fun ses => ses.underway.length) u.sessions

/-- Every packet that was put into a channel was sent, or is still in its session. -/
def Balanced (u : Udp) : Prop := u.queuedPackets.length = u.sentBy.length + u.inSessions

/-- An event that is about no packet in a channel or at a socket leaves the balance alone. -/
theorem Balanced.emit {e : UdpEvent} (h : u.Balanced) (hs : e.sent? = none)
    (hp : e.packet? = none) : (u.emit e).Balanced := by
  have hsent : (u.emit e).sentBy = u.sentBy := by
    rw [sentBy, filterMap_emit, hs, Option.toList_none, List.append_nil]
    rfl
  have hqueued : (u.emit e).queuedPackets = u.queuedPackets := by
    rw [queuedPackets, filterMap_emit, hp, Option.toList_none, List.append_nil]
    rfl
  rw [Balanced, hsent, hqueued]
  exact h

/-- What a change of one session does to that. -/
theorem inSessions_setSession {sid : SessionId} {ses ses' : UdpSession}
    (hses : u.sessions[sid]? = some ses) :
    (u.setSession sid ses').inSessions + ses.underway.length =
      u.inSessions + ses'.underway.length := total_set hses

/-- A session that keeps as much as it had still to send. -/
theorem Balanced.setSession {sid : SessionId} {ses ses' : UdpSession} (h : u.Balanced)
    (hses : u.sessions[sid]? = some ses) (hsame : ses'.underway.length = ses.underway.length) :
    (u.setSession sid ses').Balanced := by
  have hset : (u.setSession sid ses').inSessions + ses.underway.length = _ :=
    inSessions_setSession hses
  have hsessions : (u.setSession sid ses').inSessions = u.inSessions := by omega
  rw [Balanced, hsessions]
  exact h

/-- A session that runs on takes a packet in or gives one out, which is recorded. -/
theorem Balanced.move {sid : SessionId} {ses ses' : UdpSession} {e : UdpEvent} (h : u.Balanced)
    (hses : u.sessions[sid]? = some ses) (hrun : ses.running = true) (hrun' : ses'.running = true)
    (hmove : e.packet?.toList.length + ses.pending.length =
      e.sent?.toList.length + ses'.pending.length) :
    ((u.setSession sid ses').emit e).Balanced := by
  have hset : (u.setSession sid ses').inSessions + ses.underway.length = _ :=
    inSessions_setSession hses
  rw [UdpSession.underway_of_running hrun, UdpSession.underway_of_running hrun'] at hset
  have hb : u.queuedPackets.length = u.sentBy.length + u.inSessions := h
  rw [Balanced, queuedPackets, filterMap_emit, sentBy, filterMap_emit]
  change (u.queuedPackets ++ e.packet?.toList).length =
    (u.sentBy ++ e.sent?.toList).length + (u.setSession sid ses').inSessions
  rw [List.length_append, List.length_append]
  omega

/-- A call of `send` puts its packet into a session, or leaves the balance alone. -/
theorem Balanced.send (h : u.Balanced) {c : SendCall} {n : SendNext} (hstep : SendStep u c u' n) :
    u'.Balanced := by
  cases hstep with
  | hit p sid hl => exact h
  | miss p hl => exact h
  | bindFails p => exact h
  | insert p sid =>
    have hmap : ({ u with map := u.map.insert p.assocId sid } : Udp).Balanced := h
    exact hmap.emit rfl rfl
  | lose p sid ses hses hrun => exact h.emit rfl rfl
  | create p =>
    have hnew : ({ u with sessions := u.sessions ++ [UdpSession.new p.assocId] } :
        Udp).Balanced := by
      have htotal : total (fun ses : UdpSession => ses.underway.length)
          (u.sessions ++ [UdpSession.new p.assocId]) = u.inSessions := total_concat
      rw [Balanced, inSessions, htotal]
      exact h
    exact hnew.emit rfl rfl
  | queue p sid ses hses hrun =>
    refine h.move hses hrun hrun ?_
    simp only [UdpEvent.packet?, UdpEvent.sent?, UdpSession.pending, Option.toList_some,
      Option.toList_none, List.length_append, List.length_singleton, List.length_nil]
    omega

/-- **A session that does not fail loses nothing**: it ends only when there is nothing left to
send. -/
theorem Balanced.session {maxPktSize : Nat} {hasSender : Bool} {sid : SessionId} {st : SessionStep}
    (h : u.Balanced) (hstep : u.sessionStep maxPktSize hasSender sid st = some u')
    (hsend : st ≠ .sendTo false) (hrecv : st ≠ .recvFail) : u'.Balanced := by
  obtain ⟨ses, hses, hrun, hmove⟩ := sessionStep_cases hstep
  cases hmove with
  | take p queue hsending hqueue =>
    refine h.setSession hses ?_
    have hpending : ses.pending.length = queue.length + 1 := by
      rw [UdpSession.pending, hsending, hqueue]
      rfl
    rw [UdpSession.underway_of_running hrun, hpending]
    exact congrArg List.length (if_pos hrun)
  | ends st hends =>
    cases hends with
    | disconnected hsending hqueue hgone =>
      refine h.setSession hses ?_
      rw [UdpSession.underway_of_running hrun, UdpSession.pending, hsending, hqueue]
      rfl
    | sendTo p hsending => exact absurd rfl hsend
    | recvFail hreceived => exact absurd rfl hrecv
  | sendTo pkt addr hsending =>
    refine h.move hses hrun hrun ?_
    simp only [UdpEvent.packet?, UdpEvent.sent?, UdpSession.pending, hsending,
      Option.toList_some, Option.toList_none, List.length_append, List.length_singleton,
      List.length_nil]
    omega
  | recvFrom data addr hreceived => exact h.move hses hrun hrun rfl
  | handOn pkt addr hreceived hopen => exact h.setSession hses rfl
  | handOnNowhere pkt addr hreceived hclosed => exact h.setSession hses rfl

end Udp

/-- What the other tasks do to the session table keeps the balance. -/
theorem UdpStep.balanced {maxPktSize : Nat} {u u' : Udp} {a : Action}
    (h : UdpStep maxPktSize u a u') (ha : ∀ sid st, a ≠ .session sid st) (hb : u.Balanced) :
    u'.Balanced := by
  cases h with
  | same => exact hb
  | send a c u' n hsend => exact hb.send hsend
  | dissociate a assocId =>
    have hmap : ({ u with map := u.map.erase assocId } : Udp).Balanced := hb
    exact hmap.emit rfl rfl
  | session sid ses st u' hses hmove => exact absurd rfl (ha sid st)
  | hangUp => exact hb
  | drop => exact hb

namespace Established

variable {cfg : Config} {s s' : Established} {a : Action}

/-- Every smooth step keeps the balance. -/
theorem Step.balanced (h : Step cfg s a s') (hb : s.conn.udpSessions.Balanced)
    (hsmooth : s.isSmooth a = true) : s'.conn.udpSessions.Balanced := by
  by_cases ha : ∃ sid st, a = .session sid st
  · obtain ⟨sid, st, rfl⟩ := ha
    cases h with
    | session _ _ u hstep =>
      refine hb.session hstep ?_ ?_
      · rintro rfl
        cases hsmooth
      · rintro rfl
        cases hsmooth
  · rcases h.udp_cases with ⟨r, rest, -, hudp, -⟩ | ⟨hudp, -⟩
    · rw [hudp]
      exact hb
    · exact hudp.balanced (fun sid st heq => ha ⟨sid, st, heq⟩) hb

/-- **The sessions of a smooth run lose nothing.** -/
theorem balanced_of_reachable
    (h : (connectionSystem cfg).ReachableBy (fun s a => s.isSmooth a = true) s) :
    s.conn.udpSessions.Balanced :=
  h.invariant (I := fun s => s.conn.udpSessions.Balanced) rfl
    fun _ _ _ _ hb hsmooth hstep => (step_cases hstep).balanced hb hsmooth

/-- A running session that can neither take a packet nor send one has none. -/
theorem pending_eq_nil {sid : SessionId} {ses : UdpSession}
    (hses : s.conn.udpSessions.sessions[sid]? = some ses) (hrun : ses.running = true)
    (htake : (connectionSystem cfg).step s (.session sid .take) = none)
    (hsend : (connectionSystem cfg).step s (.session sid (.sendTo true)) = none) :
    ses.pending = [] := by
  cases hsending : ses.sending with
  | some p =>
    simp [connectionSystem, step, Udp.sessionStep, hses, hrun, hsending] at hsend
  | none =>
    cases hqueue : ses.queue with
    | nil =>
      rw [UdpSession.pending, hsending, hqueue]
      rfl
    | cons p queue =>
      simp [connectionSystem, step, Udp.sessionStep, hses, hrun, hsending, hqueue] at htake

/-- Sessions without a packet have nothing to do. -/
theorem idle_of_pending (h : ∀ ses ∈ s.conn.udpSessions.sessions, ses.pending = [])
    (sid : SessionId) : (connectionSystem cfg).step s (.session sid .take) = none ∧
      (connectionSystem cfg).step s (.session sid (.sendTo true)) = none := by
  cases hses : s.conn.udpSessions.sessions[sid]? with
  | none => simp [connectionSystem, step, Udp.sessionStep, hses]
  | some ses =>
    obtain ⟨hsending, hqueue⟩ := List.append_eq_nil_iff.mp (h ses (List.mem_of_getElem? hses))
    have hnone : ses.sending = none := Option.toList_eq_nil_iff.mp hsending
    simp [connectionSystem, step, Udp.sessionStep, hses, hnone, hqueue]

/-- **When the sessions have nothing to do, everything was sent.** -/
theorem sent_of_idle
    (h : (connectionSystem cfg).ReachableBy (fun s a => s.isSmooth a = true) s)
    (hidle : ∀ sid, (connectionSystem cfg).step s (.session sid .take) = none ∧
      (connectionSystem cfg).step s (.session sid (.sendTo true)) = none) :
    s.conn.udpSessions.queuedPackets.length = s.conn.udpSessions.sentBy.length := by
  have hzero : s.conn.udpSessions.inSessions = 0 := by
    refine total_eq_zero fun ses hmem => ?_
    obtain ⟨sid, hsid⟩ := List.mem_iff_getElem?.mp hmem
    by_cases hrun : ses.running = true
    · rw [UdpSession.underway_of_running hrun,
        pending_eq_nil hsid hrun (hidle sid).1 (hidle sid).2]
      rfl
    · rw [UdpSession.underway, if_neg hrun]
      rfl
  have hbalanced : s.conn.udpSessions.queuedPackets.length = _ := balanced_of_reachable h
  rw [hzero] at hbalanced
  exact hbalanced

/-- At a smooth step no session fails. -/
theorem failsUnderSender_of_isSmooth (hsmooth : s.isSmooth a = true) {b : UdpAction}
    (hb : b.session? = a.session?) : s.udpPool.failsUnderSender b = false := by
  cases b with
  | session sid st =>
    obtain rfl : a = .session sid st := by
      cases a with
      | session k st' =>
        cases hb
        rfl
      | _ => cases hb
    cases st with
    | sendTo ok =>
      cases hsmooth
      rfl
    | recvFail => cases hsmooth
    | _ => rfl
  | _ => rfl

/-- **A session that has a sender runs**, in every state of a smooth run. -/
theorem running_of_held
    (h : (connectionSystem cfg).ReachableBy (fun s a => s.isSmooth a = true) s) :
    ∀ sid, s.udpPool.Held sid → s.udpPool.Running sid := by
  have hpool : (udpSystem cfg.maxPktSize).ReachableBy
      (fun s a => s.failsUnderSender a = false) s.udpPool := by
    refine h.map udpPool rfl fun s a s' _ hsmooth hs => ?_
    rcases (step_cases hs).udpPool_cases with heq | ⟨b, hb, hstep⟩
    · exact Or.inl heq
    · exact Or.inr ⟨b, failsUnderSender_of_isSmooth hsmooth hb, hstep⟩
  exact (UdpPool.held_running hpool).1

end Established

/-! ## The handlers -/

/-- A handler has returned from a packet whose item did not break off: the stream has not failed,
and if it is over, the payload is there. -/
structure Task.HandedOver (t : Task) : Prop where
  /-- It has returned. -/
  done : t.pc = .done
  /-- Its item is a packet, with its payload. -/
  packet : ∃ assocId len addr, Carries t.recv.data (.packet assocId len addr) ∧
    (t.source = .uniStream → t.recv.status = .finished →
      (Command.packet assocId len addr).serializedLen + len.toNat ≤ t.recv.data.length)
  /-- The stream has not failed. -/
  status : t.recv.status ≠ .failed

section Handlers

variable {token : List Digest} {c c' : Connection} {i : Nat} {t t' : Task} {outcome : Outcome}

/-- How a relay task ends when no bind fails: with the step that puts its packet into a channel,
without the payload, or as a task for something else. -/
theorem relayStep_returns {u u' : Udp} {recv recv' : RecvStream} {r : Relay} {events : List Event}
    (h : relayStep u i recv r outcome = some (u', events, recv', none))
    (hbind : ∀ p, r = .send (.create p) → outcome.succeeds = true) :
    (∃ p sid, r = .send (.push p sid) ∧
        u.sendStep outcome.succeeds (.push p sid) = some (u', .returned true)) ∨
      (∃ assocId len addr, r = .readPayload assocId len addr ∧
        (recv.status = .failed ∨
          recv.status ≠ .receiving ∧ recv.unread.length < len.toNat)) ∨
      (∃ assocId, r = .dissociate assocId) ∨ ∃ pc, r = .connect pc := by
  cases r with
  | dissociate assocId => exact Or.inr (Or.inr (Or.inl ⟨assocId, rfl⟩))
  | connect pc => exact Or.inr (Or.inr (Or.inr ⟨pc, rfl⟩))
  | readPayload assocId len addr =>
    cases relayStep_cases h with
    | noPayload assocId len addr hst => exact Or.inr (Or.inl ⟨assocId, len, addr, rfl, hst⟩)
  | send call =>
    simp only [relayStep] at h
    split at h
    · cases h
    · rename_i u₁ ok hsend
      cases h
      cases call with
      | lookup p =>
        simp only [Udp.sendStep] at hsend
        split at hsend <;> cases hsend
      | create p =>
        rw [Udp.sendStep, if_pos (hbind p rfl)] at hsend
        cases hsend
      | insert p sid => cases hsend
      | push p sid =>
        refine Or.inl ⟨p, sid, rfl, ?_⟩
        cases sendStep_cases hsend with
        | queue p sid ses hses hrun => exact hsend
        | lose p sid ses hses hrun => exact hsend
    · cases h

/-- A relay task for a packet reads the payload or hands the packet over. -/
theorem RelayTask.runs_packet {src : Source} {data : Bytes} {assocId : UInt32} {len : UInt16}
    {addr : Address} {task : RelayTask} {r : Relay}
    (htask : src.relayTask data (.packet assocId len addr) = some task) (hr : task.Runs r) :
    (∀ id, r ≠ .dissociate id) ∧ ∀ pc, r ≠ .connect pc := by
  cases src with
  | uniStream =>
    cases htask
    exact ⟨fun id heq => by rw [heq] at hr; exact hr, fun pc heq => by rw [heq] at hr; exact hr⟩
  | datagram =>
    cases htask
    exact ⟨fun id heq => by rw [heq] at hr; exact hr, fun pc heq => by rw [heq] at hr; exact hr⟩
  | biStream => cases htask

/-- **A handler that comes back from a packet has put it into a channel**, when no bind fails and
the session of its call runs. -/
theorem Task.HandedOver.queued (h : t'.HandedOver) (hs : t.step token c i outcome = some (c', t'))
    (hsound : t.Sound token c) (hplaced : t.Placed)
    (hbind : ∀ p, t.pc = .relay (.send (.create p)) → outcome.succeeds = true)
    (hrun : ∀ p sid, t.pc = .relay (.send (.push p sid)) →
      ∃ ses, c.udpSessions.sessions[sid]? = some ses ∧ ses.running = true) :
    c'.udpSessions.queuedPackets.length = c.udpSessions.queuedPackets.length + 1 := by
  obtain ⟨assocId, len, addr, hcarries, hwhole⟩ := h.packet
  have hstep := taskStep_cases hs
  obtain ⟨hsrc, hdata, hst⟩ := hstep.stream_eq
  have hentered := hstep.enteredBy
  have hstatus := h.status
  have hsound := hsound.2
  rw [hdata, hsrc, hst] at hwhole
  rw [hdata] at hcarries
  rw [hst] at hstatus
  rw [h.done] at hentered
  rcases hentered with hpc | ⟨cmd, cell, hpc, hdispatch⟩ | ⟨r, events, recv, hpc, -⟩
  · -- the item is an `Authenticate`
    rw [hpc] at hsound
    obtain ⟨-, -, digest, -, hauth⟩ := hsound
    cases hauth.unique hcarries
  · -- a packet is dispatched to a relay task
    rw [hpc] at hsound
    obtain ⟨hcmd, hawait, -⟩ := hsound
    cases hcmd.unique hcarries
    cases dispatch_cases hcmd hawait hdispatch
  · rw [hpc] at hsound
    obtain ⟨cmd, task, hcmd, htask, hruns, -⟩ := hsound
    cases hcmd.unique hcarries
    rw [Task.step, hpc] at hs
    simp only at hs
    split at hs
    · rename_i u events recv r' hrelay
      cases hs
      have hnone : r' = none := by
        cases r' with
        | none => rfl
        | some r' => cases h.done
      subst hnone
      rcases relayStep_returns hrelay (fun p hr => hbind p (hr ▸ hpc)) with
        ⟨p, sid, rfl, hsend⟩ | ⟨assocId', len', addr', rfl, hbroken⟩ | ⟨id, rfl⟩ | ⟨pc, rfl⟩
      · obtain ⟨ses, hses, hses'⟩ := hrun p sid hpc
        cases sendStep_cases hsend with
        | queue p sid ses hses hrun =>
          change (Udp.emit _ (.queued p sid)).queuedPackets.length = _
          rw [Udp.queuedPackets, Udp.filterMap_emit, List.length_append]
          rfl
        | lose p sid ses₀ hses₀ hended =>
          rw [hses] at hses₀
          cases hses₀
          rw [hses'] at hended
          cases hended
      · -- the payload was there, since the stream has not broken off
        rw [Task.Placed, hpc] at hplaced
        obtain ⟨hsource, hheader, hpos⟩ := hplaced
        cases hheader.unique hcarries
        rcases hbroken with hfailed | ⟨hover, hshort⟩
        · exact absurd hfailed hstatus
        · have hfinished : t.recv.status = .finished := by
            cases hrecv : t.recv.status with
            | receiving => exact absurd hrecv hover
            | finished => rfl
            | failed => exact absurd hrecv hstatus
          have hlen := hwhole hsource hfinished
          rw [RecvStream.unread, List.length_drop, hpos] at hshort
          omega
      · exact absurd rfl ((RelayTask.runs_packet htask hruns).1 id)
      · exact absurd rfl ((RelayTask.runs_packet htask hruns).2 pc)
    · cases hs

end Handlers

/-- Nothing is taken out of the record of the channels. -/
theorem UdpStep.queued_prefix {maxPktSize : Nat} {u u' : Udp} {a : Action}
    (h : UdpStep maxPktSize u a u') : u.queuedPackets <+: u'.queuedPackets := by
  have hemit : ∀ (u : Udp) (e : UdpEvent), u.queuedPackets <+: (u.emit e).queuedPackets :=
    fun u e => ⟨e.packet?.toList, (u.filterMap_emit e UdpEvent.packet?).symm⟩
  cases h with
  | same => exact List.prefix_rfl
  | hangUp => exact List.prefix_rfl
  | drop => exact List.prefix_rfl
  | dissociate a assocId => exact hemit { u with map := u.map.erase assocId } _
  | session sid ses st u' hses hmove =>
    rw [hmove.queued]
  | send a call u' n hsend =>
    cases hsend with
    | hit p sid hl => exact List.prefix_rfl
    | miss p hl => exact List.prefix_rfl
    | bindFails p => exact List.prefix_rfl
    | create p =>
      exact hemit { u with sessions := u.sessions ++ [UdpSession.new p.assocId] } _
    | insert p sid => exact hemit { u with map := u.map.insert p.assocId sid } _
    | queue p sid ses hses hrun => exact hemit (u.setSession sid _) _
    | lose p sid ses hses hrun => exact hemit u _

namespace Established

variable {cfg : Config} {s s' : Established} {a : Action}

/-- The record of the channels only grows. -/
theorem Step.queued_le (h : Step cfg s a s') :
    s.conn.udpSessions.queuedPackets.length ≤ s'.conn.udpSessions.queuedPackets.length := by
  rcases h.udp_cases with ⟨r, rest, -, hudp, -⟩ | ⟨hudp, -⟩
  · rw [hudp]
    exact Nat.le_refl _
  · exact hudp.queued_prefix.length_le

/-- Every handler that has come back from a packet has an entry of its own in the record of the
channels. -/
def Accounted (s : Established) : Prop :=
  ∃ owners : List Nat, owners.length ≤ s.conn.udpSessions.queuedPackets.length ∧
    ∀ (i : Nat) (t : Task), s.tasks[i]? = some t → t.HandedOver → i ∈ owners

/-- A handler that has come back from its packet when something happens on its stream had come back
before. -/
theorem handedOver_of_on {t : Task} {ev : StreamEvent} {recv : RecvStream}
    (hs : t.Sound cfg.token s.conn) (hon : t.recv.on ev = some recv)
    (h : ({ t with recv := recv } : Task).HandedOver) : t.HandedOver := by
  obtain ⟨hst, -, x, hx⟩ := RecvStream.on_cases hon
  have hpc : t.pc = .done := h.done
  have hsound := hs.2
  rw [hpc] at hsound
  obtain ⟨cmd, hcmd, -⟩ := hsound
  obtain ⟨assocId, len, addr, hcarries, -⟩ := h.packet
  have hwhole : Carries recv.data cmd := hx ▸ hcmd.append x
  cases hwhole.unique hcarries
  refine ⟨hpc, ⟨assocId, len, addr, hcmd, fun _ hfinished => ?_⟩, ?_⟩
  · rw [hst] at hfinished
    cases hfinished
  · rw [hst]
    exact nofun

/-- A handler that has come back from a packet had done so before, or puts it into a channel. -/
theorem handedOver_cases
    (hr : (connectionSystem cfg).ReachableBy (fun s a => s.isSmooth a = true) s)
    (hsmooth : s.isSmooth a = true) (hs : (connectionSystem cfg).step s a = some s') {j : Nat}
    {t' : Task} (hj : s'.tasks[j]? = some t') (hover : t'.HandedOver) :
    (∃ t, s.tasks[j]? = some t ∧ t.HandedOver) ∨
      ∃ outcome, a = .task j outcome ∧
        s'.conn.udpSessions.queuedPackets.length =
          s.conn.udpSessions.queuedPackets.length + 1 := by
  have hsound := sound_of_reachable hr
  rcases (step_cases hs).task_cases hj with ⟨hj₀, -⟩ | ⟨-, hfresh⟩ | ⟨outcome, t, rfl, hj₀, -⟩ |
    ⟨ev, t, recv, -, hj₀, hon, rfl⟩
  · exact Or.inl ⟨t', hj₀, hover⟩
  · have hread := hfresh.1
    rw [hover.done] at hread
    cases hread
  · obtain ⟨t₀, conn, t₁, hj₁, htask, rfl⟩ := exists_of_step_task hs
    cases hj₀.symm.trans hj₁
    cases hj.symm.trans (getElem?_set_of_some hj₀)
    refine Or.inr ⟨outcome, rfl, hover.queued htask (hsound j t hj₀)
      (placed_of_reachable hr j t hj₀) ?_ ?_⟩
    · intro p hpc
      rw [isSmooth, hj₀, Option.map_some, hpc] at hsmooth
      exact hsmooth
    · intro p sid hpc
      have hcall : t.call = some (.push p sid) := congrArg Pc.call hpc
      exact running_of_held hr sid (Or.inr ⟨j, _, hcall ▸ getElem?_calls hj₀, rfl⟩)
  · exact Or.inl ⟨t, hj₀, handedOver_of_on (hsound j t hj₀) hon hover⟩

/-- **Every handler of a smooth run that has come back from a packet has put one into a channel.**
-/
theorem accounted_of_reachable
    (h : (connectionSystem cfg).ReachableBy (fun s a => s.isSmooth a = true) s) :
    s.Accounted := by
  refine h.invariant (I := Accounted) ⟨[], Nat.zero_le _, fun i t hi => by cases hi⟩ ?_
  rintro s a s' hr ⟨owners, hlen, hown⟩ hsmooth hs
  -- a handler that puts a packet into a channel gets the new entry
  by_cases ha : ∃ i outcome, a = .task i outcome ∧
      s'.conn.udpSessions.queuedPackets.length = s.conn.udpSessions.queuedPackets.length + 1
  · obtain ⟨i, outcome, rfl, hgrows⟩ := ha
    refine ⟨owners ++ [i], ?_, fun j t' hj hover => ?_⟩
    · rw [List.length_append, List.length_singleton, hgrows]
      omega
    · rcases handedOver_cases hr hsmooth hs hj hover with ⟨t, hj₀, hold⟩ | ⟨outcome', heq, -⟩
      · exact List.mem_append_left _ (hown j t hj₀ hold)
      · cases heq
        exact List.mem_append_right _ (List.mem_singleton_self _)
  · refine ⟨owners, hlen.trans (step_cases hs).queued_le, fun j t' hj hover => ?_⟩
    rcases handedOver_cases hr hsmooth hs hj hover with ⟨t, hj₀, hold⟩ | ⟨outcome, heq, hgrows⟩
    · exact hown j t hj₀ hold
    · exact absurd ⟨j, outcome, heq, hgrows⟩ ha

end Established

end Tuic.Server
