import Tuic.Server.Udp

/-! # The session table under concurrent calls

`udpSystem` runs any number of `send` calls, `dissociate`s and session tasks over one `Udp` state in
any interleaving of their steps. The step functions are inverted once: `SendStep` for a call,
`SessionEffect` for a session task, and `UdpPool.Step` for the system, which every invariant is
proved from. The first of these is that the table, the calls and the log name sessions of their own
association (`UdpPool.Wf`). -/

namespace Tuic.Server

open ByteCodec Transition

/-! ## The system -/

/-- The shared state, and for every task the call of `send` it is in. -/
structure UdpPool where
  /-- The shared state. -/
  udp : Udp
  /-- The calls under way. -/
  calls : List (Option SendCall)

/-- A step of the session table and its users. -/
inductive UdpAction where
  /-- A new task appears. -/
  | spawn
  /-- A task calls `send`. -/
  | call (i : Nat) (p : Packet)
  /-- The call of a task makes a step. -/
  | step (i : Nat) (bindOk : Bool)
  /-- Some task calls `dissociate`. -/
  | dissociate (assocId : UInt32)
  /-- A session task makes a step. -/
  | session (sid : SessionId) (step : SessionStep)
  /-- The connection takes a received packet out of its channel. -/
  | receive
  /-- The connection drops the receiving end of that channel. -/
  | hangUp
  /-- The last handle of the table is dropped, and the table with it. -/
  | drop
  deriving DecidableEq

/-- The session task the action is one of, and its step. -/
def UdpAction.session? : UdpAction → Option (SessionId × SessionStep)
  | .session sid st => some (sid, st)
  | _ => none

namespace UdpPool

/-- Whether some sender of the channel of a session exists: in the table or in a call. -/
def hasSender (s : UdpPool) (sid : SessionId) : Bool :=
  s.udp.map.entries.any (fun e => e.2 == sid) ||
    s.calls.any fun c => c.bind SendCall.sender == some sid

/-- The effect of an action. -/
def step (maxPktSize : Nat) (s : UdpPool) : UdpAction → Option UdpPool
  | .spawn => some { s with calls := s.calls ++ [none] }
  | .call i p =>
    match s.calls[i]? with
    | some none => some { s with calls := s.calls.set i (some (.lookup p)) }
    | _ => none
  | .step i bindOk =>
    match s.calls[i]? with
    | some (some c) =>
      match s.udp.sendStep bindOk c with
      | some (u, .call c) => some ⟨u, s.calls.set i (some c)⟩
      | some (u, .returned _) => some ⟨u, s.calls.set i none⟩
      | none => none
    | _ => none
  | .dissociate assocId => some { s with udp := s.udp.dissociate assocId }
  | .session sid st =>
    match s.udp.sessionStep maxPktSize (s.hasSender sid) sid st with
    | some u => some { s with udp := u }
    | none => none
  | .receive =>
    match s.udp.recvPkt with
    | [] => none
    | _ :: rest => some { s with udp := { s.udp with recvPkt := rest } }
  | .hangUp => some { s with udp := s.udp.hangUp }
  | .drop =>
    if s.calls.all (· == none) then some { s with udp := { s.udp with map := ∅ } } else none

end UdpPool

/-- The session table of a connection with all its users. -/
def udpSystem (maxPktSize : Nat) : System UdpPool UdpAction where
  init := ⟨Udp.new, []⟩
  step := UdpPool.step maxPktSize

/-! ## What a step does -/

/-- The steps of a `send` call, one case each. -/
inductive SendStep (u : Udp) : SendCall → Udp → SendNext → Prop where
  /-- The association is in the table. -/
  | hit (p : Packet) (sid : SessionId) (h : u.map.lookup p.assocId = some sid) :
      SendStep u (.lookup p) u (.call (.push p sid))
  /-- The association is not in the table. -/
  | miss (p : Packet) (h : u.map.lookup p.assocId = none) :
      SendStep u (.lookup p) u (.call (.create p))
  /-- The socket is bound and the session task spawned. -/
  | create (p : Packet) :
      SendStep u (.create p)
        ({ u with sessions := u.sessions ++ [UdpSession.new p.assocId] }.emit
          (.created p.assocId u.sessions.length))
        (.call (.insert p u.sessions.length))
  /-- The socket cannot be bound. -/
  | bindFails (p : Packet) : SendStep u (.create p) u (.returned false)
  /-- The session is put into the table, over an entry that may be there by now. -/
  | insert (p : Packet) (sid : SessionId) :
      SendStep u (.insert p sid)
        ({ u with map := u.map.insert p.assocId sid }.emit (.inserted p.assocId sid))
        (.call (.push p sid))
  /-- The packet is put into the channel of a running session. -/
  | queue (p : Packet) (sid : SessionId) (ses : UdpSession) (h : u.sessions[sid]? = some ses)
      (hrun : ses.running = true) :
      SendStep u (.push p sid)
        ((u.setSession sid { ses with queue := ses.queue ++ [(p.pkt, p.addr)] }).emit
          (.queued p sid)) (.returned true)
  /-- The session has ended, and the packet is dropped. -/
  | lose (p : Packet) (sid : SessionId) (ses : UdpSession) (h : u.sessions[sid]? = some ses)
      (hrun : ses.running = false) :
      SendStep u (.push p sid) (u.emit (.lost p sid)) (.returned true)

/-- Every step of `sendStep` is one of these. -/
theorem sendStep_cases {u u' : Udp} {bindOk : Bool} {c : SendCall} {n : SendNext}
    (h : u.sendStep bindOk c = some (u', n)) : SendStep u c u' n := by
  cases c with
  | lookup p =>
    simp only [Udp.sendStep] at h
    split at h
    · rename_i sid hlook
      cases h
      exact .hit p sid hlook
    · rename_i hlook
      cases h
      exact .miss p hlook
  | create p =>
    simp only [Udp.sendStep] at h
    split at h
    · cases h
      exact .create p
    · cases h
      exact .bindFails p
  | insert p sid =>
    cases h
    exact .insert p sid
  | push p sid =>
    simp only [Udp.sendStep] at h
    split at h
    · cases h
    · rename_i ses hses
      split at h
      · rename_i hrun
        split at h
        · cases h
          exact .queue p sid ses hses hrun
        · cases h
      · rename_i hrun
        cases h
        exact .lose p sid ses hses (by simpa using hrun)

/-- A call keeps its packet. -/
theorem packet_of_sendStep {u u' : Udp} {c c' : SendCall} (h : SendStep u c u' (.call c')) :
    c'.packet = c.packet := by
  cases h <;> rfl

/-- The step ends the session. -/
inductive UdpSession.Ends (hasSender : Bool) (ses : UdpSession) : SessionStep → Prop where
  /-- There is nothing to send, and no sender. -/
  | disconnected (hsending : ses.sending = none) (hqueue : ses.queue = [])
      (hgone : hasSender = false) : Ends hasSender ses .disconnected
  /-- A packet cannot be sent. -/
  | sendTo (p : Bytes × Address) (hsending : ses.sending = some p) :
      Ends hasSender ses (.sendTo false)
  /-- Nothing can be received. -/
  | recvFail (hreceived : ses.received = none) : Ends hasSender ses .recvFail

/-- The steps of the task of session `sid`, one case each. -/
inductive SessionMove (maxPktSize : Nat) (hasSender : Bool) (u : Udp) (sid : SessionId)
    (ses : UdpSession) : SessionStep → Udp → Prop where
  /-- A packet is taken out of the channel. -/
  | take (p : Bytes × Address) (queue : List (Bytes × Address)) (hsending : ses.sending = none)
      (hqueue : ses.queue = p :: queue) :
      SessionMove maxPktSize hasSender u sid ses .take
        (u.setSession sid { ses with sending := some p, queue := queue })
  /-- The session ends. -/
  | ends (st : SessionStep) (hends : ses.Ends hasSender st) :
      SessionMove maxPktSize hasSender u sid ses st (u.endSession sid ses)
  /-- A packet is sent out of the socket. -/
  | sendTo (pkt : Bytes) (addr : Address) (hsending : ses.sending = some (pkt, addr)) :
      SessionMove maxPktSize hasSender u sid ses (.sendTo true)
        ((u.setSession sid { ses with sending := none }).emit (.sentTo sid pkt addr))
  /-- A datagram is received, cut off at the size of the buffer. -/
  | recvFrom (data : Bytes) (addr : SocketAddr) (hreceived : ses.received = none) :
      SessionMove maxPktSize hasSender u sid ses (.recvFrom data addr)
        ((u.setSession sid { ses with received := some (data.take maxPktSize, addr) }).emit
          (.receivedFrom sid (data.take maxPktSize) addr))
  /-- What was received is handed on. -/
  | handOn (pkt : Bytes) (addr : SocketAddr) (hreceived : ses.received = some (pkt, addr))
      (hopen : u.recvOpen = true) :
      SessionMove maxPktSize hasSender u sid ses .handOn
        { u.setSession sid { ses with received := none } with
          recvPkt := u.recvPkt ++ [(ses.assocId, pkt, .socketAddress addr)] }
  /-- There is nobody to hand it on to. -/
  | handOnNowhere (pkt : Bytes) (addr : SocketAddr) (hreceived : ses.received = some (pkt, addr))
      (hclosed : u.recvOpen ≠ true) :
      SessionMove maxPktSize hasSender u sid ses .handOn
        (u.setSession sid { ses with received := none })

/-- Every step of a session task is one of these, and the session is running. -/
theorem sessionStep_cases {maxPktSize : Nat} {u u' : Udp} {hasSender : Bool} {sid : SessionId}
    {st : SessionStep} (h : u.sessionStep maxPktSize hasSender sid st = some u') :
    ∃ ses, u.sessions[sid]? = some ses ∧ ses.running = true ∧
      SessionMove maxPktSize hasSender u sid ses st u' := by
  unfold Udp.sessionStep at h
  split at h
  · cases h
  rename_i ses hses
  split at h
  · cases h
  rename_i hrun
  rw [Bool.not_eq_true, Bool.not_eq_false'] at hrun
  refine ⟨ses, hses, hrun, ?_⟩
  cases st with
  | take =>
    simp only at h
    split at h
    · rename_i p queue hsending hqueue
      cases h
      exact .take p queue hsending hqueue
    · cases h
  | disconnected =>
    simp only at h
    split at h
    · rename_i hcond
      cases h
      exact .ends _ (.disconnected hcond.1 hcond.2.1 hcond.2.2)
    · cases h
  | sendTo ok =>
    simp only at h
    split at h
    · cases h
    rename_i pkt addr hsending
    cases ok with
    | true =>
      cases h
      exact .sendTo pkt addr hsending
    | false =>
      cases h
      exact .ends _ (.sendTo (pkt, addr) hsending)
  | recvFrom data addr =>
    simp only at h
    split at h
    · cases h
    · rename_i hreceived
      cases h
      exact .recvFrom data addr hreceived
  | recvFail =>
    simp only at h
    split at h
    · cases h
    · rename_i hreceived
      cases h
      exact .ends _ (.recvFail hreceived)
  | handOn =>
    simp only at h
    split at h
    · cases h
    rename_i pkt addr hreceived
    split at h
    · rename_i hopen
      split at h
      · cases h
        exact .handOn pkt addr hreceived hopen
      · cases h
    · rename_i hclosed
      cases h
      exact .handOnNowhere pkt addr hreceived hclosed

/-- What a step `st` of the task of session `sid` does: the session is `ses` before and `ses'`
after. -/
structure SessionEffect (hasSender : Bool) (sid : SessionId) (st : SessionStep) (u u' : Udp)
    (ses ses' : UdpSession) : Prop where
  /-- It is a step of that session. -/
  session : u.sessions[sid]? = some ses
  /-- The session is running. -/
  running : ses.running = true
  /-- No other session changes. -/
  sessions : u'.sessions = u.sessions.set sid ses'
  /-- The session keeps its association. -/
  assocId : ses'.assocId = ses.assocId
  /-- The table is left alone. -/
  map : u'.map = u.map
  /-- The session ends only by an error, or when no sender is left. -/
  ends : ses'.running = false →
    st = .sendTo false ∨ st = .recvFail ∨ st = .disconnected ∧ hasSender = false
  /-- It does end by an error. -/
  fails : st = .sendTo false ∨ st = .recvFail → ses'.running = false
  /-- Nothing is recorded but what went through the socket. -/
  log : u'.log = u.log ∨ (∃ pkt addr, u'.log = .sentTo sid pkt addr :: u.log) ∨
    ∃ pkt addr, u'.log = .receivedFrom sid pkt addr :: u.log
  /-- What is handed on is for the association of the session. -/
  recvPkt : u'.recvPkt = u.recvPkt ∨
    ∃ pkt addr, u'.recvPkt = u.recvPkt ++ [(ses.assocId, pkt, .socketAddress addr)]

/-- Every step of a session task has such an effect. -/
theorem sessionStep_spec {maxPktSize : Nat} {u u' : Udp} {hasSender : Bool} {sid : SessionId}
    {st : SessionStep} (h : u.sessionStep maxPktSize hasSender sid st = some u') :
    ∃ ses ses', SessionEffect hasSender sid st u u' ses ses' := by
  obtain ⟨ses, hses, hrun, hmove⟩ := sessionStep_cases h
  refine ⟨ses, ?_⟩
  cases hmove with
  | take p queue hsending hqueue =>
    exact ⟨_, hses, hrun, rfl, rfl, rfl, by simp [hrun], by simp, .inl rfl, .inl rfl⟩
  | ends st hends =>
    refine ⟨_, hses, hrun, rfl, rfl, rfl, fun _ => ?_, fun _ => rfl, .inl rfl, .inl rfl⟩
    cases hends with
    | disconnected hsending hqueue hgone => exact .inr (.inr ⟨rfl, hgone⟩)
    | sendTo p hsending => exact .inl rfl
    | recvFail hreceived => exact .inr (.inl rfl)
  | sendTo pkt addr hsending =>
    exact ⟨_, hses, hrun, rfl, rfl, rfl, by simp [hrun], by simp, .inr (.inl ⟨_, _, rfl⟩),
      .inl rfl⟩
  | recvFrom data addr hreceived =>
    exact ⟨_, hses, hrun, rfl, rfl, rfl, by simp [hrun], by simp, .inr (.inr ⟨_, _, rfl⟩),
      .inl rfl⟩
  | handOn pkt addr hreceived hopen =>
    exact ⟨_, hses, hrun, rfl, rfl, rfl, by simp [hrun], by simp, .inl rfl, .inr ⟨_, _, rfl⟩⟩
  | handOnNowhere pkt addr hreceived hclosed =>
    exact ⟨_, hses, hrun, rfl, rfl, rfl, by simp [hrun], by simp, .inl rfl, .inl rfl⟩

/-- The call a task is in after a step of it. -/
def SendNext.call? : SendNext → Option SendCall
  | .call c => some c
  | .returned _ => none

/-- The steps of the system, one case each. -/
inductive UdpPool.Step (maxPktSize : Nat) (s : UdpPool) : UdpAction → UdpPool → Prop where
  /-- A task appears. -/
  | spawn : Step maxPktSize s .spawn { s with calls := s.calls ++ [none] }
  /-- A task that is in no call begins one. -/
  | call (i : Nat) (p : Packet) (hi : s.calls[i]? = some none) :
      Step maxPktSize s (.call i p) { s with calls := s.calls.set i (some (.lookup p)) }
  /-- A call makes a step. -/
  | step (i : Nat) (bindOk : Bool) (c : SendCall) (u : Udp) (n : SendNext)
      (hi : s.calls[i]? = some (some c)) (h : SendStep s.udp c u n) :
      Step maxPktSize s (.step i bindOk) ⟨u, s.calls.set i n.call?⟩
  /-- An association is removed. -/
  | dissociate (assocId : UInt32) :
      Step maxPktSize s (.dissociate assocId) { s with udp := s.udp.dissociate assocId }
  /-- A session task makes a step. -/
  | session (sid : SessionId) (st : SessionStep) (u : Udp)
      (h : s.udp.sessionStep maxPktSize (s.hasSender sid) sid st = some u) :
      Step maxPktSize s (.session sid st) { s with udp := u }
  /-- A received packet is taken out of its channel. -/
  | receive (x : UInt32 × Bytes × Address) (rest : List (UInt32 × Bytes × Address))
      (h : s.udp.recvPkt = x :: rest) :
      Step maxPktSize s .receive { s with udp := { s.udp with recvPkt := rest } }
  /-- The receiving end of that channel is dropped. -/
  | hangUp : Step maxPktSize s .hangUp { s with udp := s.udp.hangUp }
  /-- The table is dropped, with no call under way. -/
  | drop (h : ∀ c ∈ s.calls, c = none) :
      Step maxPktSize s .drop { s with udp := { s.udp with map := ∅ } }

/-- Every step of the system is one of these. -/
theorem UdpPool.step_cases {maxPktSize : Nat} {s s' : UdpPool} {a : UdpAction}
    (h : (udpSystem maxPktSize).step s a = some s') : UdpPool.Step maxPktSize s a s' := by
  have h : s.step maxPktSize a = some s' := h
  cases a with
  | spawn =>
    cases h
    exact .spawn
  | call i p =>
    simp only [UdpPool.step] at h
    split at h
    · rename_i hi
      cases h
      exact .call i p hi
    · cases h
  | step i bindOk =>
    simp only [UdpPool.step] at h
    split at h
    · rename_i c hi
      split at h
      · rename_i u c' hs
        cases h
        exact .step i bindOk c u (.call c') hi (sendStep_cases hs)
      · rename_i u ok hs
        cases h
        exact .step i bindOk c u (.returned ok) hi (sendStep_cases hs)
      · cases h
    · cases h
  | dissociate assocId =>
    cases h
    exact .dissociate assocId
  | session sid st =>
    simp only [UdpPool.step] at h
    split at h
    · rename_i u hu
      cases h
      exact .session sid st u hu
    · cases h
  | receive =>
    simp only [UdpPool.step] at h
    split at h
    · cases h
    · rename_i x rest hx
      cases h
      exact .receive x rest hx
  | hangUp =>
    cases h
    exact .hangUp
  | drop =>
    simp only [UdpPool.step] at h
    split at h
    · rename_i hall
      cases h
      exact .drop (by simpa using hall)
    · cases h

/-- A step of a call is a step of the system. -/
theorem UdpPool.step_of_sendStep (maxPktSize : Nat) {s : UdpPool} {i : Nat} {b : Bool}
    {c : SendCall} {u : Udp} {n : SendNext} (hi : s.calls[i]? = some (some c))
    (h : s.udp.sendStep b c = some (u, n)) :
    (udpSystem maxPktSize).step s (.step i b) = some ⟨u, s.calls.set i n.call?⟩ := by
  show s.step maxPktSize (.step i b) = _
  simp only [UdpPool.step, hi, h]
  cases n <;> rfl

/-! ## Sessions keep their association -/

namespace UdpPool

variable {maxPktSize : Nat} {s s' : UdpPool} {a : UdpAction}

/-- Session `sid` was created for association `id`. -/
def SessionOf (s : UdpPool) (sid : SessionId) (id : UInt32) : Prop :=
  ∃ ses, s.udp.sessions[sid]? = some ses ∧ ses.assocId = id

/-- The task of session `sid` runs: it owns the socket and the receiving end of the channel. -/
def Running (s : UdpPool) (sid : SessionId) : Prop :=
  ∃ ses, s.udp.sessions[sid]? = some ses ∧ ses.running = true

/-- Some sender of the channel of session `sid` exists. -/
def Held (s : UdpPool) (sid : SessionId) : Prop :=
  (∃ id, s.udp.map.lookup id = some sid) ∨
    ∃ (i : Nat) (c : SendCall), s.calls[i]? = some (some c) ∧ c.sender = some sid

/-- `hasSender` decides `Held`. -/
theorem hasSender_iff {sid : SessionId} : s.hasSender sid = true ↔ s.Held sid := by
  simp only [hasSender, Held, Bool.or_eq_true, List.any_eq_true, beq_iff_eq]
  constructor
  · rintro (⟨e, he, rfl⟩ | ⟨c, hc, hsender⟩)
    · exact Or.inl ⟨e.1, AList.mem_lookup_iff.mpr he⟩
    · obtain ⟨i, hi⟩ := List.mem_iff_getElem?.mp hc
      obtain ⟨c, rfl, hsender⟩ := Option.bind_eq_some_iff.mp hsender
      exact Or.inr ⟨i, c, hi, hsender⟩
  · rintro (⟨id, hid⟩ | ⟨i, c, hi, hsender⟩)
    · exact Or.inl ⟨⟨id, sid⟩, AList.mem_lookup_iff.mp hid, rfl⟩
    · exact Or.inr ⟨some c, List.mem_iff_getElem?.mpr ⟨i, hi⟩, hsender⟩

/-- The call at index `j` after the call at index `i` moved on. -/
theorem calls_set_cases {i j : Nat} {n : Option SendCall} {c : SendCall}
    (h : (s.calls.set i n)[j]? = some (some c)) :
    (j = i ∧ n = some c) ∨ (j ≠ i ∧ s.calls[j]? = some (some c)) := by
  rcases getElem?_set_cases h with ⟨rfl, hn⟩ | ⟨hne, hj⟩
  · exact Or.inl ⟨rfl, hn.symm⟩
  · exact Or.inr ⟨hne, hj⟩

/-- A call at another index is not disturbed. -/
theorem calls_set_of_ne {i j : Nat} {n : Option SendCall} {c : SendCall} (hne : j ≠ i)
    (h : s.calls[j]? = some (some c)) : (s.calls.set i n)[j]? = some (some c) := by
  rw [List.getElem?_set_ne (fun he => hne he.symm)]
  exact h

/-- The call that moved on is at its index. -/
theorem calls_set_self {i : Nat} {c : Option SendCall} {n : Option SendCall}
    (h : s.calls[i]? = some c) : (s.calls.set i n)[i]? = some n := by
  rw [getElem?_set_of_some h]

/-- A spawned task is in no call. -/
theorem calls_spawn_cases {j : Nat} {c : SendCall}
    (h : (s.calls ++ [none])[j]? = some (some c)) : s.calls[j]? = some (some c) := by
  rcases getElem?_append_singleton_cases h with ⟨-, hn⟩ | hj
  · cases hn
  · exact hj

/-- A call under way was so before, has just been begun, or has made a step. -/
theorem Step.call_cases (h : Step maxPktSize s a s') {j : Nat} {c : SendCall}
    (hj : s'.calls[j]? = some (some c)) :
    s.calls[j]? = some (some c) ∨ (∃ p, a = .call j p ∧ c = .lookup p) ∨
      ∃ b c₀, a = .step j b ∧ s.calls[j]? = some (some c₀) ∧
        SendStep s.udp c₀ s'.udp (.call c) := by
  cases h with
  | spawn => exact Or.inl (calls_spawn_cases hj)
  | call i p hi =>
    rcases calls_set_cases hj with ⟨rfl, hc⟩ | ⟨-, hj⟩
    · cases hc
      exact Or.inr (Or.inl ⟨p, rfl, rfl⟩)
    · exact Or.inl hj
  | step i b c₀ u n hi hs =>
    rcases calls_set_cases hj with ⟨rfl, hn⟩ | ⟨-, hj⟩
    · cases n with
      | returned ok => cases hn
      | call c' =>
        cases hn
        exact Or.inr (Or.inr ⟨b, c₀, rfl, hi, hs⟩)
    · exact Or.inl hj
  | dissociate id => exact Or.inl hj
  | session k st u hu => exact Or.inl hj
  | receive x rest hx => exact Or.inl hj
  | hangUp => exact Or.inl hj
  | drop hcalls => exact Or.inl hj

/-- A call stays where it is, or makes a step. -/
theorem Step.call_keep (h : Step maxPktSize s a s') {j : Nat} {c : SendCall}
    (hj : s.calls[j]? = some (some c)) :
    s'.calls[j]? = some (some c) ∨ ∃ b n, a = .step j b ∧ SendStep s.udp c s'.udp n ∧
      s'.calls = s.calls.set j n.call? := by
  cases h with
  | spawn =>
    refine Or.inl ?_
    show (s.calls ++ _)[j]? = _
    exact getElem?_append_of_some hj
  | call i p hi =>
    refine Or.inl (calls_set_of_ne ?_ hj)
    -- a task begins a call only when it is in none
    rintro rfl
    rw [hi] at hj
    cases hj
  | step i b c₀ u n hi hs =>
    by_cases hij : j = i
    · subst hij
      rw [hi] at hj
      cases hj
      exact Or.inr ⟨b, n, rfl, hs, rfl⟩
    · exact Or.inl (calls_set_of_ne hij hj)
  | dissociate id => exact Or.inl hj
  | session k st u hu => exact Or.inl hj
  | receive x rest hx => exact Or.inl hj
  | hangUp => exact Or.inl hj
  | drop hcalls => exact Or.inl hj

end UdpPool

/-- Replacing a session by one of the same association keeps all associations. -/
theorem setSession_assoc {u : Udp} {k : SessionId} {ses ses' : UdpSession}
    (hk : u.sessions[k]? = some ses) (hassoc : ses'.assocId = ses.assocId) (sid : SessionId)
    (id : UInt32) :
    (∃ x, (u.sessions.set k ses')[sid]? = some x ∧ x.assocId = id) ↔
      ∃ x, u.sessions[sid]? = some x ∧ x.assocId = id := by
  -- session `k` is replaced by one of its own association, and the others stay
  constructor
  · rintro ⟨x, hx, rfl⟩
    rcases getElem?_set_cases hx with ⟨rfl, rfl⟩ | ⟨-, hx⟩
    · exact ⟨ses, hk, hassoc.symm⟩
    · exact ⟨x, hx, rfl⟩
  · rintro ⟨x, hx, rfl⟩
    by_cases hsid : sid = k
    · subst hsid
      rw [hk] at hx
      cases hx
      exact ⟨ses', getElem?_set_of_some hk, hassoc⟩
    · exact ⟨x, by rw [List.getElem?_set_ne (Ne.symm hsid)]; exact hx, rfl⟩

namespace UdpPool

variable {maxPktSize : Nat} {s s' : UdpPool} {a : UdpAction}

/-- A call creates at most the session it will insert. -/
theorem sessionOf_of_sendStep {u' : Udp} {calls : List (Option SendCall)} {c : SendCall}
    {n : SendNext} (h : SendStep s.udp c u' n) (sid : SessionId) (id : UInt32) :
    SessionOf ⟨u', calls⟩ sid id ↔
      s.SessionOf sid id ∨ ∃ p, n = .call (.insert p sid) ∧ c = .create p ∧ p.assocId = id := by
  cases h with
  | create p =>
    constructor
    · rintro ⟨x, hx, rfl⟩
      rcases getElem?_append_singleton_cases hx with ⟨rfl, rfl⟩ | hx
      · exact Or.inr ⟨p, rfl, rfl, rfl⟩
      · exact Or.inl ⟨x, hx, rfl⟩
    · rintro (⟨x, hx, rfl⟩ | ⟨p', hn, hc, rfl⟩)
      · refine ⟨x, ?_, rfl⟩
        show (s.udp.sessions ++ _)[sid]? = some x
        exact getElem?_append_of_some hx
      · cases hc
        cases hn
        exact ⟨_, List.getElem?_concat_length, rfl⟩
  | queue p k ses hk hrun =>
    simp only [reduceCtorEq, false_and, exists_false, or_false]
    have hassoc : { ses with queue := ses.queue ++ [(p.pkt, p.addr)] }.assocId = ses.assocId := rfl
    exact setSession_assoc hk hassoc sid id
  | hit p k hk => simp [SessionOf]
  | miss p hk => simp [SessionOf]
  | bindFails p => simp [SessionOf]
  | insert p k => simp [SessionOf, Udp.emit]
  | lose p k ses hk hrun => simp [SessionOf, Udp.emit]

/-- **Sessions come and stay.** A step creates a session only as a call's own, and no session
changes its association. -/
theorem Step.sessionOf_iff (h : Step maxPktSize s a s') (sid : SessionId) (id : UInt32) :
    s'.SessionOf sid id ↔ s.SessionOf sid id ∨
      ∃ i b p, a = .step i b ∧ s.calls[i]? = some (some (.create p)) ∧ p.assocId = id ∧
        s'.calls[i]? = some (some (.insert p sid)) := by
  cases h with
  | step i b c u n hi hs =>
    rw [sessionOf_of_sendStep hs]
    constructor
    · rintro (hold | ⟨p, rfl, rfl, hid⟩)
      · exact Or.inl hold
      · exact Or.inr ⟨i, b, p, rfl, hi, hid, calls_set_self hi⟩
    · rintro (hold | ⟨j, b', p, ha, hj, hid, hnew⟩)
      · exact Or.inl hold
      · cases ha
        rw [hi] at hj
        cases hj
        rw [calls_set_self hi] at hnew
        cases n with
        | call c' =>
          cases hnew
          exact Or.inr ⟨p, rfl, rfl, hid⟩
        | returned ok => cases hnew
  | session k st u hu =>
    obtain ⟨ses, ses', heff⟩ := sessionStep_spec hu
    simp only [reduceCtorEq, false_and, exists_false, or_false, SessionOf]
    rw [heff.sessions]
    exact setSession_assoc heff.session heff.assocId sid id
  | spawn => simp [SessionOf]
  | call i p hi => simp [SessionOf]
  | dissociate id' => simp [SessionOf, Udp.dissociate, Udp.emit]
  | receive x rest hx => simp [SessionOf]
  | hangUp => simp [SessionOf, Udp.hangUp]
  | drop hcalls => simp [SessionOf]

/-- **Well-formedness.** The table, the calls and the log name sessions of their own
association. -/
structure Wf (s : UdpPool) : Prop where
  /-- An entry of the table is a session of its association. -/
  map : ∀ id sid, s.udp.map.lookup id = some sid → s.SessionOf sid id
  /-- A call holds a sender of a session of its packet's association. -/
  calls : ∀ (i : Nat) (c : SendCall) (sid : SessionId), s.calls[i]? = some (some c) →
    c.sender = some sid → s.SessionOf sid c.packet.assocId
  /-- A packet was queued for, or lost to, a session of its association. -/
  log : ∀ p sid, .queued p sid ∈ s.udp.log ∨ .lost p sid ∈ s.udp.log → s.SessionOf sid p.assocId

/-- A step of a call inserts its session into the table, or leaves the table alone. -/
theorem table_of_sendStep {u u' : Udp} {c : SendCall} {n : SendNext} (h : SendStep u c u' n) :
    u'.map = u.map ∨ ∃ p sid, c = .insert p sid ∧ u'.map = u.map.insert p.assocId sid := by
  cases h with
  | insert p k => exact Or.inr ⟨p, k, rfl, rfl⟩
  | hit p k hk => exact Or.inl rfl
  | miss p hk => exact Or.inl rfl
  | create p => exact Or.inl rfl
  | bindFails p => exact Or.inl rfl
  | queue p k ses hk hrun => exact Or.inl rfl
  | lose p k ses hk hrun => exact Or.inl rfl

/-- What is in the table after a step of a call was there before or is what the call inserted. -/
theorem map_of_sendStep {u u' : Udp} {c : SendCall} {n : SendNext} (h : SendStep u c u' n)
    {id : UInt32} {sid : SessionId} (hl : u'.map.lookup id = some sid) :
    u.map.lookup id = some sid ∨ ∃ p, c = .insert p sid ∧ p.assocId = id := by
  rcases table_of_sendStep h with hmap | ⟨p, k, rfl, hmap⟩
  · exact Or.inl (hmap ▸ hl)
  · rw [hmap] at hl
    by_cases hid : id = p.assocId
    · subst hid
      rw [AList.lookup_insert] at hl
      cases hl
      exact Or.inr ⟨p, rfl, rfl⟩
    · rw [AList.lookup_insert_ne hid] at hl
      exact Or.inl hl

/-- What is in the table was there before or has just been inserted by a call. -/
theorem Step.map_cases (h : Step maxPktSize s a s') {id : UInt32} {sid : SessionId}
    (hl : s'.udp.map.lookup id = some sid) :
    s.udp.map.lookup id = some sid ∨ ∃ i b p, a = .step i b ∧
      s.calls[i]? = some (some (.insert p sid)) ∧ p.assocId = id ∧
      s'.calls[i]? = some (some (.push p sid)) := by
  cases h with
  | step i b c u n hi hs =>
    rcases map_of_sendStep hs hl with hl | ⟨p, rfl, hid⟩
    · exact Or.inl hl
    · cases hs
      exact Or.inr ⟨i, b, p, rfl, hi, hid, calls_set_self hi⟩
  | dissociate id' =>
    refine Or.inl ?_
    by_cases hid : id = id'
    · subst hid
      rw [Udp.dissociate_map, AList.lookup_erase] at hl
      cases hl
    · rwa [Udp.dissociate_map, AList.lookup_erase_ne hid] at hl
  | session k st u hu =>
    obtain ⟨_, _, heff⟩ := sessionStep_spec hu
    exact Or.inl (heff.map ▸ hl)
  | drop hcalls => cases hl
  | spawn => exact Or.inl hl
  | call i p hi => exact Or.inl hl
  | receive x rest hx => exact Or.inl hl
  | hangUp => exact Or.inl hl

/-- A packet is recorded as queued or lost only by the call that holds it. -/
theorem log_of_sendStep {u u' : Udp} {c : SendCall} {n : SendNext} (h : SendStep u c u' n)
    {p : Packet} {sid : SessionId} (hl : .queued p sid ∈ u'.log ∨ .lost p sid ∈ u'.log) :
    (.queued p sid ∈ u.log ∨ .lost p sid ∈ u.log) ∨ c = .push p sid := by
  cases h with
  | hit p k hk => exact Or.inl hl
  | miss p hk => exact Or.inl hl
  | create p => simpa [Udp.emit] using hl
  | bindFails p => exact Or.inl hl
  | insert p k => simpa [Udp.emit] using hl
  | queue p k ses hk hrun =>
    simp only [Udp.emit, Udp.setSession, List.mem_cons, UdpEvent.queued.injEq, reduceCtorEq,
      false_or] at hl
    rcases hl with (⟨rfl, rfl⟩ | hl) | hl
    exacts [Or.inr rfl, Or.inl (Or.inl hl), Or.inl (Or.inr hl)]
  | lose p k ses hk hrun =>
    simp only [Udp.emit, List.mem_cons, UdpEvent.lost.injEq, reduceCtorEq, false_or] at hl
    rcases hl with hl | ⟨rfl, rfl⟩ | hl
    exacts [Or.inl (Or.inl hl), Or.inr rfl, Or.inl (Or.inr hl)]

/-- The sender a call holds was found in the table, is that of the session it created, or was held
before. -/
theorem sender_of_sendStep {u u' : Udp} {c c' : SendCall} (h : SendStep u c u' (.call c'))
    {sid : SessionId} (hs : c'.sender = some sid) :
    c'.packet = c.packet ∧ (c.sender = some sid ∨ u.map.lookup c.packet.assocId = some sid ∨
      ∃ p, c = .create p ∧ c' = .insert p sid) := by
  cases h with
  | hit p k hk =>
    cases hs
    exact ⟨rfl, Or.inr (Or.inl hk)⟩
  | miss p hk => cases hs
  | create p =>
    cases hs
    exact ⟨rfl, Or.inr (Or.inr ⟨p, rfl, rfl⟩)⟩
  | insert p k => exact ⟨rfl, Or.inl hs⟩

/-- Session steps record nothing about queued or lost packets. -/
theorem log_of_sessionStep {u u' : Udp} {hasSender : Bool} {k : SessionId} {st : SessionStep}
    (h : u.sessionStep maxPktSize hasSender k st = some u') {p : Packet} {sid : SessionId} :
    (.queued p sid ∈ u'.log ∨ .lost p sid ∈ u'.log) ↔
      (.queued p sid ∈ u.log ∨ .lost p sid ∈ u.log) := by
  obtain ⟨_, _, heff⟩ := sessionStep_spec h
  rcases heff.log with hlog | ⟨_, _, hlog⟩ | ⟨_, _, hlog⟩ <;> simp [hlog]

/-- Well-formedness is kept by every step. -/
theorem Wf.step (hwf : s.Wf) (h : Step maxPktSize s a s') : s'.Wf := by
  have hkeep : ∀ {sid id}, s.SessionOf sid id → s'.SessionOf sid id :=
    fun hs => (h.sessionOf_iff _ _).mpr (Or.inl hs)
  have hiff := h.sessionOf_iff
  cases h with
  | spawn =>
    exact ⟨hwf.map, fun i c sid hi => hwf.calls i c sid (calls_spawn_cases hi), hwf.log⟩
  | call i p hi =>
    refine ⟨hwf.map, fun j c sid hj hsender => ?_, hwf.log⟩
    rcases calls_set_cases hj with ⟨rfl, hc⟩ | ⟨-, hj⟩
    · cases hc
      cases hsender
    · exact hwf.calls j c sid hj hsender
  | step i b c u n hi hs =>
    refine ⟨fun id sid hl => ?_, fun j c' sid hj hsender => ?_, fun p sid hl => ?_⟩
    -- an entry that is new is of the session the call was about to insert
    · rcases map_of_sendStep hs hl with hl | ⟨p, rfl, rfl⟩
      · exact hkeep (hwf.map id sid hl)
      · exact hkeep (hwf.calls i _ sid hi rfl)
    · rcases calls_set_cases hj with ⟨rfl, hn⟩ | ⟨-, hj⟩
      · cases n with
        | returned ok => cases hn
        | call c'' =>
          cases hn
          -- a sender comes from the call itself, from the table, or with a new session
          obtain ⟨hp, hold | hfound | ⟨p, rfl, rfl⟩⟩ := sender_of_sendStep hs hsender
          · exact hp ▸ hkeep (hwf.calls j c sid hi hold)
          · exact hp ▸ hkeep (hwf.map _ sid hfound)
          · exact (hiff sid _).mpr (Or.inr ⟨j, b, p, rfl, hi, rfl, hj⟩)
      · exact hkeep (hwf.calls j c' sid hj hsender)
    · rcases log_of_sendStep hs hl with hl | rfl
      · exact hkeep (hwf.log p sid hl)
      · exact hkeep (hwf.calls i _ sid hi rfl)
  | dissociate id =>
    refine ⟨fun id' sid hl => ?_, fun i c sid hi hs => hwf.calls i c sid hi hs, fun p sid hl => ?_⟩
    · by_cases hid : id' = id
      · subst hid
        simp only [Udp.dissociate_map, AList.lookup_erase] at hl
        cases hl
      · exact hwf.map id' sid (by rwa [← AList.lookup_erase_ne hid])
    · exact hwf.log p sid (by simpa [Udp.dissociate, Udp.emit] using hl)
  | session k st u hu =>
    obtain ⟨_, _, heff⟩ := sessionStep_spec hu
    exact ⟨fun id sid hl => hkeep (hwf.map id sid (heff.map ▸ hl)),
      fun i c sid hi hs => hkeep (hwf.calls i c sid hi hs),
      fun p sid hl => hkeep (hwf.log p sid ((log_of_sessionStep hu).mp hl))⟩
  | receive x rest hx => exact ⟨hwf.map, hwf.calls, hwf.log⟩
  | hangUp => exact ⟨hwf.map, hwf.calls, hwf.log⟩
  | drop hcalls => exact ⟨fun id sid hl => (by cases hl), hwf.calls, hwf.log⟩

/-- Every reachable state is well-formed. -/
theorem wf_of_reachable {C : UdpPool → UdpAction → Prop}
    (h : (udpSystem maxPktSize).ReachableBy C s) : s.Wf := by
  refine h.invariant ⟨fun _ _ hl => ?_, fun _ _ _ hi => ?_, fun _ _ hl => ?_⟩
    fun s a s' _ hwf _ hstep => hwf.step (step_cases hstep)
  · cases hl
  · simp [udpSystem] at hi
  · simp [udpSystem, Udp.new] at hl

end UdpPool

end Tuic.Server
