import Tuic.Client.Application
import Tuic.Client.Associations

/-! # The applications of a client

The handlers of the SOCKS5 associations of all applications, together with the client connection
they use (`applicationsSystem`): its session table, the tasks of their requests, and the tasks of
the packets that come back. A request may get no connection in time, and then drops its ends of the
channels without a word.

`sessions_of_reachable` says that the connection goes through runs of `sessionsSystem`, in which the
handlers are the applications. -/

namespace Tuic.Client.Socks5

open ByteCodec Transition

/-! ## All applications of a client -/

/-- The applications of a client and the connection they use. -/
structure Applications where
  /-- The connection, as far as it sends. -/
  conn : Connection
  /-- The receiving side of the connection. -/
  receiving : Receiving
  /-- The handlers, each named by its index. -/
  apps : List Application

/-- A step of the applications, the connection or its server. -/
inductive ApplicationsAction where
  /-- An application asks for an association. -/
  | accept
  /-- Of a handler. -/
  | handle (h : Nat) (st : HandleStep)
  /-- The request of a handler gets the connection; any id may be drawn for it. -/
  | serve (h : Nat) (assocId : UInt32)
  /-- The request of a handler gets no connection in time. -/
  | timeout (h : Nat)
  /-- Of the request of a handler, once it has the connection. -/
  | associate (h : Nat)
  /-- The heartbeat task sends a heartbeat. -/
  | heartbeat
  /-- Of a sending task. -/
  | send (k : Nat) (outcome : SendOutcome)
  /-- The connection is closed. -/
  | close
  /-- A datagram or a stream comes in, with these bytes so far. -/
  | incoming (channel : Channel) (recv : RecvStream)
  /-- The server goes on with the stream of an incoming packet. -/
  | arrive (j : Nat) (ev : Server.StreamEvent)
  /-- The task of an incoming packet goes on. -/
  | receive (j : Nat)
  /-- The stream of an incoming packet fails under the task. -/
  | receiveFails (j : Nat) (err : IoError)

namespace Applications

/-- What is in the receive channel of a handler. -/
def inbox (s : Applications) (app : Application) : List Inbound :=
  match app.request with
  | .served a => (s.receiving.inbox a).queue
  | .unsent | .waiting | .dropped => []

/-- Association `a` has a sender of its receive channel: its request before it enters the session
table, the session table, or the task of an incoming packet. -/
def hasSenderOf (s : Applications) (a : Nat) : Bool :=
  (s.conn.assocs[a]?.map Association.pc == some .insert) ||
    s.conn.udpSessions.entries.any (fun e => e.2 == a) ||
    s.receiving.tasks.any fun t =>
      match t.pc with
      | .send b _ _ => b == a
      | _ => false

/-- The receive channel of a handler has a sender. -/
def hasSender (s : Applications) (app : Application) : Bool :=
  match app.request with
  | .unsent | .waiting => true
  | .served a => s.hasSenderOf a
  | .dropped => false

/-- The receiving side after a step of a handler. -/
def onInbox (s : Applications) (app : Application) (effect : InboxEffect) : Option Receiving :=
  match app.request, effect with
  | .served a, .take => s.receiving.step s.conn.udpSessions (.take a)
  | .served a, .hangUp => s.receiving.step s.conn.udpSessions (.hangUp a)
  | _, _ => some s.receiving

/-- What the task of a request does next: it goes on, gets what is in the send channel, or finds
that the handler has dropped its end. -/
def associateStep (app : Application) : AssociatePc → Option AssociateStep
  | .insert | .remove => some .go
  | .recv =>
    match app.outbox with
    | m :: _ => some (.recv (some m.1))
    | [] => if app.isAttached then none else some (.recv none)
  | .dissociate => none

/-- One step of the applications, the connection or its server. -/
def step (s : Applications) : ApplicationsAction → Option Applications
  | .accept => some { s with apps := s.apps ++ [.new] }
  | .handle h st =>
    match s.apps[h]? with
    | none => none
    | some app =>
      match app.step (s.inbox app) (s.hasSender app) st with
      | none => none
      | some (app', effect) =>
        (s.onInbox app effect).map fun r => { s with receiving := r, apps := s.apps.set h app' }
  | .serve h assocId =>
    match s.apps[h]? with
    | none => none
    | some app =>
      if app.request = .waiting then
        let a := s.conn.assocs.length
        let app' := { app with request := .served a }
        -- the handler may be gone by now, and its end of the receive channel with it
        let receiving := if app.isAttached then some s.receiving
          else s.receiving.step s.conn.udpSessions (.hangUp a)
        match s.conn.step (.request assocId), receiving with
        | some c, some r => some ⟨c, r, s.apps.set h app'⟩
        | _, _ => none
      else none
  | .timeout h =>
    match s.apps[h]? with
    | none => none
    | some app =>
      if app.request = .waiting then
        some { s with apps := s.apps.set h { app with request := .dropped } }
      else none
  | .associate h =>
    match s.apps[h]? with
    | none => none
    | some app =>
      match app.request with
      | .served a =>
        match s.conn.assocs[a]? with
        | none => none
        | some assoc =>
          match associateStep app assoc.pc with
          | none => none
          | some st => (s.conn.step (.associate a st)).map fun c =>
            -- only a packet is taken out of the send channel
            { s with conn := c, apps := s.apps.set h (if assoc.pc = .recv then app.relay else app) }
      | .unsent | .waiting | .dropped => none
  | .heartbeat => (s.conn.step .heartbeat).map fun c => { s with conn := c }
  | .send k outcome => (s.conn.step (.send k outcome)).map fun c => { s with conn := c }
  | .close => (s.conn.step .close).map fun c => { s with conn := c }
  | .incoming channel recv =>
    some { s with receiving := s.receiving.spawn ⟨channel, recv, .parse⟩ }
  | .arrive j ev =>
    match s.receiving.tasks[j]? with
    | none => none
    | some t => (t.recv.on ev).map fun recv =>
      { s with
        receiving := { s.receiving with tasks := s.receiving.tasks.set j { t with recv := recv } } }
  | .receive j =>
    (s.receiving.step s.conn.udpSessions (.task j)).map fun r => { s with receiving := r }
  | .receiveFails j err =>
    (s.receiving.step s.conn.udpSessions (.fail j err)).map fun r => { s with receiving := r }

end Applications

/-- The applications of a client with one connection, in any interleaving. -/
def applicationsSystem (mode : UdpRelayMode) (tokenDigest : List.Vector UInt8 32) :
    System Applications ApplicationsAction where
  init := ⟨.new mode tokenDigest, .new, []⟩
  step := Applications.step

namespace Applications

/-! ## What a step does -/

/-- The receiving end of the receive channel of association `a` is dropped. -/
def hungUp (r : Receiving) (a : Nat) : Receiving :=
  { r with inbox := Function.update r.inbox a ⟨[], false⟩ }

/-- The steps of the applications, the connection and its server, one case each. -/
inductive Step (s : Applications) : ApplicationsAction → Applications → Prop where
  /-- An application comes in. -/
  | accept : Step s .accept { s with apps := s.apps ++ [.new] }
  /-- A handler makes a step. -/
  | handle (h : Nat) (st : HandleStep) (app app' : Application) (effect : InboxEffect)
      (r : Receiving) (hh : s.apps[h]? = some app)
      (hstep : app.step (s.inbox app) (s.hasSender app) st = some (app', effect))
      (hr : s.onInbox app effect = some r) :
      Step s (.handle h st) { s with receiving := r, apps := s.apps.set h app' }
  /-- A request gets the connection. -/
  | serve (h : Nat) (assocId : UInt32) (app : Application) (hh : s.apps[h]? = some app)
      (hreq : app.request = .waiting) :
      Step s (.serve h assocId)
        ⟨{ s.conn with assocs := s.conn.assocs ++ [⟨assocId, .insert⟩] },
          if app.isAttached then s.receiving else hungUp s.receiving s.conn.assocs.length,
          s.apps.set h { app with request := .served s.conn.assocs.length }⟩
  /-- A request gets no connection in time. -/
  | timeout (h : Nat) (app : Application) (hh : s.apps[h]? = some app)
      (hreq : app.request = .waiting) :
      Step s (.timeout h) { s with apps := s.apps.set h { app with request := .dropped } }
  /-- The task of a request makes a step. -/
  | associate (h : Nat) (app : Application) (a : Nat) (assoc : Association) (st : AssociateStep)
      (c : Connection) (hh : s.apps[h]? = some app) (hreq : app.request = .served a)
      (ha : s.conn.assocs[a]? = some assoc) (hst : associateStep app assoc.pc = some st)
      (hc : s.conn.step (.associate a st) = some c) :
      Step s (.associate h)
        { s with conn := c, apps := s.apps.set h (if assoc.pc = .recv then app.relay else app) }
  /-- The connection does something that is not about an association. -/
  | client (a : ApplicationsAction) (b : Action) (c : Connection)
      (hb : a = .heartbeat ∧ b = .heartbeat ∨
        (∃ k outcome, a = .send k outcome ∧ b = .send k outcome) ∨ a = .close ∧ b = .close)
      (hc : s.conn.step b = some c) : Step s a { s with conn := c }
  /-- A packet comes in. -/
  | incoming (channel : Channel) (recv : RecvStream) :
      Step s (.incoming channel recv)
        { s with receiving := s.receiving.spawn ⟨channel, recv, .parse⟩ }
  /-- The server goes on with the stream of a packet. -/
  | arrive (j : Nat) (ev : Server.StreamEvent) (t : Incoming) (recv : RecvStream)
      (hj : s.receiving.tasks[j]? = some t) (hon : t.recv.on ev = some recv) :
      Step s (.arrive j ev)
        { s with
          receiving := { s.receiving with
            tasks := s.receiving.tasks.set j { t with recv := recv } } }
  /-- The task of a packet makes a step. -/
  | receive (a : ApplicationsAction) (b : ReceiveAction) (r : Receiving)
      (hb : (∃ j, a = .receive j ∧ b = .task j) ∨
        ∃ j err, a = .receiveFails j err ∧ b = .fail j err)
      (hr : s.receiving.step s.conn.udpSessions b = some r) : Step s a { s with receiving := r }

variable {mode : UdpRelayMode} {tokenDigest : List.Vector UInt8 32} {s s' : Applications}
  {a : ApplicationsAction}

/-- The task of a packet goes on, or its stream fails. -/
theorem receive_cases {b : ReceiveAction}
    (hb : (∃ j, a = .receive j ∧ b = .task j) ∨
      ∃ j err, a = .receiveFails j err ∧ b = .fail j err) :
    (∃ j, b = .task j) ∨ ∃ j err, b = .fail j err := by
  rcases hb with ⟨j, -, hb⟩ | ⟨j, err, -, hb⟩
  · exact Or.inl ⟨j, hb⟩
  · exact Or.inr ⟨j, err, hb⟩

/-- What the connection does that is not about an association. -/
theorem client_cases {b : Action}
    (hb : a = .heartbeat ∧ b = .heartbeat ∨
      (∃ k outcome, a = .send k outcome ∧ b = .send k outcome) ∨ a = .close ∧ b = .close) :
    b = .heartbeat ∨ (∃ k outcome, b = .send k outcome) ∨ b = .close := by
  rcases hb with ⟨-, hb⟩ | ⟨k, outcome, -, hb⟩ | ⟨-, hb⟩
  · exact Or.inl hb
  · exact Or.inr (Or.inl ⟨k, outcome, hb⟩)
  · exact Or.inr (Or.inr hb)

/-- A request that gets the connection, as it is computed. -/
theorem serve_cases {h : Nat} {assocId : UInt32} (hs : s.step (.serve h assocId) = some s') :
    Step s (.serve h assocId) s' := by
  simp only [step] at hs
  split at hs
  · cases hs
  · rename_i app hh
    split at hs
    · rename_i hreq
      have hstep := Step.serve (s := s) h assocId app hh hreq
      by_cases hatt : app.isAttached = true
      · rw [if_pos hatt] at hs hstep
        cases hs
        exact hstep
      · rw [if_neg hatt] at hs hstep
        cases hs
        exact hstep
    · cases hs

/-- A step of a request, as it is computed. -/
theorem associate_cases {h : Nat} (hs : s.step (.associate h) = some s') :
    Step s (.associate h) s' := by
  simp only [step] at hs
  split at hs
  · cases hs
  · rename_i app hh
    split at hs
    · rename_i b hreq
      split at hs
      · cases hs
      · rename_i assoc ha
        split at hs
        · cases hs
        · rename_i st hst
          obtain ⟨c, hc, rfl⟩ := Option.map_eq_some_iff.mp hs
          exact .associate h app b assoc st c hh hreq ha hst hc
    all_goals cases hs

/-- Every step of the applications, the connection and its server is one of these. -/
theorem step_cases (hs : (applicationsSystem mode tokenDigest).step s a = some s') :
    Step s a s' := by
  change s.step a = some s' at hs
  cases a with
  | accept =>
    cases hs
    exact .accept
  | handle h st =>
    simp only [step] at hs
    split at hs
    · cases hs
    · rename_i app hh
      split at hs
      · cases hs
      · rename_i app' effect hstep
        obtain ⟨r, hr, rfl⟩ := Option.map_eq_some_iff.mp hs
        exact .handle h st app app' effect r hh hstep hr
  | serve h assocId => exact serve_cases hs
  | timeout h =>
    simp only [step] at hs
    split at hs
    · cases hs
    · rename_i app hh
      split at hs
      · rename_i hreq
        cases hs
        exact .timeout h app hh hreq
      · cases hs
  | associate h => exact associate_cases hs
  | heartbeat =>
    simp only [step] at hs
    obtain ⟨c, hc, rfl⟩ := Option.map_eq_some_iff.mp hs
    exact .client _ .heartbeat c (Or.inl ⟨rfl, rfl⟩) hc
  | send k outcome =>
    obtain ⟨c, hc, rfl⟩ := Option.map_eq_some_iff.mp hs
    exact .client _ _ c (Or.inr (Or.inl ⟨k, outcome, rfl, rfl⟩)) hc
  | close =>
    simp only [step] at hs
    obtain ⟨c, hc, rfl⟩ := Option.map_eq_some_iff.mp hs
    exact .client _ .close c (Or.inr (Or.inr ⟨rfl, rfl⟩)) hc
  | incoming channel recv =>
    cases hs
    exact .incoming channel recv
  | arrive j ev =>
    simp only [step] at hs
    split at hs
    · cases hs
    · rename_i t hj
      obtain ⟨recv, hon, rfl⟩ := Option.map_eq_some_iff.mp hs
      exact .arrive j ev t recv hj hon
  | receive j =>
    obtain ⟨r, hr, rfl⟩ := Option.map_eq_some_iff.mp hs
    exact .receive _ _ r (Or.inl ⟨j, rfl, rfl⟩) hr
  | receiveFails j err =>
    obtain ⟨r, hr, rfl⟩ := Option.map_eq_some_iff.mp hs
    exact .receive _ _ r (Or.inr ⟨j, err, rfl, rfl⟩) hr

/-! ## The connection of the applications -/

/-- What a step of a handler does to the receiving side: nothing, or something the application of
an association may do. -/
theorem onInbox_cases {app : Application} {effect : InboxEffect} {r : Receiving}
    (h : s.onInbox app effect = some r) :
    r = s.receiving ∧ (effect = .keep ∨ ∀ a, app.request ≠ .served a) ∨
      ∃ a, app.request = .served a ∧
        (effect = .take ∧ s.receiving.step s.conn.udpSessions (.take a) = some r ∨
          effect = .hangUp ∧ s.receiving.step s.conn.udpSessions (.hangUp a) = some r) := by
  unfold onInbox at h
  cases hreq : app.request with
  | served a =>
    rw [hreq] at h
    cases effect with
    | keep =>
      cases h
      exact Or.inl ⟨rfl, Or.inl rfl⟩
    | take => exact Or.inr ⟨a, rfl, Or.inl ⟨rfl, h⟩⟩
    | hangUp => exact Or.inr ⟨a, rfl, Or.inr ⟨rfl, h⟩⟩
  | _ =>
    rw [hreq] at h
    cases h
    exact Or.inl ⟨rfl, Or.inr fun a heq => by cases heq⟩

/-- **The connection of the applications** goes through runs of `sessionsSystem`. -/
theorem sessions_of_reachable {C : Applications → ApplicationsAction → Prop}
    (h : (applicationsSystem mode tokenDigest).ReachableBy C s) :
    (sessionsSystem mode tokenDigest).Reachable (s.conn, s.receiving) := by
  refine h.invariant (I := fun s => (sessionsSystem mode tokenDigest).Reachable
    (s.conn, s.receiving)) .init ?_
  intro s a s' _ ih _ hs
  -- an action of the connection, or of its receiving side, from a state that was reached
  have hclient : ∀ {s : Connection × Receiving} {b : Action} {c : Connection},
      (sessionsSystem mode tokenDigest).Reachable s → s.1.step b = some c →
        (sessionsSystem mode tokenDigest).Reachable (c, s.2) := by
    intro s b c hr hc
    have hstep : (sessionsSystem mode tokenDigest).step s (.client b) = some (c, s.2) := by
      change (s.1.step b).map (·, s.2) = _
      rw [hc]
      rfl
    exact .step hr trivial hstep
  have hreceive : ∀ {s : Connection × Receiving} {b : ReceiveAction} {r : Receiving},
      (sessionsSystem mode tokenDigest).Reachable s → s.2.step s.1.udpSessions b = some r →
        (sessionsSystem mode tokenDigest).Reachable (s.1, r) := by
    intro s b r hr hb
    have hstep : (sessionsSystem mode tokenDigest).step s (.receive b) = some (s.1, r) := by
      change (s.2.step s.1.udpSessions b).map (s.1, ·) = _
      rw [hb]
      rfl
    exact .step hr trivial hstep
  cases step_cases hs with
  | accept => exact ih
  | handle h st app app' effect r hh hstep hr =>
    rcases onInbox_cases hr with ⟨rfl, -⟩ | ⟨a, -, ⟨-, htake⟩ | ⟨-, hhang⟩⟩
    · exact ih
    · exact hreceive ih htake
    · exact hreceive ih hhang
  | serve h assocId app hh hreq =>
    have hserved := hclient (b := .request assocId) ih rfl
    by_cases hatt : app.isAttached = true
    · rw [if_pos hatt]
      exact hserved
    · rw [if_neg hatt]
      exact hreceive (b := .hangUp s.conn.assocs.length) hserved rfl
  | timeout h app hh hreq => exact ih
  | associate h app a assoc st c hh hreq ha hst hc => exact hclient ih hc
  | client a b c hb hc => exact hclient ih hc
  | incoming channel recv =>
    have hstep : (sessionsSystem mode tokenDigest).step (s.conn, s.receiving)
        (.incoming channel recv) =
          some (s.conn, s.receiving.spawn ⟨channel, recv, .parse⟩) := rfl
    exact .step ih trivial hstep
  | arrive j ev t recv hj hon =>
    have hstep : (sessionsSystem mode tokenDigest).step (s.conn, s.receiving) (.arrive j ev) =
        some (s.conn, { s.receiving with
          tasks := s.receiving.tasks.set j { t with recv := recv } }) := by
      simp only [sessionsSystem, hj, hon, Option.map_some]
    exact .step ih trivial hstep
  | receive a b r hb hr => exact hreceive ih hr

end Applications

end Tuic.Client.Socks5
