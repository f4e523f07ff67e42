import Tuic.Server.Handlers

/-! # No remote input aborts the server

No task of a connection panics (`not_panicked`): neither the decoder, nor the slice of a datagram
behind its header, nor an `unreachable!()`, nor the `unwrap` of the relay mode, whatever the peer
and the targets send. The first three follow from what holds of a handler where it stands; the last
one from an order in time: there is no session, and hence no reply, before a packet has fixed the
relay mode (`Moded`). -/

namespace Tuic.Server

open ByteCodec Transition

namespace Established

/-- Some task of the connection has panicked. -/
def Panicked (s : Established) : Prop :=
  s.handle = .panicked ∨ (∃ t ∈ s.tasks, t.pc = .panicked) ∨ .panicked ∈ s.replies

end Established

/-- While the relay mode is not fixed, no handler touches sessions or received packets. -/
theorem TaskStep.sessions_of_mode {token : List Digest} {c c' : Connection} {i : Nat}
    {t t' : Task} (h : TaskStep token c i t c' t') (hs : t.Sound token c)
    (hmode : c.udpPacketFrom = none) :
    c'.udpSessions.sessions = c.udpSessions.sessions ∧
      c'.udpSessions.recvPkt = c.udpSessions.recvPkt := by
  rcases h.frame.udpSessions with heq | ⟨r, events, recv, r', hpc, hstep⟩
  · exact ⟨by rw [heq], by rw [heq]⟩
  · generalize c'.udpSessions = u at hstep
    cases hstep with
    | send call bindOk u' n hstep =>
      -- a handler that sends has fixed the relay mode
      obtain ⟨-, hpcs⟩ := hs
      rw [hpc] at hpcs
      obtain ⟨cmd, task, -, htask, hruns, -, hfits⟩ := hpcs
      obtain ⟨len, addr, hcmd⟩ := Source.relayTask_send htask hruns
      obtain ⟨m, -, hm⟩ := hfits _ len addr hcmd
      rw [hmode] at hm
      cases hm
    | payload assocId len addr hlen => exact ⟨rfl, rfl⟩
    | noPayload assocId len addr hst => exact ⟨rfl, rfl⟩
    | dissociate assocId => exact ⟨rfl, rfl⟩
    | connect pc outcome events recv' pc' hstep => exact ⟨rfl, rfl⟩

/-- A reply task panics only when the relay mode is not fixed. -/
theorem ReplyStep.cell_of_panicked {cell : UdpPacketFrom} {k : Nat} {pc pc' : ReplyPc}
    {events : List Event} (h : ReplyStep cell k pc events pc') (hpc : pc' = .panicked) :
    cell = none := by
  cases h with
  | unwrapFails r hcell => exact hcell
  | check src r hcell => cases hpc
  | uniStream r => cases hpc
  | cut r n => cases hpc
  | datagram r => cases hpc
  | fails src r => cases hpc

namespace Established

variable {cfg : Config} {s s' : Established} {a : Action}

/-- Until the relay mode is fixed there is no session, no received packet and no reply. -/
def Moded (s : Established) : Prop :=
  s.conn.udpPacketFrom = none →
    s.conn.udpSessions.sessions = [] ∧ s.conn.udpSessions.recvPkt = [] ∧ s.replies = []

/-- A session or a reply comes after the packet that fixed the relay mode. -/
theorem Moded.step (hm : s.Moded) (hs : All (fun _ t => t.Sound cfg.token s.conn) s.tasks)
    (h : Step cfg s a s') : s'.Moded := by
  intro hnone'
  -- the mode is never taken back, so it was not fixed before the step either
  have hnone : s.conn.udpPacketFrom = none := by
    cases hcell : s.conn.udpPacketFrom with
    | none => rfl
    | some m =>
      rw [h.extends.mode hcell] at hnone'
      cases hnone'
  obtain ⟨hses, hrecv, hrep⟩ := hm hnone
  cases h with
  | task i outcome t t' conn hi hstep =>
    obtain ⟨hses', hrecv'⟩ := hstep.sessions_of_mode (hs i t hi) hnone
    exact ⟨hses'.trans hses, hrecv'.trans hrecv, hrep⟩
  | receive r rest b hhandle hr =>
    rw [hrecv] at hr
    cases hr
  | session sid st u hstep =>
    obtain ⟨ses, _, heff⟩ := sessionStep_spec hstep
    have hsid := heff.session
    rw [hses] at hsid
    cases hsid
  | reply k outcome pc pc' events hk hstep =>
    rw [hrep] at hk
    cases hk
  | listenerEnds reason b hhandle hclosed => exact ⟨hses, rfl, hrep⟩
  | timeoutWake hhandle => exact ⟨hses, rfl, hrep⟩
  | accept st t b hhandle hfresh => exact ⟨hses, hrecv, hrep⟩
  | pollPending hhandle hpoll => exact ⟨hses, hrecv, hrep⟩
  | pollReady hhandle res hpoll => exact ⟨hses, hrecv, hrep⟩
  | timeout hhandle => exact ⟨hses, hrecv, hrep⟩
  | timeoutClose hhandle => exact ⟨hses, hrecv, hrep⟩
  | unreachable hhandle => exact ⟨hses, hrecv, hrep⟩
  | setClosed err hhandle => exact ⟨hses, hrecv, hrep⟩
  | stream i ev t recv hi hon => exact ⟨hses, hrecv, hrep⟩
  | peerClose err => exact ⟨hses, hrecv, hrep⟩
  | drop hhandle htasks hreplies => exact ⟨hses, hrecv, hrep⟩

/-- Reply tasks never panic. -/
theorem replies_step (hr : ∀ pc ∈ s.replies, pc ≠ .panicked) (hm : s.Moded) (h : Step cfg s a s') :
    ∀ pc ∈ s'.replies, pc ≠ .panicked := by
  cases h with
  | receive r rest b hhandle hrecv =>
    intro pc hpc
    rcases List.mem_append.mp hpc with hpc | hpc
    · exact hr pc hpc
    · rw [List.mem_singleton.mp hpc]
      exact fun h => by cases h
  | reply k outcome pc pc' events hk hstep =>
    intro pc₁ hpc₁
    rcases List.mem_or_eq_of_mem_set hpc₁ with hold | rfl
    · exact hr pc₁ hold
    -- there is a reply task, so the mode is fixed
    · intro hpanic
      rw [(hm ((replyStep_cases hstep).cell_of_panicked hpanic)).2.2] at hk
      cases hk
  | task i outcome t t' conn hi hstep => exact hr
  | session sid st u hstep => exact hr
  | listenerEnds reason b hhandle hclosed => exact hr
  | timeoutWake hhandle => exact hr
  | accept st t b hhandle hfresh => exact hr
  | pollPending hhandle hpoll => exact hr
  | pollReady hhandle res hpoll => exact hr
  | timeout hhandle => exact hr
  | timeoutClose hhandle => exact hr
  | unreachable hhandle => exact hr
  | setClosed err hhandle => exact hr
  | stream i ev t recv hi hon => exact hr
  | peerClose err => exact hr
  | drop hhandle htasks hreplies => exact hr

/-- Every branch that ends the `select!` of `Connection::handle` ends it with an error. -/
def HandleOk : Handle → Prop
  | .selected (.ok ()) | .panicked => False
  | _ => True

/-- The handle task never runs into its `unreachable!()`. -/
theorem handle_step (hh : HandleOk s.handle) (h : Step cfg s a s') : HandleOk s'.handle := by
  cases h with
  | unreachable hhandle =>
    rw [hhandle] at hh
    exact hh.elim
  -- a listener ends with `LocallyClosed` or with the error of the connection
  | listenerEnds reason b hhandle hclosed => cases reason <;> trivial
  | timeoutWake hhandle => trivial
  | pollReady hhandle res hpoll => trivial
  | timeout hhandle => trivial
  | timeoutClose hhandle => trivial
  | setClosed err hhandle => trivial
  | accept st t b hhandle hfresh => exact hh
  | receive r rest b hhandle hrecv => exact hh
  | pollPending hhandle hpoll => exact hh
  | task i outcome t t' conn hi hstep => exact hh
  | reply k outcome pc pc' events hk hstep => exact hh
  | session sid st u hstep => exact hh
  | stream i ev t recv hi hon => exact hh
  | peerClose err => exact hh
  | drop hhandle htasks hreplies => exact hh

/-- No reply task has panicked, and neither has the handle task. -/
theorem unpanicked_of_reachable (h : (connectionSystem cfg).Reachable s) :
    (∀ pc ∈ s.replies, pc ≠ .panicked) ∧ HandleOk s.handle := by
  have hinv : s.Moded ∧ (∀ pc ∈ s.replies, pc ≠ .panicked) ∧ HandleOk s.handle := by
    refine h.invariant (I := fun s : Established => s.Moded ∧
      (∀ pc ∈ s.replies, pc ≠ .panicked) ∧ HandleOk s.handle) ⟨?_, ?_, ?_⟩ ?_
    · exact fun _ => ⟨rfl, rfl, rfl⟩
    · intro pc hpc
      cases hpc
    · trivial
    · rintro s a s' hs ⟨hm, hr, hh⟩ - hstep
      have hcases := step_cases hstep
      exact ⟨hm.step (sound_of_reachable hs) hcases, replies_step hr hm hcases,
        handle_step hh hcases⟩
  exact hinv.2

/-- **No remote input aborts the server.** In no reachable state of a connection has any of its
tasks panicked, for every set of tokens, whatever the peer sends on streams and in datagrams, and
whatever arrives at the sockets of the sessions. -/
theorem not_panicked (cfg : Config) (s : Established) (h : (connectionSystem cfg).Reachable s) :
    ¬ s.Panicked := by
  obtain ⟨hr, hh⟩ := unpanicked_of_reachable h
  rintro (hhandle | ⟨t, ht, hpc⟩ | hreply)
  · rw [hhandle] at hh
    exact hh
  -- nothing sound is at `panicked`
  · obtain ⟨i, hi⟩ := List.mem_iff_getElem?.mp ht
    have hsound := (sound_of_reachable h i t hi).2
    rw [hpc] at hsound
    exact hsound
  · exact hr _ hreply rfl

/-- A datagram that ends inside its header closes the connection, and nothing panics. -/
theorem not_panicked_truncated :
    ∃ s, (connectionSystem ⟨[], 1500⟩).Reachable s ∧
      s.conn.controller = some (.closed 0xfffffff0 "early eof") ∧ ¬ s.Panicked := by
  obtain ⟨s, hs, hp⟩ := System.exists_reachable_of_run (connectionSystem ⟨[], 1500⟩)
    [.handle (.acceptDatagram [4, 2, 0, 0, 0, 7]), .task 0 .ok, .task 0 .ok]
    (fun s => decide (s.conn.controller = some (.closed 0xfffffff0 "early eof")))
    (by decide)
  exact ⟨s, hs, of_decide_eq_true hp, not_panicked _ s hs⟩

end Established

end Tuic.Server
