import Tuic.Server.Handlers
import Tuic.Server.Mode
import Tuic.Server.UdpAccounts

/-! # What a connection writes

The log of a connection read as streams of bytes: `written ch` is what went to the client on one
channel, `toTarget i` what handler `i` sent to its target. Every event is the doing of one handler,
of one reply task or of the connection as a whole (`Event.owner`), so a step of one task changes the
streams of that task only (`Step.events`).

`Replied` then says what is on the channels of the reply tasks: on each, the bytes of one packet
that was taken from the sessions, or a beginning of them. -/

namespace Tuic.Server

open ByteCodec Transition

/-! ## Whose doing an event is -/

/-- Who makes an event. -/
inductive Owner where
  /-- Handler `i`. -/
  | handler (i : Nat)
  /-- Reply task `k`. -/
  | reply (k : Nat)
  /-- The connection. -/
  | connection
  deriving DecidableEq

/-- Who writes on a channel to the client. -/
def PeerChannel.owner : PeerChannel → Owner
  | .biStream i => .handler i
  | .uniStream k | .datagram k => .reply k

/-- Who makes an event. -/
def Event.owner : Event → Owner
  | .decoded i _ _ | .started i _ | .lookupHost i _ _ | .tcpConnect i _ _
  | .toTarget i _ => .handler i
  | .toPeer ch _ | .finish ch => ch.owner
  | .close _ _ => .connection

/-- Whose step an action is. -/
def Action.owner : Action → Owner
  | .task i _ => .handler i
  | .reply k _ => .reply k
  | .handle _ | .session _ _ | .stream _ _ | .peerClose _ | .drop => .connection

/-- A step without an event. -/
theorem no_event (log : List Event) (P : Event → Prop) :
    ∃ events : List Event, log = events.reverse ++ log ∧ ∀ e ∈ events, P e :=
  ⟨[], rfl, fun _ he => absurd he List.not_mem_nil⟩

/-- A step with one event. -/
theorem one_event (log : List Event) {P : Event → Prop} {e : Event} (he : P e) :
    ∃ events : List Event, e :: log = events.reverse ++ log ∧ ∀ e ∈ events, P e :=
  ⟨[e], rfl, fun _ hmem => List.mem_singleton.mp hmem ▸ he⟩

/-- `connect` makes events of its own handler. -/
theorem Event.OfConnect.owner {i : Nat} {e : Event} (h : e.OfConnect i) : e.owner = .handler i := by
  cases h <;> rfl

/-- What handler `i` records itself: it decoded a command, started a relay task or closed the
connection. -/
inductive Event.Handles (i : Nat) : Event → Prop where
  | decoded (src : Source) (cmd : Command) : Event.Handles i (.decoded i src cmd)
  | started (task : RelayTask) : Event.Handles i (.started i task)
  | close (code : UInt32) (reason : String) : Event.Handles i (.close code reason)

section Handler

variable {token : List Digest} {c c' : Connection} {i : Nat} {t t' : Task}

/-- **What a step of a handler records** is what `connect` records, or what the handler does itself;
the other relay tasks record nothing. -/
theorem TaskStep.log_cases (h : TaskStep token c i t c' t') :
    (∃ pc outcome events recv' pc', t.pc = .relay (.connect pc) ∧
      connectStep i t.recv pc outcome = some (events, recv', pc') ∧
      c'.log = events.reverse ++ c.log) ∨
    ∃ events : List Event, c'.log = events.reverse ++ c.log ∧ ∀ e ∈ events, e.Handles i := by
  cases h with
  | relay r u events recv r' hpc hstep =>
    cases hstep with
    | connect pc outcome events recv' pc' hstep =>
      exact Or.inl ⟨pc, outcome, events, _, pc', hpc, hstep, rfl⟩
    | payload assocId len addr hlen => exact Or.inr (no_event _ _)
    | noPayload assocId len addr hst => exact Or.inr (no_event _ _)
    | send call bindOk u' n hstep => exact Or.inr (no_event _ _)
    | dissociate assocId => exact Or.inr (no_event _ _)
  | dispatch cmd hpc cell res hres =>
    cases res with
    | start task => exact Or.inr (one_event _ (.started task))
    | returned r => exact Or.inr (no_event _ _)
    | panicked => exact Or.inr (no_event _ _)
  | decodes cmd rest hpc hread => exact Or.inr (one_event _ (.decoded _ cmd))
  | closeFailed hpc => exact Or.inr (one_event _ (.close _ _))
  | fail err hpc => exact Or.inr (one_event _ (.close _ _))
  | readFails err hpc hst => exact Or.inr (no_event _ _)
  | undecodable err hpc hread hst => exact Or.inr (no_event _ _)
  | decoderPanics hpc hread => exact Or.inr (no_event _ _)
  | setAuthenticated hpc => exact Or.inr (no_event _ _)
  | wakeAuthenticated hpc => exact Or.inr (no_event _ _)
  | wakeFailed hpc => exact Or.inr (no_event _ _)
  | poll cmd hpc => exact Or.inr (no_event _ _)

/-- So it makes events of its own, apart from closing the connection. -/
theorem TaskStep.events (h : TaskStep token c i t c' t') :
    ∃ events : List Event, c'.log = events.reverse ++ c.log ∧
      ∀ e ∈ events, e.owner = .handler i ∨ e.owner = .connection := by
  rcases h.log_cases with ⟨pc, outcome, events, recv', pc', -, hstep, hlog⟩ | ⟨events, hlog, hev⟩
  · exact ⟨events, hlog, fun e he =>
      Or.inl ((connectStep_cases hstep).ofConnect e he).owner⟩
  · refine ⟨events, hlog, fun e he => ?_⟩
    cases hev e he with
    | decoded src cmd => exact Or.inl rfl
    | started task => exact Or.inl rfl
    | close code reason => exact Or.inr rfl

end Handler

/-- A reply task makes events of its own. -/
theorem ReplyStep.owner {cell : UdpPacketFrom} {k : Nat} {pc pc' : ReplyPc} {events : List Event}
    (h : ReplyStep cell k pc events pc') : ∀ e ∈ events, e.owner = .reply k := by
  cases h with
  | uniStream r =>
    intro e he
    rcases List.mem_cons.mp he with rfl | he
    · rfl
    · rw [List.mem_singleton.mp he]
      rfl
  | cut r n => exact fun e he => by rw [List.mem_singleton.mp he]; rfl
  | datagram r => exact fun e he => by rw [List.mem_singleton.mp he]; rfl
  | unwrapFails r hcell => exact fun e he => absurd he List.not_mem_nil
  | check src r hcell => exact fun e he => absurd he List.not_mem_nil
  | fails src r => exact fun e he => absurd he List.not_mem_nil

/-- **A step of a connection makes events of the task whose step it is**, apart from closing the
connection. -/
theorem Established.Step.events {cfg : Config} {s s' : Established} {a : Action}
    (h : Step cfg s a s') :
    ∃ events : List Event, s'.conn.log = events.reverse ++ s.conn.log ∧
      ∀ e ∈ events, e.owner = a.owner ∨ e.owner = .connection := by
  cases h with
  | task i outcome t t' conn hi hstep => exact hstep.events
  | reply k outcome pc pc' events hk hstep =>
    exact ⟨events, rfl, fun e he => Or.inl ((replyStep_cases hstep).owner e he)⟩
  | timeoutClose hhandle => exact one_event _ (Or.inr rfl)
  | accept st t b hhandle hfresh => exact no_event _ _
  | receive r rest b hhandle hrecv => exact no_event _ _
  | listenerEnds reason b hhandle hclosed => exact no_event _ _
  | pollPending hhandle hpoll => exact no_event _ _
  | pollReady hhandle res hpoll => exact no_event _ _
  | timeout hhandle => exact no_event _ _
  | timeoutWake hhandle => exact no_event _ _
  | unreachable hhandle => exact no_event _ _
  | setClosed err hhandle => exact no_event _ _
  | session sid st u hstep => exact no_event _ _
  | stream i ev t recv hi hrecv => exact no_event _ _
  | peerClose err => exact no_event _ _
  | drop hhandle htasks hreplies => exact no_event _ _

/-! ## Streams of bytes -/

/-- The bytes an event puts on a channel to the client. -/
def Event.toPeerOn (ch : PeerChannel) : Event → Bytes
  | .toPeer ch' data => if ch' = ch then data else []
  | .decoded _ _ _ | .started _ _ | .lookupHost _ _ _ | .tcpConnect _ _ _ | .toTarget _ _
  | .finish _ | .close _ _ => []

/-- The bytes an event sends to the target of handler `i`. -/
def Event.toTargetOf (i : Nat) : Event → Bytes
  | .toTarget j data => if j = i then data else []
  | .decoded _ _ _ | .started _ _ | .lookupHost _ _ _ | .tcpConnect _ _ _ | .toPeer _ _
  | .finish _ | .close _ _ => []

/-- All bytes written on a channel to the client, in order. -/
def written (ch : PeerChannel) (log : List Event) : Bytes := log.reverse.flatMap (Event.toPeerOn ch)

/-- All bytes handler `i` sent to its target, in order. -/
def toTarget (i : Nat) (log : List Event) : Bytes := log.reverse.flatMap (Event.toTargetOf i)

section Streams

variable (ch : PeerChannel) (i : Nat) {events : List Event} (log : List Event)

/-- What new events add to a channel. -/
theorem written_append (events : List Event) :
    written ch (events.reverse ++ log) = written ch log ++ events.flatMap (Event.toPeerOn ch) := by
  rw [written, List.reverse_append, List.reverse_reverse, List.flatMap_append]
  rfl

/-- What they add to a target. -/
theorem toTarget_append (events : List Event) :
    toTarget i (events.reverse ++ log) =
      toTarget i log ++ events.flatMap (Event.toTargetOf i) := by
  rw [toTarget, List.reverse_append, List.reverse_reverse, List.flatMap_append]
  rfl

/-- Events of others add nothing to a channel. -/
theorem written_of_owner (h : ∀ e ∈ events, e.owner ≠ ch.owner) :
    written ch (events.reverse ++ log) = written ch log := by
  have hnil : events.flatMap (Event.toPeerOn ch) = [] := by
    rw [List.flatMap_eq_nil_iff]
    intro e he
    cases e with
    | toPeer ch' data =>
      have hne : ch' ≠ ch := by
        rintro rfl
        exact h _ he rfl
      exact if_neg hne
    | _ => rfl
  rw [written_append, hnil, List.append_nil]

/-- Nor to a target. -/
theorem toTarget_of_owner (h : ∀ e ∈ events, e.owner ≠ .handler i) :
    toTarget i (events.reverse ++ log) = toTarget i log := by
  have hnil : events.flatMap (Event.toTargetOf i) = [] := by
    rw [List.flatMap_eq_nil_iff]
    intro e he
    cases e with
    | toTarget j data =>
      have hne : j ≠ i := by
        rintro rfl
        exact h _ he rfl
      exact if_neg hne
    | _ => rfl
  rw [toTarget_append, hnil, List.append_nil]

/-- Nor do they finish it. -/
theorem finish_mem_of_owner (h : ∀ e ∈ events, e.owner ≠ ch.owner) :
    .finish ch ∈ events.reverse ++ log ↔ .finish ch ∈ log := by
  rw [List.mem_append, List.mem_reverse]
  constructor
  · rintro (he | he)
    · exact absurd rfl (h _ he)
    · exact he
  · exact Or.inr

end Streams

/-! ## What the reply tasks write -/

/-- Nothing is on the channels of reply task `k`. -/
def Unwritten (log : List Event) (k : Nat) : Prop :=
  written (.uniStream k) log = [] ∧ written (.datagram k) log = [] ∧ .finish (.uniStream k) ∉ log

/-- What is on the channels of reply task `k`, which is for the packet `r`, where it stands. -/
def ReplyPc.Wrote (log : List Event) (k : Nat) (r : Reply) : ReplyPc → Prop
  | .check r' | .packetTo _ r' => r' = r ∧ Unwritten log k
  | .panicked => Unwritten log k
  | .done => written (.uniStream k) log <+: r.bytes ∧
      (.finish (.uniStream k) ∈ log → written (.uniStream k) log = r.bytes) ∧
      (written (.datagram k) log = [] ∨ written (.datagram k) log = r.bytes)

section Replies

variable {log events : List Event} {k : Nat} {r : Reply} {pc pc' : ReplyPc}

/-- Events of others put nothing on the channels of a reply task. -/
theorem Unwritten.other (h : Unwritten log k) (hevents : ∀ e ∈ events, e.owner ≠ .reply k) :
    Unwritten (events.reverse ++ log) k := by
  have huni := written_of_owner (.uniStream k) log hevents
  have hdatagram := written_of_owner (.datagram k) log hevents
  have hfinish := finish_mem_of_owner (.uniStream k) log hevents
  exact ⟨huni.trans h.1, hdatagram.trans h.2.1, hfinish.not.mpr h.2.2⟩

/-- Nor do they change what the task has written. -/
theorem ReplyPc.Wrote.other (h : pc.Wrote log k r) (hevents : ∀ e ∈ events, e.owner ≠ .reply k) :
    pc.Wrote (events.reverse ++ log) k r := by
  cases pc with
  | check r' => exact ⟨h.1, h.2.other hevents⟩
  | packetTo src r' => exact ⟨h.1, h.2.other hevents⟩
  | panicked => exact Unwritten.other h hevents
  | done =>
    have huni := written_of_owner (.uniStream k) log hevents
    have hdatagram := written_of_owner (.datagram k) log hevents
    have hfinish := finish_mem_of_owner (.uniStream k) log hevents
    rw [ReplyPc.Wrote, huni, hdatagram, hfinish]
    exact h

/-- A reply task writes its packet. -/
theorem ReplyPc.Wrote.step {cell : UdpPacketFrom} (h : pc.Wrote log k r)
    (hstep : ReplyStep cell k pc events pc') : pc'.Wrote (events.reverse ++ log) k r := by
  cases hstep with
  | unwrapFails r' hcell => exact h.2
  | check src r' hcell => exact h
  | uniStream r' =>
    obtain ⟨rfl, huni, hdatagram, -⟩ := h
    have hall : written (.uniStream k)
        ([.toPeer (.uniStream k) r'.bytes, .finish (.uniStream k)].reverse ++ log) = r'.bytes := by
      rw [written_append, huni]
      simp [Event.toPeerOn]
    refine ⟨?_, fun _ => hall, Or.inl ?_⟩
    · rw [hall]
    rw [written_append, hdatagram]
    simp [Event.toPeerOn]
  | cut r' n =>
    obtain ⟨rfl, huni, hdatagram, hfinish⟩ := h
    have hcut : written (.uniStream k) ([.toPeer (.uniStream k) (r'.bytes.take n)].reverse ++ log) =
        r'.bytes.take n := by
      rw [written_append, huni]
      simp [Event.toPeerOn]
    refine ⟨?_, fun hmem => ?_, Or.inl ?_⟩
    · rw [hcut]
      exact List.take_prefix n _
    · rcases List.mem_append.mp hmem with hmem | hmem
      · cases List.mem_singleton.mp hmem
      · exact absurd hmem hfinish
    · rw [written_append, hdatagram]
      simp [Event.toPeerOn]
  | datagram r' =>
    obtain ⟨rfl, huni, hdatagram, hfinish⟩ := h
    refine ⟨?_, fun hmem => ?_, Or.inr ?_⟩
    · rw [written_append, huni]
      simp [Event.toPeerOn]
    · rcases List.mem_append.mp hmem with hmem | hmem
      · cases List.mem_singleton.mp hmem
      · exact absurd hmem hfinish
    · rw [written_append, hdatagram]
      simp [Event.toPeerOn]
  | fails src r' =>
    obtain ⟨-, huni, hdatagram, hfinish⟩ := h
    refine ⟨?_, fun hmem => absurd hmem hfinish, Or.inl hdatagram⟩
    show written (.uniStream k) log <+: r.bytes
    rw [huni]
    exact List.nil_prefix

/-- What a reply task has written on its stream is a beginning of its packet. -/
theorem ReplyPc.Wrote.uniStream (h : pc.Wrote log k r) :
    written (.uniStream k) log <+: r.bytes := by
  cases pc with
  | check r' => exact h.2.1 ▸ List.nil_prefix
  | packetTo src r' => exact h.2.1 ▸ List.nil_prefix
  | panicked => exact h.1 ▸ List.nil_prefix
  | done => exact h.1

/-- It is the whole packet once the stream is finished. -/
theorem ReplyPc.Wrote.finished (h : pc.Wrote log k r) (hfinish : .finish (.uniStream k) ∈ log) :
    written (.uniStream k) log = r.bytes := by
  cases pc with
  | check r' => exact absurd hfinish h.2.2.2
  | packetTo src r' => exact absurd hfinish h.2.2.2
  | panicked => exact absurd hfinish h.2.2
  | done => exact h.2.1 hfinish

/-- Its datagram is the whole packet, if there is one. -/
theorem ReplyPc.Wrote.datagram (h : pc.Wrote log k r) (hne : written (.datagram k) log ≠ []) :
    written (.datagram k) log = r.bytes := by
  cases pc with
  | check r' => exact absurd h.2.2.1 hne
  | packetTo src r' => exact absurd h.2.2.1 hne
  | panicked => exact absurd h.2.1 hne
  | done => exact h.2.2.resolve_left hne

end Replies

namespace Established

/-- **The reply tasks and the packets they are for.** Reply task `k` is for the `k`-th packet that
was taken from the sessions. -/
structure Replied (s : Established) (taken : List Reply) : Prop where
  /-- The packets came in on the sockets. -/
  accounts : s.conn.udpSessions.Accounts (taken.map fun r => (r.assocId, r.pkt, r.addr))
  /-- There is a task for each. -/
  length : taken.length = s.replies.length
  /-- What is on its channels is of its packet. -/
  replies : ∀ (k : Nat) (pc : ReplyPc) (r : Reply), s.replies[k]? = some pc →
    taken[k]? = some r → pc.Wrote s.conn.log k r
  /-- No other channel for replies is in use. -/
  unwritten : ∀ k, s.replies.length ≤ k → Unwritten s.conn.log k

variable {cfg : Config} {s s' : Established} {a : Action} {taken : List Reply}

/-- Every step keeps the replies to their packets; a step that takes a packet from the sessions
makes a reply task for it. -/
theorem Replied.step (h : s.Replied taken) (hstep : Step cfg s a s') :
    ∃ taken', s'.Replied taken' := by
  obtain ⟨events, hlog, howner⟩ := hstep.events
  -- what the other tasks do leaves a channel alone
  have hother : ∀ k, a.owner ≠ .reply k → ∀ e ∈ events, e.owner ≠ .reply k := by
    intro k hk e he heq
    rcases howner e he with hown | hown
    · exact hk (hown.symm.trans heq)
    · cases hown.symm.trans heq
  rcases hstep.udp_cases with ⟨r, rest, hrecv, hudp, hlog', hreplies⟩ | ⟨hudp, hlen⟩
  · refine ⟨taken ++ [r], ?_, ?_, fun k pc r' hpc hr => ?_, fun k hk => ?_⟩
    · rw [hudp, List.map_append]
      exact h.accounts.take hrecv
    · rw [hreplies, List.length_append, List.length_append, h.length]
      rfl
    · rw [hreplies] at hpc
      rw [hlog']
      rcases getElem?_append_singleton_cases hpc with ⟨rfl, rfl⟩ | hpc
      · rw [← h.length, List.getElem?_concat_length] at hr
        cases hr
        exact ⟨rfl, h.unwritten _ (Nat.le_refl _)⟩
      · have hlt := (List.getElem?_eq_some_iff.mp hpc).1
        rw [List.getElem?_append_left (by rw [h.length]; exact hlt)] at hr
        exact h.replies k pc r' hpc hr
    · rw [hlog']
      rw [hreplies, List.length_append] at hk
      exact h.unwritten k (Nat.le_trans (Nat.le_add_right _ _) hk)
  · refine ⟨taken, h.accounts.step hudp, h.length.trans hlen.symm, fun k pc' r hpc hr => ?_,
      fun k hk => ?_⟩
    · by_cases hk : a.owner = .reply k
      · cases hstep with
        | reply k' outcome pc pc'' events' hk' hreply =>
          cases hk
          have hpc'' : pc' = pc'' := by
            rcases getElem?_set_cases hpc with ⟨-, heq⟩ | ⟨hne, -⟩
            · exact heq
            · exact absurd rfl hne
          rw [hpc'']
          exact (h.replies k pc r hk' hr).step (replyStep_cases hreply)
        | _ => cases hk
      · rw [hlog]
        refine ReplyPc.Wrote.other (h.replies k pc' r ?_ hr) (hother k hk)
        cases hstep with
        | reply k' outcome pc pc'' events' hk' hreply =>
          rcases getElem?_set_cases hpc with ⟨rfl, -⟩ | ⟨-, hpc⟩
          · exact absurd rfl hk
          · exact hpc
        | receive r rest b hhandle hrecv =>
          rw [List.length_append] at hlen
          exact absurd hlen (Nat.succ_ne_self _)
        | _ => exact hpc
    · rw [hlen] at hk
      rw [hlog]
      refine Unwritten.other (h.unwritten k hk) (hother k ?_)
      -- the task that makes the step is there
      intro hown
      cases hstep with
      | reply k' outcome pc pc'' events' hk' hreply =>
        cases hown
        have hlt := (List.getElem?_eq_some_iff.mp hk').1
        omega
      | _ => cases hown

/-- **A reply is written in one step**: where something is on a channel for replies, nothing is
added. -/
theorem Replied.fixed (h : s.Replied taken) (hstep : Step cfg s a s') {ch : PeerChannel} {k : Nat}
    (hch : ch.owner = .reply k) (hne : written ch s.conn.log ≠ []) :
    written ch s'.conn.log = written ch s.conn.log := by
  obtain ⟨events, hlog, howner⟩ := hstep.events
  by_cases hown : a.owner = .reply k
  · have hnot : ¬ Unwritten s.conn.log k := by
      intro hun
      cases ch with
      | biStream i => cases hch
      | uniStream k' =>
        cases hch
        exact hne hun.1
      | datagram k' =>
        cases hch
        exact hne hun.2.1
    -- the task has written, so it has returned and makes no step
    cases hstep with
    | reply k' outcome pc pc' events' hk hreply =>
      cases hown
      have hlt : k < taken.length := by
        rw [h.length]
        exact (List.getElem?_eq_some_iff.mp hk).1
      have hwrote := h.replies k pc taken[k] hk (List.getElem?_eq_getElem hlt)
      cases pc with
      | check r => exact absurd hwrote.2 hnot
      | packetTo src r => exact absurd hwrote.2 hnot
      | done => cases hreply
      | panicked => cases hreply
    | _ => cases hown
  · rw [hlog]
    refine written_of_owner ch _ fun e he heq => ?_
    rcases howner e he with h' | h'
    · exact hown (h'.symm.trans (heq.trans hch))
    · cases h'.symm.trans (heq.trans hch)

/-- **In every reachable state**, the reply tasks are for the packets that were taken from the
sessions. -/
theorem replied_of_reachable {C : Established → Action → Prop}
    (h : (connectionSystem cfg).ReachableBy C s) : ∃ taken, s.Replied taken := by
  refine h.invariant (I := fun s => ∃ taken, s.Replied taken) ?_ ?_
  · refine ⟨[], Udp.Accounts.new, rfl, fun k pc r hpc => ?_, fun k _ => ⟨rfl, rfl, nofun⟩⟩
    cases hpc
  · rintro s a s' - ⟨taken, ht⟩ - hstep
    exact ht.step (step_cases hstep)

end Established

end Tuic.Server
