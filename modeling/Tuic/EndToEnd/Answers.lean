import Tuic.EndToEnd.Isolation
import Tuic.Server.Reception
import Tuic.Server.Truncation

/-! # Nothing is lost on the way back

`Delivery` says that the packets of the associations get to the sockets of the server; this file
says that what arrives at the sockets gets to the associations: once everything has come to rest
(`Answered`), what was put into the receive channels are the datagrams that arrived, each as far as
it fits the buffer of its socket (`Server.Arrival.cut`), for runs in which nothing is given up on
the way (`keepsReceived`). There are four places where something may be: a session that ends with a
packet it has not handed on, the write of a reply that fails, an association that is not in the
session table of the client any more, and a receive channel nobody listens to.

As in `Delivery` it is enough to count: what was delivered is a part of what was received, by
`delivered_subperm` and the accounts of the server. -/

namespace Tuic

open ByteCodec Transition

/-! ## The receiving side of the client -/

namespace Client

/-- How many packets the task of an incoming packet is still to put into a receive channel. -/
def Incoming.undelivered (t : Incoming) : Nat := if t.pc = .done then 0 else 1

namespace Receiving

variable {r r' : Receiving} {udpSessions : AList fun _ : UInt32 => Nat} {a : ReceiveAction}

/-- The task of an incoming packet does not drop it: its association is in the session table, and
somebody listens to its receive channel. -/
def keepsReceived (r : Receiving) (udpSessions : AList fun _ : UInt32 => Nat) :
    ReceiveAction → Bool
  | .task j =>
    match r.tasks[j]?.map Incoming.pc with
    | some (.get res) => (udpSessions.lookup res.1).isSome
    | some (.send a _ _) => (r.inbox a).isOpen
    | _ => true
  | .fail _ _ | .take _ | .hangUp _ => true

/-- Every task has put its packet into a receive channel, or is still to do so. -/
def Kept (r : Receiving) : Prop :=
  r.delivered.length + total Incoming.undelivered r.tasks = r.tasks.length

/-- A task that is still to deliver a packet keeps it, or puts it into a receive channel. -/
theorem Kept.set (h : r.Kept) {j : Nat} {t t' : Incoming} {inbox : Nat → Inbox}
    {delivered : List (Nat × Bytes × Address)} (hj : r.tasks[j]? = some t)
    (hmove : delivered.length + t'.undelivered = r.delivered.length + t.undelivered) :
    (⟨r.tasks.set j t', inbox, delivered⟩ : Receiving).Kept := by
  have hset : total Incoming.undelivered (r.tasks.set j t') + t.undelivered =
      total Incoming.undelivered r.tasks + t'.undelivered := total_set hj
  have hkept : r.delivered.length + total Incoming.undelivered r.tasks = r.tasks.length := h
  change delivered.length + total Incoming.undelivered (r.tasks.set j t') =
    (r.tasks.set j t').length
  rw [List.length_set]
  omega

/-- A task comes to a place at which it still has its packet. -/
theorem Kept.goto (h : r.Kept) {j : Nat} {t : Incoming} {pc : IncomingPc}
    (hj : r.tasks[j]? = some t) (hold : t.pc ≠ .done) (hnew : pc ≠ .done) :
    (r.goto j t pc).Kept := by
  refine h.set hj ?_
  rw [Incoming.undelivered, if_neg hnew, Incoming.undelivered, if_neg hold]

/-- A task puts its packet into a receive channel. -/
theorem Kept.push (h : r.Kept) {j : Nat} {t : Incoming} (hj : r.tasks[j]? = some t)
    (hold : t.pc ≠ .done) (a : Nat) (pkt : Bytes) (addr : Address) :
    ((r.goto j t .done).push a pkt addr).Kept := by
  refine h.set hj ?_
  rw [List.length_append, Incoming.undelivered, if_pos rfl, Incoming.undelivered, if_neg hold]
  rfl

/-- **A task that does not drop its packet delivers it.** -/
theorem Kept.step (h : r.Kept) (hstep : r.step udpSessions a = some r')
    (hkeep : r.keepsReceived udpSessions a = true) : r'.Kept := by
  cases a with
  | task j =>
    simp only [Receiving.step] at hstep
    split at hstep
    · cases hstep
    rename_i t hj
    simp only [keepsReceived, hj, Option.map_some] at hkeep
    unfold processIncoming at hstep
    split at hstep
    · rename_i hpc
      have hold : t.pc ≠ .done := by
        rw [hpc]
        exact IncomingPc.noConfusion
      split at hstep
      · cases hstep
        exact h.goto hj hold IncomingPc.noConfusion
      · split at hstep
        · cases hstep
        · cases hstep
          exact h.goto hj hold IncomingPc.noConfusion
      · cases hstep
        exact h.goto hj hold IncomingPc.noConfusion
    · rename_i assocId pkt addr hpc
      have hold : t.pc ≠ .done := by
        rw [hpc]
        exact IncomingPc.noConfusion
      rw [hpc] at hkeep
      split at hstep
      · cases hstep
        exact h.goto hj hold IncomingPc.noConfusion
      · rename_i hnone
        simp only [hnone] at hkeep
        cases hkeep
    · rename_i a pkt addr hpc
      have hold : t.pc ≠ .done := by
        rw [hpc]
        exact IncomingPc.noConfusion
      rw [hpc] at hkeep
      split at hstep
      · split at hstep
        · cases hstep
          exact h.push hj hold a pkt addr
        · cases hstep
      · rename_i hclosed
        exact absurd hkeep hclosed
    · cases hstep
    · cases hstep
    · cases hstep
  | fail j err =>
    simp only [Receiving.step] at hstep
    split at hstep
    · cases hstep
    rename_i t hj
    split at hstep
    · rename_i hst
      cases hstep
      refine h.goto hj ?_ IncomingPc.noConfusion
      rw [hst.1]
      exact IncomingPc.noConfusion
    · cases hstep
  | take a =>
    cases hstep
    exact h
  | hangUp a =>
    cases hstep
    exact h

/-- A datagram or a stream comes in. -/
theorem Kept.spawn (h : r.Kept) {t : Incoming} (hpc : t.pc = .parse) : (r.spawn t).Kept := by
  have hnew : total Incoming.undelivered (r.tasks ++ [t]) =
      total Incoming.undelivered r.tasks + t.undelivered := total_concat
  rw [Incoming.undelivered, hpc, if_neg IncomingPc.noConfusion] at hnew
  have hkept : r.delivered.length + total Incoming.undelivered r.tasks = r.tasks.length := h
  change r.delivered.length + total Incoming.undelivered (r.tasks ++ [t]) = (r.tasks ++ [t]).length
  rw [List.length_append, List.length_singleton]
  omega

/-- **A task that cannot go on has delivered its packet**, when the stream is over, the packet can
be read and its receive channel is not full. -/
theorem done_of_idle {j : Nat} {t : Incoming} (hj : r.tasks[j]? = some t)
    (hidle : r.step udpSessions (.task j) = none) (hparse : ∃ res, t.parse = .ok res)
    (hempty : ∀ a pkt addr, t.pc = .send a pkt addr → (r.inbox a).isOpen = true →
      (r.inbox a).queue = [])
    (hpanic : t.pc ≠ .panicked) (hfailed : ∀ err, t.pc ≠ .failed err) : t.pc = .done := by
  obtain ⟨res, hres⟩ := hparse
  cases hpc : t.pc with
  | parse => simp [Receiving.step, hj, processIncoming, hpc, hres] at hidle
  | get res' =>
    cases hl : udpSessions.lookup res'.1 <;>
      simp [Receiving.step, hj, processIncoming, hpc, hl] at hidle
  | send a pkt addr =>
    cases ho : (r.inbox a).isOpen with
    | false => simp [Receiving.step, hj, processIncoming, hpc, ho] at hidle
    | true =>
      simp [Receiving.step, hj, processIncoming, hpc, ho, hempty a pkt addr hpc ho] at hidle
  | done => rfl
  | failed err => exact absurd hpc (hfailed err)
  | panicked => exact absurd hpc hpanic

end Receiving

end Client

/-! ## From the sockets to the receive channels -/

namespace EndToEnd

/-- Nothing that came in on a socket is given up on its way. -/
def DuplexAction.keepsReceived (s : Duplex) : DuplexAction → Bool
  | .server a => s.server.keepsReceived a
  | .receive a => s.receiving.keepsReceived s.client.udpSessions a
  | .client _ | .connect _ | .connectStep _ _ | .accept _ | .uplink _ _ | .acceptReply _
  | .reply _ _ | .response _ _ => true

/-- The datagrams that arrive at the sockets of the server in a step, as they were sent. -/
def DuplexAction.arrivals : DuplexAction → List Server.Arrival
  | .server a => a.arrivals
  | .client _ | .connect _ | .connectStep _ _ | .receive _ | .accept _ | .uplink _ _
  | .acceptReply _ | .reply _ _ | .response _ _ => []

/-- The two ends, with the datagrams that have arrived at the sockets of the server. -/
abbrev arrivalSystem (cfg : Config) : System (Duplex × List Server.Arrival) DuplexAction :=
  (duplexSystem cfg).record DuplexAction.arrivals

namespace Duplex

variable {cfg : Config} {s s' : Duplex} {a : DuplexAction} {C : Duplex → DuplexAction → Prop}

/-- The receiving side of the client drops nothing. -/
theorem kept_of_reachable
    (h : (duplexSystem cfg).ReachableBy (fun s a => a.keepsReceived s = true) s) :
    s.receiving.Kept := by
  refine h.invariant (I := fun s => s.receiving.Kept) rfl ?_
  intro s a s' _ hkept hkeep hs
  by_cases ha : ∃ b, a = .receive b
  · obtain ⟨b, rfl⟩ := ha
    obtain ⟨r, hr, rfl⟩ := Option.map_eq_some_iff.mp hs
    exact hkept.step hr hkeep
  · cases step_cases hs with
    | receive b r hstep => exact absurd ⟨b, rfl⟩ ha
    | acceptReply k hk hnew =>
      refine hkept.spawn ?_
      cases s.client.udpRelayMode <;> rfl
    | reply j d k t ended ev recv hj hk hended hev hon => exact hkept.set hj rfl
    | _ => exact hkept

/-- **At rest, as far as the way back is concerned**: both ends have nothing more to do with what
came in on the sockets of the server, all replies have arrived, and the applications have taken what
is for them. -/
structure Answered (cfg : Config) (s : Duplex) : Prop where
  /-- The connection lasts. -/
  isOpen : s.server.conn.controller = none ∧ s.client.closed = false
  /-- The handle task of the server has no received packet to take. -/
  handle : (Server.connectionSystem cfg.server).step s.server (.handle .go) = none ∧
    (Server.connectionSystem cfg.server).step s.server (.handle .receive) = none
  /-- No session has one to hand on. -/
  sessions : ∀ sid, (Server.connectionSystem cfg.server).step s.server (.session sid .handOn) = none
  /-- No reply task can go on. -/
  replies : ∀ k outcome,
    (Server.connectionSystem cfg.server).step s.server (.reply k outcome) = none
  /-- Every reply has got to the client. -/
  arrived : ∀ k, s.replyBytes k ≠ [] → k ∈ s.replyOf
  /-- It has arrived to its end. -/
  ended : ∀ t ∈ s.receiving.tasks, t.recv.status ≠ .receiving
  /-- The task that reads it cannot go on. -/
  receiving : ∀ j, s.receiving.step s.client.udpSessions (.task j) = none
  /-- The receive channels somebody listens to are empty. -/
  taken : ∀ a, a < s.client.assocs.length → (s.receiving.inbox a).isOpen = true →
    (s.receiving.inbox a).queue = []

namespace Answered

/-- Every task of the receiving side has delivered its packet. -/
theorem delivered (h : s.Answered cfg)
    (hr : (duplexSystem cfg).ReachableBy
      (fun s a => a.fitsUdp = true ∧ a.keepsReceived s = true) s) :
    s.receiving.delivered.length = s.receiving.tasks.length := by
  have hfits := hr.mono fun _ _ hC => hC.1
  have hkept : s.receiving.delivered.length + total Client.Incoming.undelivered s.receiving.tasks =
      _ := kept_of_reachable (hr.mono fun _ _ hC => hC.2)
  have hzero : total Client.Incoming.undelivered s.receiving.tasks = 0 := by
    refine total_eq_zero fun t ht => if_pos ?_
    obtain ⟨j, hj⟩ := List.mem_iff_getElem?.mp ht
    obtain ⟨hpanic, hfailed, hparse⟩ := accepted_of_reachable hfits hj
    have hreplying := replying_of_reachable hr
    obtain ⟨k, -, hreads⟩ := hreplying.reads j t hj
    -- the connection is not closed, so the stream has not failed
    have hfinished : t.recv.status = .finished := by
      cases hst : t.recv.status with
      | receiving => exact absurd hst (h.ended t ht)
      | finished => rfl
      | failed =>
        have hclosed := hreads.failed hst
        rw [h.isOpen.2] at hclosed
        cases hclosed
    refine Client.Receiving.done_of_idle hj (h.receiving j) (hparse hfinished) ?_ hpanic ?_
    · intro a pkt addr hpc hopen
      have hstands : t.Stands s.client.assocs := hreplying.stands j t hj
      rw [Client.Incoming.Stands, hpc] at hstands
      obtain ⟨assocId, -, ha⟩ := hstands
      obtain ⟨assoc, hassoc, -⟩ := Option.map_eq_some_iff.mp ha
      exact h.taken a (List.getElem?_eq_some_iff.mp hassoc).1 hopen
    · intro err herr
      have hclosed := hfailed err herr
      rw [h.isOpen.2] at hclosed
      cases hclosed
  omega

end Answered

/-! ## What arrives at the sockets -/

/-- What comes in on the sockets of the server at a step is what arrives, up to the size of the
buffer. -/
theorem Step.receivedBy_eq (h : Step cfg s a s') :
    s'.server.conn.udpSessions.receivedBy = s.server.conn.udpSessions.receivedBy ++
      a.arrivals.map (Server.Arrival.cut cfg.server.maxPktSize) := by
  cases h with
  | server b e hown hstep => exact (Server.Established.step_cases hstep).receivedBy_eq
  | accept o out t ho hsent hnew hfresh hsrc hdata hstep =>
    exact (Server.Established.step_cases hstep).receivedBy_eq
  | uplink i d o out t ev recv hi ho ht hev hon hstep =>
    exact (Server.Established.step_cases hstep).receivedBy_eq
  | _ => exact (List.append_nil _).symm

/-- What is to be delivered for a datagram that arrives at a socket of the server: as much of its
payload as fits the receive buffer, for the association the socket was created for, with the source
as it is on the wire. -/
def expected (cfg : Config) (s : Duplex) (e : Server.Arrival) : Option UInt32 × Bytes × Address :=
  (s.server.conn.udpSessions.assocOf e.1, e.2.1.take cfg.server.maxPktSize,
    (Address.socketAddress e.2.2).onWire)

/-- **What came in on the sockets is what arrived there**, up to the size of the buffer. -/
theorem received_of_reachable {D : Duplex × List Server.Arrival → DuplexAction → Prop}
    {x : Duplex × List Server.Arrival} (h : (arrivalSystem cfg).ReachableBy D x) :
    x.1.server.conn.udpSessions.receivedBy =
      x.2.map (Server.Arrival.cut cfg.server.maxPktSize) := by
  refine h.invariant (I := fun x => x.1.server.conn.udpSessions.receivedBy =
    x.2.map (Server.Arrival.cut cfg.server.maxPktSize)) rfl ?_
  intro x a x' _ ih _ hstep
  obtain ⟨hs, hrec⟩ := System.record_step hstep
  rw [(step_cases hs).receivedBy_eq, ih, hrec, List.map_append]

/-- The same with the associations of the sockets, as it is on the wire. -/
theorem receptions_eq {arrived : List Server.Arrival}
    (h : s.server.conn.udpSessions.receivedBy =
      arrived.map (Server.Arrival.cut cfg.server.maxPktSize)) :
    (s.receptions.map fun x => (x.1, x.2.1, x.2.2.onWire)) = arrived.map (s.expected cfg) := by
  rw [receptions, h, List.map_map, List.map_map]
  rfl

/-- Where every reply has arrived and every task has returned, the two ends are at rest. -/
theorem Answered.of_done (hr : (duplexSystem cfg).ReachableBy C s)
    (hopen : s.server.conn.controller = none ∧ s.client.closed = false)
    (hhandle : s.server.handle = .listening false) (hrecv : s.server.conn.udpSessions.recvPkt = [])
    (hsessions : ∀ ses ∈ s.server.conn.udpSessions.sessions, ses.received = none)
    (hreplies : ∀ pc ∈ s.server.replies, pc = .done)
    (harrived : ∀ k < s.server.replies.length, k ∈ s.replyOf)
    (hended : ∀ t ∈ s.receiving.tasks, t.recv.status ≠ .receiving)
    (hdone : ∀ t ∈ s.receiving.tasks, t.pc = .done)
    (htaken : ∀ a < s.client.assocs.length, (s.receiving.inbox a).queue = []) :
    s.Answered cfg := by
  refine ⟨hopen, ?_, fun sid => ?_, fun k outcome => ?_, fun k hk => ?_, hended, fun j => ?_,
    fun a ha _ => htaken a ha⟩
  · simp [Server.connectionSystem, Server.Established.step, Server.Established.handleStep, hhandle,
      hrecv]
  · cases hses : s.server.conn.udpSessions.sessions[sid]? with
    | none =>
      simp [Server.connectionSystem, Server.Established.step, Server.Udp.sessionStep, hses]
    | some ses =>
      have hnone := hsessions ses (List.mem_of_getElem? hses)
      simp [Server.connectionSystem, Server.Established.step, Server.Udp.sessionStep, hses, hnone]
  · cases hpc : s.server.replies[k]? with
    | none => simp [Server.connectionSystem, Server.Established.step, hpc]
    | some pc =>
      rw [hreplies pc (List.mem_of_getElem? hpc)] at hpc
      simp [Server.connectionSystem, Server.Established.step, hpc, Server.replyStep]
  · refine harrived k (Nat.lt_of_not_le fun hle => hk ?_)
    obtain ⟨taken, htaken⟩ := Server.Established.replied_of_reachable (server_reachable hr)
    obtain ⟨huni, hdatagram, -⟩ := htaken.unwritten k hle
    rw [replyBytes]
    cases s.client.udpRelayMode with
    | native => exact hdatagram
    | quic => exact huni
  · cases hj : s.receiving.tasks[j]? with
    | none => simp [Client.Receiving.step, hj]
    | some t =>
      have hpc := hdone t (List.mem_of_getElem? hj)
      simp [Client.Receiving.step, hj, Client.Receiving.processIncoming, hpc]

/-- Native mode, with receive buffers of two bytes. -/
def small : Config :=
  { sample .native with server := { (sample .native).server with maxPktSize := 2 } }

end Duplex

end EndToEnd

end Tuic
