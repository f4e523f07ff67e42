import Tuic.Client.Lifetime

/-! # Associations at rest

When nothing more comes in from the applications or the server, the handlers and their requests go
on by themselves for a while (`ApplicationsAction.isOwn`) and then come to rest. Every step of their
own makes `Applications.weight` smaller, so that they cannot go on forever, however they are
scheduled.

At rest every association is either live on both sides or has ended on both sides
(`Applications.Together`): there is no handler that waits for a request that is gone, no entry of
the session table whose handler is gone, and no packet stuck between the two. -/

namespace Tuic.Client.Socks5

open ByteCodec Transition

/-! ## Steps of their own -/

/-- The handler needs nothing from outside for the step. -/
def HandleStep.isOwn : HandleStep → Bool
  | .go | .fail | .uplink _ | .downlink _ => true
  | .datagram _ | .recvFails | .closed => false

/-- Nothing comes in from an application or the server with the step. -/
def ApplicationsAction.isOwn : ApplicationsAction → Bool
  | .handle _ st => st.isOwn
  | .serve _ _ | .timeout _ | .associate _ | .receive _ => true
  | .accept | .heartbeat | .send _ _ | .close | .incoming _ _ | .arrive _ _ |
    .receiveFails _ _ => false

/-! ## How far they are from rest -/

/-- How far `socks5_to_relay` is from waiting for a packet. -/
def UplinkPc.weight : UplinkPc → Nat
  | .recvFrom | .recv => 0
  | .connect _ => 1
  | .send _ => 2
  | .sendFirst _ _ => 3

/-- How far `relay_to_socks5` is from waiting for a packet. -/
def DownlinkPc.weight : DownlinkPc → Nat
  | .recv => 0
  | .send _ => 1

/-- How far a handler is from its end, with the request it still has to make. -/
def HandlePc.weight : HandlePc → Nat
  | .bind => 9
  | .request => 8
  | .reply => 3
  | .relaying up down => 2 + up.weight + down.weight
  | .shutdown _ | .refuse => 1
  | .returned _ => 0

/-- What a request that waits for its connection counts for, with the association to come. -/
def RequestPc.weight : RequestPc → Nat
  | .waiting => 4
  | .unsent | .served _ | .dropped => 0

/-- How far an association is from its end. -/
def associateWeight : AssociatePc → Nat
  | .insert => 3
  | .recv => 2
  | .remove => 1
  | .dissociate => 0

namespace Application

variable {app app' : Application} {inbox : List Inbound} {hasSender : Bool} {effect : InboxEffect}
  {st : HandleStep}

/-- A handler that can do nothing by itself has returned, or is in both loops: it waits for a packet
of the application, or for room in the send channel, and for a packet to come back. -/
theorem stuck_cases (h : ∀ st, st.isOwn = true → app.step inbox hasSender st = none) :
    (∃ isOk, app.pc = .returned isOk) ∨
      ∃ up, app.pc = .relaying up .recv ∧ inbox = [] ∧ hasSender = true ∧
        (up = .recvFrom ∨ up = .recv ∨ app.request ≠ .dropped ∧ app.outbox ≠ []) := by
  have hpush : ∀ m, app.push m = none → app.request ≠ .dropped ∧ app.outbox ≠ [] := by
    intro m hnone
    rw [push] at hnone
    split at hnone
    · cases hnone
    · rename_i hreq
      split at hnone
      · cases hnone
      · rename_i hlen
        refine ⟨hreq, fun hout => hlen ?_⟩
        rw [hout]
        exact Nat.zero_lt_one
  have hgo := h .go rfl
  have hup := h (.uplink true) rfl
  have hdown := h (.downlink true) rfl
  unfold Application.step at hgo hup hdown
  cases hpc : app.pc with
  | returned isOk => exact Or.inl ⟨isOk, rfl⟩
  | relaying up down =>
    rw [hpc] at hup hdown
    refine Or.inr ⟨up, ?_⟩
    have hrecv : down = .recv ∧ inbox = [] ∧ hasSender = true := by
      cases down with
      | recv =>
        cases inbox with
        | nil =>
          cases hasSender with
          | true => exact ⟨rfl, rfl, rfl⟩
          | false => cases hdown
        | cons m rest => cases hdown
      | send m =>
        simp only [downlink] at hdown
        split at hdown <;> cases hdown
    obtain ⟨rfl, hinbox, hsender⟩ := hrecv
    refine ⟨rfl, hinbox, hsender, ?_⟩
    cases up with
    | recvFrom => exact Or.inl rfl
    | recv => exact Or.inr (Or.inl rfl)
    | connect src => cases hup
    | sendFirst m src => exact Or.inr (Or.inr (hpush m (Option.map_eq_none_iff.mp hup)))
    | send m => exact Or.inr (Or.inr (hpush m (Option.map_eq_none_iff.mp hup)))
  | _ =>
    rw [hpc] at hgo
    cases hgo

/-- How far a handler is from its end, its request and its association not counted: a packet counts
until it is out of the send channel. -/
def weight (app : Application) : Nat :=
  app.pc.weight + app.request.weight + app.outbox.length

/-- Every step that a handler makes by itself brings it closer to its end. -/
theorem Step.weight_lt (hs : app.Step inbox hasSender st app' effect) (hst : st.isOwn = true) :
    app'.weight + 2 * (effect.after inbox).length < app.weight + 2 * inbox.length := by
  cases hs with
  | goes pc hpc =>
    have hlt : pc.weight < app.pc.weight := by
      rcases hpc with ⟨hpc, rfl | rfl⟩ | ⟨hpc, rfl⟩ | ⟨hpc | ⟨isOk, hpc⟩, isOk', rfl⟩ <;>
        simp [hpc, HandlePc.weight, UplinkPc.weight, DownlinkPc.weight]
    simp only [weight, goto, InboxEffect.after]
    omega
  | requests r hpc hr =>
    have hle : r.weight ≤ 4 := by
      rcases hr with rfl | rfl <;> simp [RequestPc.weight]
    simp only [weight, goto, InboxEffect.after, hpc, HandlePc.weight]
    omega
  | leaves pc hpc hend =>
    have hlt : pc.weight < app.pc.weight := by
      have hle : pc.weight ≤ 1 := by
        rcases hend with ⟨isOk, rfl⟩ | ⟨isOk, rfl⟩ <;> simp [HandlePc.weight]
      rcases hpc with hpc | ⟨up, down, hpc⟩ <;> rw [hpc, HandlePc.weight] <;> omega
    simp only [weight, goto, InboxEffect.after, List.length_nil]
    omega
  | pushes m up down hup hreq =>
    have hlt : (HandlePc.relaying up down).weight + 1 < app.pc.weight := by
      rcases hup with ⟨src, hpc, rfl⟩ | ⟨hpc, rfl⟩ <;>
        simp [hpc, HandlePc.weight, UplinkPc.weight] <;> omega
    simp only [weight, goto, InboxEffect.after, List.length_append, List.length_singleton]
    omega
  | drops m up down hup hreq =>
    have hlt : (HandlePc.relaying up down).weight < app.pc.weight := by
      rcases hup with ⟨src, hpc, rfl⟩ | ⟨hpc, rfl⟩ <;>
        simp [hpc, HandlePc.weight, UplinkPc.weight]
    simp only [weight, goto, InboxEffect.after]
    omega
  | connects src down hpc =>
    simp only [weight, goto, InboxEffect.after, hpc, HandlePc.weight, UplinkPc.weight]
    omega
  | accepts d q up down hbuffer hq hfrag hup => cases hst
  | ignores d buffer down hbuffer hd hpc => cases hst
  | takes m rest up hpc hinbox =>
    simp only [weight, goto, InboxEffect.after, hpc, HandlePc.weight, DownlinkPc.weight, hinbox,
      List.tail_cons, List.length_cons]
    omega
  | replies peer m up hpc hpeer =>
    simp only [weight, goto, InboxEffect.after, hpc, HandlePc.weight, DownlinkPc.weight]
    omega

end Application

namespace Applications

variable {mode : UdpRelayMode} {tokenDigest : List.Vector UInt8 32} {s s' : Applications}
  {C : Applications → ApplicationsAction → Prop}

/-! ## At rest -/

/-- No step of their own is left to the handlers, the requests and the tasks of incoming packets. -/
def AtRest (s : Applications) : Prop := ∀ act, act.isOwn = true → s.step act = none

/-- How an association may stand at rest: on both sides at once. -/
inductive Together (s : Applications) (app : Application) : Prop where
  /-- The handler waits for packets in both directions, its request does too, and the association
  is in the session table under its id. -/
  | lives (up : UplinkPc) (a : Nat) (assoc : Association) (hpc : app.pc = .relaying up .recv)
      (hup : up = .recvFrom ∨ up = .recv) (hreq : app.request = .served a)
      (ha : s.conn.assocs[a]? = some assoc) (hrecv : assoc.pc = .recv)
      (hentry : s.conn.udpSessions.lookup assoc.assocId = some a) (houtbox : app.outbox = [])
      (hinbox : s.inbox app = [])
  /-- The handler has returned, its request has ended, the association is not in the session table,
  and its `Dissociate` is with a sending task. -/
  | ended (isOk : Bool) (a : Nat) (assoc : Association) (hpc : app.pc = .returned isOk)
      (hreq : app.request = .served a) (ha : s.conn.assocs[a]? = some assoc)
      (hend : assoc.pc = .dissociate) (hentry : s.conn.udpSessions.lookup assoc.assocId ≠ some a)
      (hframe : .dissociate assoc.assocId ∈ s.conn.frames)
  /-- The handler has returned, and there never was an association. -/
  | never (isOk : Bool) (hpc : app.pc = .returned isOk)
      (hreq : app.request = .unsent ∨ app.request = .dropped)

/-- What a handler does to its receive channel is always possible. -/
theorem onInbox_ne_none (app : Application) (effect : InboxEffect) :
    s.onInbox app effect ≠ none := by
  unfold onInbox
  split <;> exact Option.some_ne_none _

section Rest

variable (hrest : s.AtRest)
include hrest

/-- A handler at rest can do nothing by itself. -/
theorem AtRest.handle {h : Nat} {app : Application} (hh : s.apps[h]? = some app)
    (st : HandleStep) (hst : st.isOwn = true) :
    app.step (s.inbox app) (s.hasSender app) st = none := by
  have hnone := hrest (.handle h st) hst
  simp only [step, hh] at hnone
  split at hnone
  · assumption
  · exact absurd (Option.map_eq_none_iff.mp hnone) (onInbox_ne_none _ _)

/-- No request waits for a connection. -/
theorem AtRest.request_ne {h : Nat} {app : Application} (hh : s.apps[h]? = some app) :
    app.request ≠ .waiting := by
  intro hreq
  have hnone := hrest (.timeout h) rfl
  simp only [step, hh, if_pos hreq] at hnone
  cases hnone

/-- A request that has its connection waits for a packet, or has ended. -/
theorem AtRest.associate {h a : Nat} {app : Application} {assoc : Association}
    (hh : s.apps[h]? = some app) (hreq : app.request = .served a)
    (ha : s.conn.assocs[a]? = some assoc) :
    assoc.pc = .recv ∧ app.outbox = [] ∧ app.isAttached = true ∨ assoc.pc = .dissociate := by
  have hnone := hrest (.associate h) rfl
  simp only [step, hh, hreq, ha] at hnone
  cases hpc : assoc.pc with
  | dissociate => exact Or.inr rfl
  | insert =>
    simp only [hpc, associateStep, Connection.step, ha, Connection.processRequest] at hnone
    cases hnone
  | remove =>
    simp only [hpc, associateStep, Connection.step, ha, Connection.processRequest] at hnone
    cases hnone
  | recv =>
    refine Or.inl ⟨rfl, ?_⟩
    simp only [hpc, associateStep] at hnone
    cases hout : app.outbox with
    | nil =>
      refine ⟨rfl, ?_⟩
      by_contra hatt
      simp only [hout, if_neg hatt, Connection.step, ha, Connection.processRequest, hpc] at hnone
      cases hnone
    | cons m rest =>
      -- what the handler has put into the channel can be sent
      have hfits : m.1.2.Fits := m.2
      simp only [hout, Connection.step, ha, Connection.processRequest, hpc, dif_pos hfits]
        at hnone
      cases hnone

/-- The task of an incoming packet waits for more of its stream, or for room in the receive channel,
or is at its end. -/
theorem AtRest.receive {j : Nat} {t : Incoming} (hj : s.receiving.tasks[j]? = some t) :
    (t.pc = .parse ∧ t.recv.status = .receiving ∨ t.pc.weight = 0) ∨
      ∃ a pkt addr, t.pc = .send a pkt addr ∧ (s.receiving.inbox a).isOpen = true ∧
        (s.receiving.inbox a).queue ≠ [] := by
  have hnone := Option.map_eq_none_iff.mp (hrest (.receive j) rfl)
  simp only [Receiving.step, hj] at hnone
  unfold Receiving.processIncoming at hnone
  split at hnone
  · rename_i hpc
    split at hnone
    · cases hnone
    · split at hnone
      · rename_i hst
        exact Or.inl (Or.inl ⟨hpc, hst.2⟩)
      · cases hnone
    · cases hnone
  · split at hnone <;> cases hnone
  · rename_i a pkt addr hpc
    split at hnone
    · rename_i hopen
      split at hnone
      · cases hnone
      · rename_i hlen
        refine Or.inr ⟨a, pkt, addr, hpc, hopen, fun hqueue => hlen ?_⟩
        rw [hqueue]
        exact Nat.zero_lt_one
    · cases hnone
  all_goals
    rename_i hpc
    exact Or.inl (Or.inr (by rw [hpc]; rfl))

/-- No task holds a packet for a receive channel: the handler would take what is in it. -/
theorem AtRest.pc_ne_send (hr : (applicationsSystem mode tokenDigest).ReachableBy C s) {j : Nat}
    {t : Incoming} (hj : s.receiving.tasks[j]? = some t) (a : Nat) (pkt : Bytes)
    (addr : Address) : t.pc ≠ .send a pkt addr := by
  intro hpc
  have hlt := (Connection.tabled_of_reachable (sessions_of_reachable hr)).2 j t hj a pkt addr hpc
  obtain ⟨h, app, hh, hreq⟩ := (owned_of_reachable hr).owned hlt
  have hatt : (s.receiving.inbox a).isOpen = app.isAttached :=
    (channelled_of_reachable hr).isOpen h app hh a hreq
  rcases hrest.receive hj with (⟨hparse, -⟩ | hover) | ⟨b, pkt', addr', hsend, hopen, hqueue⟩
  · rw [hpc] at hparse
    cases hparse
  · rw [hpc] at hover
    cases hover
  · rw [hpc] at hsend
    cases hsend
    rcases Application.stuck_cases (hrest.handle hh) with ⟨isOk, hret⟩ | ⟨up, -, hinbox, -⟩
    · rw [hopen, Application.isAttached, hret] at hatt
      cases hatt
    · rw [(inbox_served hreq).1] at hinbox
      exact hqueue hinbox

/-- A handler that relays at rest has an association that is in the session table. -/
theorem AtRest.lookup (hr : (applicationsSystem mode tokenDigest).ReachableBy C s) {a : Nat}
    {assoc : Association} (ha : s.conn.assocs[a]? = some assoc) (hpc : assoc.pc = .recv)
    (hsender : s.hasSenderOf a = true) : s.conn.udpSessions.lookup assoc.assocId = some a := by
  simp only [hasSenderOf, ha, Option.map_some, hpc, Bool.or_eq_true, List.any_eq_true] at hsender
  rcases hsender with (hinsert | ⟨e, he, hvalue⟩) | ⟨t, ht, hsend⟩
  · cases hinsert
  · -- the entry is under the id of the association
    have hvalue : e.2 = a := beq_iff_eq.mp hvalue
    have hlookup : s.conn.udpSessions.lookup e.1 = some a := by
      rw [← hvalue]
      exact AList.mem_lookup_iff.mpr he
    obtain ⟨assoc', ha', hid, -⟩ :=
      (Connection.tabled_of_reachable (sessions_of_reachable hr)).1.entry e.1 a hlookup
    cases ha.symm.trans ha'
    rw [hid]
    exact hlookup
  · obtain ⟨j, hj⟩ := List.mem_iff_getElem?.mp ht
    split at hsend
    · rename_i b pkt addr heq
      exact absurd heq (hrest.pc_ne_send hr hj b pkt addr)
    · cases hsend

end Rest

/-- **Associations live and die together.** In every reachable state in which the handlers, their
requests and the tasks of incoming packets can do nothing by themselves, every association is live
on both sides, with nothing stuck in its channels, or has ended on both sides, and every task of an
incoming packet is at its end or waits for the rest of its stream. -/
theorem AtRest.together (mode : UdpRelayMode) (tokenDigest : List.Vector UInt8 32)
    (s : Applications) (hr : (applicationsSystem mode tokenDigest).Reachable s)
    (hrest : s.AtRest) :
    All (fun _ app => s.Together app) s.apps ∧
      All (fun _ t => t.pc = .parse ∧ t.recv.status = .receiving ∨ t.pc.weight = 0)
        s.receiving.tasks := by
  have htabled := (Connection.tabled_of_reachable (sessions_of_reachable hr)).1
  refine ⟨fun h app hh => ?_, fun j t hj => ?_⟩
  · -- the association of the handler, if it has one
    have hassoc : ∀ a, app.request = .served a → ∃ assoc, s.conn.assocs[a]? = some assoc := by
      intro a hreq
      exact ⟨_, List.getElem?_eq_getElem ((owned_of_reachable hr).bound ⟨app, hh, hreq⟩)⟩
    rcases Application.stuck_cases (hrest.handle hh) with ⟨isOk, hpc⟩ |
      ⟨up, hpc, hinbox, hsender, hup⟩
    · have hatt : app.isAttached = false := by rw [Application.isAttached, hpc]
      cases hreq : app.request with
      | unsent => exact .never isOk hpc (Or.inl hreq)
      | dropped => exact .never isOk hpc (Or.inr hreq)
      | waiting => exact absurd hreq (hrest.request_ne hh)
      | served a =>
        obtain ⟨assoc, ha⟩ := hassoc a hreq
        rcases hrest.associate hh hreq ha with ⟨-, -, hatt'⟩ | hend
        · rw [hatt] at hatt'
          cases hatt'
        · refine .ended isOk a assoc hpc hreq ha hend (fun hlookup => ?_)
            (htabled.ended a assoc ha hend)
          obtain ⟨assoc', ha', -, hlive⟩ := htabled.entry _ a hlookup
          cases ha.symm.trans ha'
          rw [Association.isLive, hend] at hlive
          cases hlive
    · have hatt : app.isAttached = true := by rw [Application.isAttached, hpc]
      cases hreq : app.request with
      | unsent =>
        exact absurd hreq ((orderly_of_reachable hr h app hh).request_ne (Or.inr ⟨_, _, hpc⟩))
      | waiting => exact absurd hreq (hrest.request_ne hh)
      | dropped =>
        rw [hasSender, hreq] at hsender
        cases hsender
      | served a =>
        obtain ⟨assoc, ha⟩ := hassoc a hreq
        rcases hrest.associate hh hreq ha with ⟨hrecv, hout, -⟩ | hend
        · have hup : up = .recvFrom ∨ up = .recv := by
            rcases hup with hup | hup | ⟨-, hne⟩
            · exact Or.inl hup
            · exact Or.inr hup
            · exact absurd hout hne
          rw [hasSender, hreq] at hsender
          exact .lives up a assoc hpc hup hreq ha hrecv (hrest.lookup hr ha hrecv hsender) hout
            hinbox
        · have hgone :=
            (channelled_of_reachable hr).ending h app hh a assoc hreq ha (Or.inr hend)
          rw [hatt] at hgone
          cases hgone.1
  · rcases hrest.receive hj with hover | ⟨a, pkt, addr, hsend, -⟩
    · exact hover
    · exact absurd hsend (hrest.pc_ne_send hr hj a pkt addr)

/-- Whether no step of their own is left, for states that are given. -/
def isAtRest (s : Applications) : Bool :=
  ((List.range s.apps.length).all fun h =>
    (s.step (.timeout h)).isNone && (s.step (.associate h)).isNone &&
      [HandleStep.go, .fail, .uplink true, .uplink false, .downlink true, .downlink false].all
        fun st => (s.step (.handle h st)).isNone) &&
  (List.range s.receiving.tasks.length).all fun j => (s.step (.receive j)).isNone

/-- A request that cannot run out of time does not wait for a connection. -/
theorem serve_none {h : Nat} {assocId : UInt32} (hnone : s.step (.timeout h) = none) :
    s.step (.serve h assocId) = none := by
  simp only [step] at hnone ⊢
  cases hh : s.apps[h]? with
  | none => rfl
  | some app =>
    rw [hh] at hnone
    simp only at hnone ⊢
    split at hnone
    · cases hnone
    · rename_i hreq
      rw [if_neg hreq]

/-- What is said to be at rest is at rest. -/
theorem atRest_of_isAtRest (hrest : s.isAtRest = true) : s.AtRest := by
  simp only [isAtRest, Bool.and_eq_true, List.all_eq_true, List.mem_range,
    Option.isNone_iff_eq_none, List.mem_cons, List.not_mem_nil, or_false, forall_eq_or_imp,
    forall_eq] at hrest
  obtain ⟨happs, htasks⟩ := hrest
  intro act hact
  -- there is no handler and no task beyond the last one
  have hbeyond : ∀ {h : Nat}, ¬ h < s.apps.length → s.apps[h]? = none :=
    fun hh => List.getElem?_eq_none (Nat.le_of_not_lt hh)
  cases act with
  | handle h st =>
    by_cases hh : h < s.apps.length
    · obtain ⟨-, hgo, hfail, hup, hup', hdown, hdown'⟩ := happs h hh
      cases st with
      | go => exact hgo
      | fail => exact hfail
      | uplink ok => cases ok <;> assumption
      | downlink ok => cases ok <;> assumption
      | _ => cases hact
    · simp only [step, hbeyond hh]
  | serve h assocId =>
    by_cases hh : h < s.apps.length
    · exact serve_none (happs h hh).1.1
    · simp only [step, hbeyond hh]
  | timeout h =>
    by_cases hh : h < s.apps.length
    · exact (happs h hh).1.1
    · simp only [step, hbeyond hh]
  | associate h =>
    by_cases hh : h < s.apps.length
    · exact (happs h hh).1.2
    · simp only [step, hbeyond hh]
  | receive j =>
    by_cases hj : j < s.receiving.tasks.length
    · exact htasks j hj
    · simp only [step, Receiving.step, List.getElem?_eq_none (Nat.le_of_not_lt hj),
        Option.map_none]
  | _ => cases hact

/-- After the exchange the first application stays, and a second one comes and goes. -/
theorem AtRest.together_exchange :
    ∃ s, (applicationsSystem .native ⟨List.replicate 32 0, rfl⟩).Reachable s ∧ s.AtRest ∧
      s.conn.assocs = [⟨7, .recv⟩, ⟨8, .dissociate⟩] ∧
      All (fun _ app => s.Together app) s.apps := by
  obtain ⟨s, hs, hp⟩ := System.exists_reachable_of_run
    (applicationsSystem .native ⟨List.replicate 32 0, rfl⟩)
    (exchange ++ [.handle 0 (.uplink true), .associate 0, .accept, .handle 1 .go, .handle 1 .go,
      .handle 1 .go, .serve 1 8, .associate 1, .handle 1 .closed, .handle 1 .go, .associate 1,
      .associate 1])
    (fun s => s.isAtRest && decide (s.conn.assocs = [⟨7, .recv⟩, ⟨8, .dissociate⟩]))
    (by decide +kernel)
  obtain ⟨hrest, hassocs⟩ := Bool.and_eq_true_iff.mp hp
  have hrest := atRest_of_isAtRest hrest
  exact ⟨s, hs, hrest, of_decide_eq_true hassocs, (AtRest.together _ _ s hs hrest).1⟩

/-! ## Coming to rest -/

/-- The packets in the receive channels of all associations. -/
def queued (s : Applications) : Nat :=
  total (fun a => (s.receiving.inbox a).queue.length) (List.range s.conn.assocs.length)

/-- How far the handlers, the requests and the tasks of incoming packets are from their ends. -/
def weight (s : Applications) : Nat :=
  total Application.weight s.apps + total (fun assoc => associateWeight assoc.pc) s.conn.assocs +
    total (fun t => t.pc.weight) s.receiving.tasks + 2 * s.queued

/-- What a step of a handler does to the packets in the receive channels. -/
theorem queued_onInbox (how : s.Owned) {h : Nat} {app : Application} {effect : InboxEffect}
    {r : Receiving} (apps : List Application) (hh : s.apps[h]? = some app)
    (hr : s.onInbox app effect = some r) :
    (⟨s.conn, r, apps⟩ : Applications).queued + (s.inbox app).length =
      s.queued + (effect.after (s.inbox app)).length := by
  obtain ⟨-, hothers, hown⟩ := onInbox_spec hr
  by_cases hsome : ∃ a, app.request = .served a
  · obtain ⟨a, hreq⟩ := hsome
    have hrange := total_range (f := fun a => (s.receiving.inbox a).queue.length)
      (g := fun a => (r.inbox a).queue.length) (how.bound ⟨app, hh, hreq⟩) fun b hb => by
        rw [hothers b]
        intro hreq'
        rw [hreq] at hreq'
        cases hreq'
        exact hb rfl
    rw [hown a hreq] at hrange
    rw [(inbox_served hreq).1]
    exact hrange
  · rw [not_exists] at hsome
    have hsame : (⟨s.conn, r, apps⟩ : Applications).queued = s.queued :=
      total_congr fun b _ => by rw [hothers b (hsome b)]
    rw [hsame, (inbox_unserved hsome).1]
    cases effect <;> rfl

/-- The receive channel of a new association is empty. -/
theorem queued_serve (hc : s.Channelled) (isAttached : Bool) (assocId : UInt32)
    (apps : List Application) :
    (⟨{ s.conn with assocs := s.conn.assocs ++ [⟨assocId, .insert⟩] },
      if isAttached then s.receiving else hungUp s.receiving s.conn.assocs.length, apps⟩ :
        Applications).queued = s.queued := by
  have hnew := (hc.fresh s.conn.assocs.length (Nat.le_refl _)).1
  simp only [queued, List.length_append, List.length_singleton, List.range_succ, total_concat]
  cases isAttached with
  | true => simp [hnew]
  | false =>
    simp only [Bool.false_eq_true, if_false, hungUp, Function.update_self, List.length_nil]
    refine total_congr fun b hb => ?_
    rw [Function.update_of_ne (Nat.ne_of_lt (List.mem_range.mp hb))]

/-- A step of a request brings the association closer to its end, or takes a packet out of the send
channel. -/
theorem associate_weight_lt {app : Application} {a : Nat} {assoc : Association}
    {st : AssociateStep} {c : Connection} (ha : s.conn.assocs[a]? = some assoc)
    (hst : associateStep app assoc.pc = some st) (hs : s.conn.Step (.associate a st) c) :
    (if assoc.pc = .recv then app.relay else app).weight +
        total (fun assoc => associateWeight assoc.pc) c.assocs <
      app.weight + total (fun assoc => associateWeight assoc.pc) s.conn.assocs := by
  have htail : app.relay.weight ≤ app.weight := by
    simp only [Application.weight, Application.relay, List.length_tail]
    omega
  -- the association goes on at a point that is closer to its end
  have hgoto : ∀ pc : AssociatePc, associateWeight pc < associateWeight assoc.pc →
      (if assoc.pc = .recv then app.relay else app).weight +
          total (fun assoc => associateWeight assoc.pc)
            (s.conn.assocs.set a { assoc with pc := pc }) <
        app.weight + total (fun assoc => associateWeight assoc.pc) s.conn.assocs := by
    intro pc hlt
    have hset : total (fun assoc => associateWeight assoc.pc)
          (s.conn.assocs.set a { assoc with pc := pc }) + associateWeight assoc.pc =
        total (fun assoc => associateWeight assoc.pc) s.conn.assocs + associateWeight pc :=
      total_set ha
    split <;> omega
  cases hs with
  | insert a assoc₀ ha₀ hpc =>
    cases ha.symm.trans ha₀
    exact hgoto .recv (by simp [hpc, associateWeight])
  | gone a assoc₀ ha₀ hpc =>
    cases ha.symm.trans ha₀
    exact hgoto .remove (by simp [hpc, associateWeight])
  | dissociate a assoc₀ ha₀ hpc =>
    cases ha.symm.trans ha₀
    exact hgoto .dissociate (by simp [hpc, associateWeight])
  | packet a assoc₀ pkt addr fits ha₀ hpc =>
    cases ha.symm.trans ha₀
    rw [hpc] at hst
    have hhead := head?_of_associateStep hst
    rw [if_pos hpc]
    cases hout : app.outbox with
    | nil =>
      rw [hout] at hhead
      cases hhead
    | cons m rest =>
      simp only [Application.weight, Application.relay, hout, List.tail_cons, List.length_cons,
        Connection.spawn]
      omega

/-- The task of an incoming packet comes closer to its end, also when it puts its packet into a
receive channel. -/
theorem receive_weight_lt (hbound : All (fun _ t => t.Bounded s.conn.assocs.length)
      s.receiving.tasks) {b : ReceiveAction} {r : Receiving}
    (hb : (∃ j, b = .task j) ∨ ∃ j err, b = .fail j err)
    (hr : s.receiving.step s.conn.udpSessions b = some r) :
    total (fun t => t.pc.weight) r.tasks + 2 * (⟨s.conn, r, s.apps⟩ : Applications).queued <
      total (fun t => t.pc.weight) s.receiving.tasks + 2 * s.queued := by
  have hset : ∀ {j : Nat} {t : Incoming} (pc : IncomingPc), s.receiving.tasks[j]? = some t →
      total (fun t => t.pc.weight) (s.receiving.goto j t pc).tasks + t.pc.weight =
        total (fun t => t.pc.weight) s.receiving.tasks + pc.weight := fun _ hj => total_set hj
  obtain ⟨j, t, hj, ⟨pc, hlt, rfl⟩ | ⟨a, pkt, addr, hpc, rfl⟩⟩ := Receiving.task_cases hb hr
  · have hset := hset pc hj
    change _ + 2 * s.queued < _
    omega
  · have hset := hset .done hj
    have hrange : (⟨s.conn, (s.receiving.goto j t .done).push a pkt addr, s.apps⟩ :
          Applications).queued + (s.receiving.inbox a).queue.length =
        s.queued + (((s.receiving.goto j t .done).push a pkt addr).inbox a).queue.length := by
      refine total_range (f := fun b => (s.receiving.inbox b).queue.length)
        (g := fun b => (((s.receiving.goto j t .done).push a pkt addr).inbox b).queue.length)
        (hbound j t hj a pkt addr hpc) fun b hb => ?_
      simp only [Receiving.push, Receiving.goto, Function.update_of_ne hb]
    simp only [Receiving.push, Receiving.goto, Function.update_self, List.length_append,
      List.length_singleton, hpc, IncomingPc.weight] at hrange hset ⊢
    omega

/-- **Every step of their own brings the applications closer to rest.** -/
theorem weight_lt (hr : (applicationsSystem mode tokenDigest).ReachableBy C s)
    {act : ApplicationsAction} (hact : act.isOwn = true)
    (hs : (applicationsSystem mode tokenDigest).step s act = some s') : s'.weight < s.weight := by
  -- one handler goes on, and the others stay
  have hset : ∀ {h : Nat} {app : Application} (app' : Application), s.apps[h]? = some app →
      total Application.weight (s.apps.set h app') + app.weight =
        total Application.weight s.apps + app'.weight := fun _ hh => total_set hh
  cases step_cases hs with
  | accept => cases hact
  | handle h st app app' effect r hh hstep hr' =>
    have hlt := (Application.step_cases hstep).weight_lt hact
    have hqueued := queued_onInbox (owned_of_reachable hr) (s.apps.set h app') hh hr'
    have hset := hset app' hh
    have htasks := (onInbox_spec hr').1.1
    simp only [weight, htasks]
    omega
  | serve h assocId app hh hreq =>
    have hset := hset { app with request := .served s.conn.assocs.length } hh
    have hlt : ({ app with request := .served s.conn.assocs.length } : Application).weight + 4 =
        app.weight := by
      simp only [Application.weight, hreq, RequestPc.weight]
      omega
    have hqueued := queued_serve (channelled_of_reachable hr) app.isAttached assocId
      (s.apps.set h { app with request := .served s.conn.assocs.length })
    have htasks : (if app.isAttached then s.receiving
        else hungUp s.receiving s.conn.assocs.length).tasks = s.receiving.tasks := by
      split <;> rfl
    simp only [weight, hqueued, htasks, total_concat, associateWeight]
    omega
  | timeout h app hh hreq =>
    have hset := hset { app with request := .dropped } hh
    have hlt : ({ app with request := .dropped } : Application).weight < app.weight := by
      simp [Application.weight, hreq, RequestPc.weight]
    simp only [weight, queued]
    omega
  | associate h app a assoc st c hh hreq ha hst hc =>
    have hlt := associate_weight_lt ha hst (Connection.step_cases hc)
    have hset := hset (if assoc.pc = .recv then app.relay else app) hh
    simp only [weight, queued, length_assocs (Connection.step_cases hc)]
    omega
  | client a b c hb hc =>
    rcases hb with ⟨rfl, -⟩ | ⟨k, outcome, rfl, -⟩ | ⟨rfl, -⟩ <;> cases hact
  | incoming channel recv => cases hact
  | arrive j ev t recv hj hon => cases hact
  | receive a b r hb hr' =>
    have hlt := receive_weight_lt (Connection.tabled_of_reachable (sessions_of_reachable hr)).2
      (receive_cases hb) hr'
    simp only [weight]
    omega

/-- **The applications come to rest.** From every reachable state, every run of steps that need
nothing from outside is at most `weight` steps long, whatever the order, and some run of such steps
ends at rest. -/
theorem comes_to_rest (mode : UdpRelayMode) (tokenDigest : List.Vector UInt8 32)
    (s : Applications) (hr : (applicationsSystem mode tokenDigest).Reachable s) :
    (∀ acts s', (applicationsSystem mode tokenDigest).runBy (fun _ act => act.isOwn) s acts =
      some s' → acts.length + s'.weight ≤ s.weight) ∧
    ∃ acts s', (applicationsSystem mode tokenDigest).runBy (fun _ act => act.isOwn) s acts =
      some s' ∧ (applicationsSystem mode tokenDigest).Reachable s' ∧ s'.AtRest := by
  have hstep : ∀ s act s', (applicationsSystem mode tokenDigest).Reachable s →
      ApplicationsAction.isOwn act = true →
      (applicationsSystem mode tokenDigest).step s act = some s' →
        (applicationsSystem mode tokenDigest).Reachable s' ∧ s'.weight < s.weight :=
    fun s act s' hr hact hs => ⟨.step hr trivial hs, weight_lt hr hact hs⟩
  exact ⟨fun acts s' hrun => (System.length_le_of_runBy hstep hr hrun).2,
    System.exists_runBy_stuck hstep hr⟩

/-- After the exchange a packet is still to be put into the send channel and taken out of it. -/
theorem comes_to_rest_exchange :
    ∃ s, (applicationsSystem .native ⟨List.replicate 32 0, rfl⟩).Reachable s ∧ ¬ s.AtRest ∧
      (∀ acts s', (applicationsSystem .native ⟨List.replicate 32 0, rfl⟩).runBy
        (fun _ act => act.isOwn) s acts = some s' → acts.length ≤ 6) ∧
      ∃ acts s', (applicationsSystem .native ⟨List.replicate 32 0, rfl⟩).runBy
        (fun _ act => act.isOwn) s acts = some s' ∧ s'.AtRest := by
  obtain ⟨s, hs, hp⟩ := System.exists_reachable_of_run
    (applicationsSystem .native ⟨List.replicate 32 0, rfl⟩) exchange
    (fun s => (s.step (.handle 0 (.uplink true))).isSome && decide (s.weight = 6))
    (by decide +kernel)
  obtain ⟨hmore, hweight⟩ := Bool.and_eq_true_iff.mp hp
  obtain ⟨hle, acts, s', hrun, -, hrest⟩ := comes_to_rest _ _ s hs
  refine ⟨s, hs, fun hrest => ?_, fun acts s' hrun => ?_, acts, s', hrun, hrest⟩
  · rw [hrest (.handle 0 (.uplink true)) rfl] at hmore
    cases hmore
  · have hlen := hle acts s' hrun
    have hweight := of_decide_eq_true hweight
    omega

end Applications

end Tuic.Client.Socks5
