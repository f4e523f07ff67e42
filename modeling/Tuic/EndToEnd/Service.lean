import Tuic.EndToEnd.Relayed
import Tuic.Server.Traffic
import Tuic.Transition.Service

/-! # The relay as a datagram service

The applications behind a client and a server, compared with what they are for: a service that
relays the datagrams of any number of applications and knows neither associations nor connections,
tasks, channels or sockets (`service`). The account of an application has what it has sent, what the
sockets of its association have emitted and received, and what it got (`Deployment.account`), each
datagram as far as it fits the buffer it was received into. What is seen of a step from outside
(`Deployment.visible`) is that an application comes, sends a datagram or gets one, or that a socket
of the server sends or receives one for the application of its association; and what is seen of a
run is a run of the service. -/

namespace Tuic

open ByteCodec Transition
open Client.Socks5 (Application Applications applicationsSystem Outbound Inbound)

namespace EndToEnd

/-- A datagram goes through a socket of the server with the step. -/
def DuplexAction.isTraffic : DuplexAction → Bool
  | .server a => a.isTraffic
  | .client _ | .connect _ | .connectStep _ _ | .receive _ | .accept _ | .uplink _ _
  | .acceptReply _ | .reply _ _ | .response _ _ => false

namespace Duplex

variable {cfg : Config} {s s' : Duplex}

/-! ## Sockets and associations -/

/-- An id that was drawn stays drawn. -/
theorem mem_ids_of_step {a : DuplexAction} (hs : Step cfg s a s') {assocId : UInt32}
    (hmem : assocId ∈ s.client.assocs.map Client.Association.assocId) :
    assocId ∈ s'.client.assocs.map Client.Association.assocId := by
  rcases hs.client_cases with heq | ⟨b, -, hb⟩
  · rw [heq]
    exact hmem
  · generalize s'.client = c at hb
    by_cases hreq : ∃ id, b = .request id
    · obtain ⟨id, rfl⟩ := hreq
      cases hb
      rw [List.map_append]
      exact List.mem_append_left _ hmem
    · rw [Applications.ids_eq (fun id heq => hreq ⟨id, heq⟩) hb]
      exact hmem

/-- The packet that a handler has is of an association of the client. -/
theorem mem_ids_of_hands
    (h : (duplexSystem cfg).ReachableBy (fun s a => a.fitsUdp = true ∧ a.isFresh s = true) s)
    {i : Nat} {t : Server.Task} {p : Server.Packet} (hi : s.server.tasks[i]? = some t)
    (hands : Server.Hands t.source t.recv.data p) :
    p.assocId ∈ s.client.assocs.map Client.Association.assocId := by
  obtain ⟨k, snd, -, hk, hp⟩ := send_of_hands h hi hands
  exact ((submits_of_reachable h).packets k snd p hk hp).2

/-- **The server has sockets for associations of the client only.** -/
theorem known_of_reachable
    (h : (duplexSystem cfg).ReachableBy (fun s a => a.fitsUdp = true ∧ a.isFresh s = true) s) :
    ∀ sid assocId, s.server.conn.udpSessions.assocOf sid = some assocId →
      assocId ∈ s.client.assocs.map Client.Association.assocId := by
  refine h.invariant (I := fun s => ∀ sid assocId,
    s.server.conn.udpSessions.assocOf sid = some assocId →
      assocId ∈ s.client.assocs.map Client.Association.assocId) (fun _ _ hsid => by cases hsid) ?_
  intro s a s' hr ih _ hs sid assocId hsid
  have hstep := step_cases hs
  rcases hstep.server_cases with heq | ⟨b, hb, -⟩
  · rw [heq] at hsid
    exact mem_ids_of_step hstep (ih sid assocId hsid)
  rcases (Server.Established.step_cases hb).assocOf_cases with hsame | ⟨i, t, p, hi, hpc, hnew⟩
  · rw [hsame] at hsid
    exact mem_ids_of_step hstep (ih sid assocId hsid)
  · obtain ⟨ses, hses, hid⟩ := Option.map_eq_some_iff.mp hsid
    rw [hnew] at hses
    rcases getElem?_append_singleton_cases hses with ⟨-, rfl⟩ | hses
    · -- a new session is for the packet of a handler
      have hplaced : t.Placed :=
        Server.Established.placed_of_reachable (server_reachable hr) i t hi
      unfold Server.Task.Placed at hplaced
      rw [hpc] at hplaced
      exact mem_ids_of_step hstep (hid ▸ mem_ids_of_hands hr hi hplaced)
    · refine mem_ids_of_step hstep (ih sid assocId ?_)
      rw [Server.Udp.assocOf, hses]
      exact congrArg some hid

/-- The associations of what was sent and received stay the same. -/
theorem map_assocOf_eq {β γ : Type} {u u' : Server.Udp} {xs : List (Server.SessionId × β)}
    (f : β → γ) (hxs : ∀ e ∈ xs, ∃ assocId, u.assocOf e.1 = some assocId)
    (hkept : ∀ sid assocId, u.assocOf sid = some assocId → u'.assocOf sid = some assocId) :
    xs.map (fun e => (u'.assocOf e.1, f e.2)) = xs.map fun e => (u.assocOf e.1, f e.2) := by
  refine List.map_congr_left fun e he => ?_
  obtain ⟨assocId, hid⟩ := hxs e he
  rw [hid, hkept _ _ hid]

/-- What goes through the sockets at a step of the server: nothing, or one datagram by a step of the
session whose socket it is. -/
theorem traffic_of_server (hlocated : s.server.Located) {b : Server.Action}
    (hstep : Server.Established.Step cfg.server s.server b s'.server) :
    (b.isTraffic = false ∧ s'.emitted = s.emitted ∧ s'.receptions = s.receptions) ∨
      (∃ sid ses x, s.server.conn.udpSessions.sessions[sid]? = some ses ∧ ses.sending = some x ∧
        b = .session sid (.sendTo true) ∧
        s'.emitted = s.emitted ++ [(some ses.assocId, x)] ∧ s'.receptions = s.receptions) ∨
      ∃ sid ses data addr, s.server.conn.udpSessions.sessions[sid]? = some ses ∧
        b = .session sid (.recvFrom data addr) ∧ s'.emitted = s.emitted ∧
        s'.receptions = s.receptions ++
          [(some ses.assocId, data.take cfg.server.maxPktSize, .socketAddress addr)] := by
  have hkept : ∀ sid assocId, s.server.conn.udpSessions.assocOf sid = some assocId →
      s'.server.conn.udpSessions.assocOf sid = some assocId :=
    fun _ _ hid => hstep.assocOf_kept hid
  have hsent := map_assocOf_eq id hlocated.sent hkept
  have hreceived := map_assocOf_eq (fun x => (x.1, Address.socketAddress x.2)) hlocated.received
    hkept
  cases hstep.traffic with
  | quiet _ hb heq heq' =>
    refine Or.inl ⟨hb, ?_, ?_⟩
    · rw [emitted, heq]
      exact hsent
    · rw [receptions, heq']
      exact hreceived
  | sends sid ses pkt addr hses hsending heq heq' =>
    refine Or.inr (Or.inl ⟨sid, ses, (pkt, addr), hses, hsending, rfl, ?_, ?_⟩)
    · have hid := hkept sid ses.assocId (Server.Udp.assocOf_of_some hses)
      rw [emitted, heq, List.map_append]
      exact congrArg₂ _ hsent (by simp [hid])
    · rw [receptions, heq']
      exact hreceived
  | receives sid ses data addr hses heq heq' =>
    refine Or.inr (Or.inr ⟨sid, ses, data, addr, hses, rfl, ?_, ?_⟩)
    · rw [emitted, heq]
      exact hsent
    · have hid := hkept sid ses.assocId (Server.Udp.assocOf_of_some hses)
      rw [receptions, heq', List.map_append]
      exact congrArg₂ _ hreceived (by simp [hid])

/-- **What goes through the sockets of the server at a step of the two ends.** What arrives at the
server by the step goes through no socket. -/
theorem traffic_cases {C : Duplex → DuplexAction → Prop} (hr : (duplexSystem cfg).ReachableBy C s)
    {a : DuplexAction} (hs : (duplexSystem cfg).step s a = some s') :
    (a.isTraffic = false ∧ s'.emitted = s.emitted ∧ s'.receptions = s.receptions) ∨
      (∃ sid ses x, s.server.conn.udpSessions.sessions[sid]? = some ses ∧ ses.sending = some x ∧
        a = .server (.session sid (.sendTo true)) ∧
        s'.emitted = s.emitted ++ [(some ses.assocId, x)] ∧ s'.receptions = s.receptions) ∨
      ∃ sid ses data addr, s.server.conn.udpSessions.sessions[sid]? = some ses ∧
        a = .server (.session sid (.recvFrom data addr)) ∧ s'.emitted = s.emitted ∧
        s'.receptions = s.receptions ++
          [(some ses.assocId, data.take cfg.server.maxPktSize, .socketAddress addr)] := by
  have hlocated := Server.Established.located_of_reachable (server_reachable hr)
  by_cases ha : ∃ b, a = .server b
  · obtain ⟨b, rfl⟩ := ha
    cases step_cases hs with
    | server _ e hown hstep =>
      have hserver : Server.Established.Step cfg.server s.server b (s.withServer b e).server :=
        Server.Established.step_cases hstep
      rcases traffic_of_server hlocated hserver with hquiet | ⟨sid, ses, x, hses, hx, rfl, h⟩ |
        ⟨sid, ses, data, addr, hses, rfl, h⟩
      · exact Or.inl hquiet
      · exact Or.inr (Or.inl ⟨sid, ses, x, hses, hx, rfl, h⟩)
      · exact Or.inr (Or.inr ⟨sid, ses, data, addr, hses, rfl, h⟩)
  · have hquiet : a.isTraffic = false := by
      cases a with
      | server b => exact absurd ⟨b, rfl⟩ ha
      | _ => rfl
    rcases (step_cases hs).server_cases with heq | ⟨b, hb, rfl | hb'⟩
    · rw [emitted, receptions, heq]
      exact Or.inl ⟨hquiet, rfl, rfl⟩
    · exact absurd ⟨b, rfl⟩ ha
    · rcases traffic_of_server hlocated (Server.Established.step_cases hb) with ⟨-, h⟩ |
        ⟨sid, ses, x, -, -, rfl, -⟩ | ⟨sid, ses, data, addr, -, rfl, -⟩
      · exact Or.inl ⟨hquiet, h⟩
      · rcases hb' with ⟨st, hb'⟩ | ⟨i, ev, hb'⟩ <;> cases hb'
      · rcases hb' with ⟨st, hb'⟩ | ⟨i, ev, hb'⟩ <;> cases hb'

end Duplex

namespace Deployment

variable {cfg : Config} {w w' : Deployment} {C : Deployment → DeploymentAction → Prop}

/-! ## The accounts of the applications -/

/-- The id of the association of a handler. -/
def assocIdOf (w : Deployment) (app : Application) : Option UInt32 :=
  match app.request with
  | .served a => w.applications.ids[a]?
  | .unsent | .waiting | .dropped => none

/-- The datagrams of the association of a handler, among those of all. -/
def trafficOf (w : Deployment) (app : Application) (xs : List (Option UInt32 × Bytes × Address)) :
    List (Bytes × Address) :=
  (w.assocIdOf app).elim [] (ofAssoc · xs)

/-- The account of an application, as it is on the wire. -/
def account (w : Deployment) (app : Application) : Account (Bytes × Address) where
  sent := app.accepted.map fun x => x.2.onWire
  emitted := w.trafficOf app w.duplex.emitted
  received := (w.trafficOf app w.duplex.receptions).map fun x => (x.1, x.2.onWire)
  got := app.replied.map Prod.snd

/-- The accounts of all applications. -/
def accounts (w : Deployment) : List (Account (Bytes × Address)) := w.apps.map w.account

/-! ## What is seen from outside -/

/-- The handler that has the association with an id. -/
def handlerOf (w : Deployment) (assocId : UInt32) : Nat :=
  w.apps.findIdx fun app => w.assocIdOf app == some assocId

/-- What is seen of a step of handler `h`: its application sends a datagram, as far as the handler
receives it, or gets one. -/
def visibleOfHandle (w : Deployment) (h : Nat) (st : Client.Socks5.HandleStep) :
    Option (ServiceAction (Bytes × Address)) :=
  match st with
  | .datagram d => d.accept?.map fun x => .transfer h .send x.2.onWire
  | .downlink ok =>
    (w.apps[h]?.bind fun app => app.replying? (.downlink ok)).map (.transfer h .deliver)
  | .go | .fail | .uplink _ | .recvFails | .closed => none

/-- What is seen of a step of a session: its socket sends a datagram for the application of its
association, or receives one, as far as it fits the buffer. -/
def visibleOfSession (cfg : Config) (w : Deployment) (ses : Server.UdpSession)
    (st : Server.SessionStep) : Option (ServiceAction (Bytes × Address)) :=
  match st with
  | .sendTo true => ses.sending.map (.transfer (w.handlerOf ses.assocId) .emit)
  | .recvFrom data addr =>
    some (.transfer (w.handlerOf ses.assocId) .receive
      (data.take cfg.server.maxPktSize, (Address.socketAddress addr).onWire))
  | .sendTo false | .take | .disconnected | .recvFail | .handOn => none

/-- **What is seen of a step from outside**: that an application comes, or what is seen of its
handler or of a socket. -/
def visible (cfg : Config) (w : Deployment) :
    DeploymentAction → Option (ServiceAction (Bytes × Address))
  | .app .accept => some .enter
  | .app (.handle h st) => w.visibleOfHandle h st
  | .app (.serve _ _) | .app (.timeout _) | .app (.associate _) | .app .heartbeat | .app (.send _ _)
  | .app .close | .app (.incoming _ _) | .app (.arrive _ _) | .app (.receive _)
  | .app (.receiveFails _ _) => none
  | .duplex (.server (.session sid st)) =>
    w.duplex.server.conn.udpSessions.sessions[sid]?.bind fun ses => w.visibleOfSession cfg ses st
  | .duplex _ => none

/-- The step of the service that is seen, if any, takes the accounts before a step to those after
it. -/
def Matches (cfg : Config) (w : Deployment) (act : DeploymentAction) (w' : Deployment) : Prop :=
  (service (Bytes × Address)).run w.accounts (w.visible cfg act).toList = some w'.accounts

variable {act : DeploymentAction}

/-- Nothing is seen, and no account changes. -/
theorem Matches.of_none (hnone : w.visible cfg act = none) (h : w'.accounts = w.accounts) :
    w.Matches cfg act w' := by
  rw [Matches, hnone, h]
  rfl

/-- A step of the service is seen. -/
theorem Matches.of_some {b : ServiceAction (Bytes × Address)} (hb : w.visible cfg act = some b)
    (h : (service (Bytes × Address)).step w.accounts b = some w'.accounts) :
    w.Matches cfg act w' := by
  rw [Matches, hb]
  exact System.run_singleton h

/-! ## One step -/

/-- A handler with an association has its id. -/
theorem servedAs_iff {h : Nat} {app : Application} {assocId : UInt32} :
    w.ServedAs h app assocId ↔ w.apps[h]? = some app ∧ w.assocIdOf app = some assocId := by
  constructor
  · rintro ⟨a, hh, hreq, hid⟩
    refine ⟨hh, ?_⟩
    rw [assocIdOf, hreq]
    exact hid
  · rintro ⟨hh, hid⟩
    unfold assocIdOf at hid
    split at hid
    · rename_i a hreq
      exact ⟨a, hh, hreq, hid⟩
    all_goals cases hid

/-- Which datagrams are of a handler depends on the ids. -/
theorem trafficOf_congr (hids : w'.applications.ids = w.applications.ids) :
    w'.trafficOf = w.trafficOf := by
  funext app xs
  simp only [trafficOf, assocIdOf, hids]

/-- The accounts depend on the ids and on what went through the sockets. -/
theorem account_congr (hids : w'.applications.ids = w.applications.ids)
    (hemitted : w'.duplex.emitted = w.duplex.emitted)
    (hreceptions : w'.duplex.receptions = w.duplex.receptions) : w'.account = w.account := by
  funext app
  simp only [account, trafficOf_congr hids, hemitted, hreceptions]

/-- One more datagram of an association is one more of its handler. -/
theorem trafficOf_append (w : Deployment) (app : Application) (assocId : UInt32)
    (xs : List (Option UInt32 × Bytes × Address)) (x : Bytes × Address) :
    w.trafficOf app (xs ++ [(some assocId, x)]) =
      w.trafficOf app xs ++ if w.assocIdOf app = some assocId then [x] else [] := by
  unfold trafficOf ofAssoc
  cases hid : w.assocIdOf app with
  | none => simp
  | some id =>
    by_cases heq : id = assocId
    · subst heq
      simp
    · simp [heq, Ne.symm heq]

/-- One more datagram that went out of a socket is one more entry for its association. -/
theorem account_of_emitted {assocId : UInt32} {x : Bytes × Address}
    (hids : w'.applications.ids = w.applications.ids)
    (hemitted : w'.duplex.emitted = w.duplex.emitted ++ [(some assocId, x)])
    (hreceptions : w'.duplex.receptions = w.duplex.receptions) (app : Application) :
    w'.account app =
      if w.assocIdOf app = some assocId then (w.account app).add x .emit else w.account app := by
  rw [account, trafficOf_congr hids, hemitted, hreceptions, trafficOf_append]
  by_cases h : w.assocIdOf app = some assocId
  · rw [if_pos h, if_pos h, Account.coe_append_singleton]
    rfl
  · rw [if_neg h, if_neg h, List.append_nil]
    rfl

/-- The same for one that came in. -/
theorem account_of_receptions {assocId : UInt32} {x : Bytes × Address}
    (hids : w'.applications.ids = w.applications.ids)
    (hemitted : w'.duplex.emitted = w.duplex.emitted)
    (hreceptions : w'.duplex.receptions = w.duplex.receptions ++ [(some assocId, x)])
    (app : Application) :
    w'.account app = if w.assocIdOf app = some assocId
      then (w.account app).add (x.1, x.2.onWire) .receive else w.account app := by
  rw [account, trafficOf_congr hids, hemitted, hreceptions, trafficOf_append]
  by_cases h : w.assocIdOf app = some assocId
  · rw [if_pos h, if_pos h, List.map_append, List.map_singleton, Account.coe_append_singleton]
    rfl
  · rw [if_neg h, if_neg h, List.append_nil]
    rfl

/-- The accounts, when no handler's has changed. -/
theorem accounts_eq
    (h : ∀ k : Nat, w'.apps[k]?.map w'.account = w.apps[k]?.map w.account) :
    w'.accounts = w.accounts := by
  apply List.ext_getElem?
  intro k
  rw [accounts, accounts, List.getElem?_map, List.getElem?_map]
  exact h k

/-- A handler that goes on with its association and no datagram has the same account. -/
theorem accounts_of_set {h : Nat} {app app' : Application} (hh : w.apps[h]? = some app)
    (happs : w'.apps = w.apps.set h app') (hacc : w'.account = w.account)
    (hid : w.assocIdOf app' = w.assocIdOf app) (haccepted : app'.accepted = app.accepted)
    (hreplied : app'.replied.map Prod.snd = app.replied.map Prod.snd) :
    w'.accounts = w.accounts := by
  refine accounts_eq fun k => ?_
  rw [happs, hacc]
  by_cases hk : k = h
  · subst hk
    rw [getElem?_set_of_some hh, hh]
    simp only [Option.map_some, account, trafficOf, hid, haccepted, hreplied]
  · rw [List.getElem?_set_ne (Ne.symm hk)]

/-- A new handler has a new account. -/
theorem accounts_of_accept (happs : w'.apps = w.apps ++ [.new]) (hacc : w'.account = w.account) :
    w'.accounts = w.accounts ++ [.new] := by
  rw [accounts, accounts, happs, hacc, List.map_append]
  rfl

/-- The association of a handler has an id. -/
theorem assocIdOf_ne_none (hr : (deploymentSystem cfg).ReachableBy C w) {h a : Nat}
    {app : Application} (hh : w.apps[h]? = some app) (hreq : app.request = .served a) :
    w.assocIdOf app ≠ none := by
  have hlt := (Applications.owned_of_reachable (applications_of_reachable hr)).bound ⟨app, hh, hreq⟩
  rw [assocIdOf, hreq]
  exact fun hnone => absurd (List.getElem?_eq_none_iff.mp hnone)
    (Nat.not_le.mpr ((List.length_map Client.Association.assocId).symm ▸ hlt))

/-- **The accounts are sound.** -/
theorem sound_of_reachable (hr : w.Reached cfg) {h : Nat} {app : Application}
    (hh : w.apps[h]? = some app) : (w.account app).Sound := by
  cases hid : w.assocIdOf app with
  | some assocId =>
    have hs : w.ServedAs h app assocId := servedAs_iff.mpr ⟨hh, hid⟩
    refine ⟨Multiset.coe_le.mpr ?_, Multiset.coe_le.mpr ?_⟩
    · rw [trafficOf, hid]
      exact hs.emitted_subperm hr
    · rw [trafficOf, hid]
      exact hs.replied_subperm hr
  | none =>
    -- nothing was put into a receive channel that is not there yet
    have hgot := ((Applications.channelled_of_reachable (applications_of_reachable hr)).linked h app
      hh).begins
    rw [(Applications.inbox_unserved fun a hreq => assocIdOf_ne_none hr hh hreq hid).2] at hgot
    refine ⟨?_, ?_⟩
    · rw [account, trafficOf, hid]
      exact Multiset.zero_le _
    · rw [account, List.prefix_nil.mp hgot]
      exact Multiset.zero_le _

/-- **One more entry**: a step by which a datagram of one handler goes on and the others are left
alone is a step of the service. -/
theorem transfer_of_add (hr : w'.Reached cfg) {h : Nat} {app app' : Application}
    {kind : Transfer} {x : Bytes × Address} (hh : w.apps[h]? = some app)
    (hh' : w'.apps[h]? = some app')
    (hothers : ∀ k, k ≠ h → w'.apps[k]?.map w'.account = w.apps[k]?.map w.account)
    (hadd : w'.account app' = (w.account app).add x kind) :
    (service (Bytes × Address)).step w.accounts (.transfer h kind x) = some w'.accounts := by
  have hacc : w.accounts[h]? = some (w.account app) := by
    rw [accounts, List.getElem?_map, hh]
    rfl
  have hset : w'.accounts = w.accounts.set h ((w.account app).add x kind) := by
    apply List.ext_getElem?
    intro k
    by_cases hk : k = h
    · subst hk
      rw [getElem?_set_of_some hacc, accounts, List.getElem?_map, hh', Option.map_some, hadd]
    · rw [List.getElem?_set_ne (Ne.symm hk), accounts, accounts, List.getElem?_map,
        List.getElem?_map]
      exact hothers k hk
  rw [hset]
  exact service_transfer hacc (hadd ▸ sound_of_reachable hr hh')

/-- The request of a handler has the same association after a step of the handler. -/
theorem assocIdOf_of_step {app app' : Application} {inbox : List Inbound} {hasSender : Bool}
    {st : Client.Socks5.HandleStep} {effect : Client.Socks5.InboxEffect} (ho : app.Orderly)
    (h : app.Step inbox hasSender st app' effect) : w.assocIdOf app' = w.assocIdOf app := by
  unfold assocIdOf
  rcases h.request with heq | ⟨hpc, hnew⟩
  · rw [heq]
  · -- a handler that makes its request has none yet
    rw [ho.early (Or.inr hpc)]
    rcases hnew with hnew | hnew <;> rw [hnew]

/-- **A step of a handler** brings what is seen of it into its account. -/
theorem matches_of_handle (hr : w'.Reached cfg) {h : Nat} {st : Client.Socks5.HandleStep}
    {app app' : Application} {inbox : List Inbound} {hasSender : Bool}
    {effect : Client.Socks5.InboxEffect} (ho : app.Orderly)
    (hh : w.apps[h]? = some app) (hstep : app.step inbox hasSender st = some (app', effect))
    (happs : w'.apps = w.apps.set h app') (hacc : w'.account = w.account) :
    w.Matches cfg (.app (.handle h st)) w' := by
  have hh' : w'.apps[h]? = some app' := by
    rw [happs]
    exact getElem?_set_of_some hh
  have hothers : ∀ k, k ≠ h → w'.apps[k]?.map w'.account = w.apps[k]?.map w.account := by
    intro k hk
    rw [happs, List.getElem?_set_ne (Ne.symm hk), hacc]
  have hid : w.assocIdOf app' = w.assocIdOf app :=
    assocIdOf_of_step ho (Application.step_cases hstep)
  obtain ⟨harrived, hreplied⟩ := Application.socket_of_step hstep
  cases st with
  | datagram d =>
    have haccepted := Application.accepted_of_arrived harrived
    have hreplied := hreplied.trans (List.append_nil _)
    cases hd : d.accept? with
    | none =>
      rw [hd, Option.toList_none, List.append_nil] at haccepted
      refine .of_none ?_ (accounts_of_set hh happs hacc hid haccepted hreplied)
      simp [visible, visibleOfHandle, hd]
    | some x =>
      rw [hd, Option.toList_some] at haccepted
      refine .of_some (b := .transfer h .send x.2.onWire) ?_ (transfer_of_add hr hh hh' hothers ?_)
      · simp [visible, visibleOfHandle, hd]
      · rw [hacc]
        simp only [account, trafficOf, hid, haccepted, hreplied, List.map_append, List.map_cons,
          List.map_nil, Account.coe_append_singleton, Account.add]
  | downlink ok =>
    have haccepted : app'.accepted = app.accepted :=
      congrArg (List.filterMap _) (harrived.trans (List.append_nil _))
    cases hm : app.replying? (.downlink ok) with
    | none =>
      rw [hm, Option.toList_none, List.append_nil] at hreplied
      refine .of_none ?_ (accounts_of_set hh happs hacc hid haccepted hreplied)
      simp [visible, visibleOfHandle, hh, hm]
    | some m =>
      rw [hm, Option.toList_some] at hreplied
      refine .of_some (b := .transfer h .deliver m) ?_ (transfer_of_add hr hh hh' hothers ?_)
      · simp [visible, visibleOfHandle, hh, hm]
      · rw [hacc]
        simp only [account, trafficOf, hid, haccepted, hreplied, Account.coe_append_singleton,
          Account.add]
  | _ =>
    have haccepted : app'.accepted = app.accepted :=
      congrArg (List.filterMap _) (harrived.trans (List.append_nil _))
    exact .of_none rfl
      (accounts_of_set hh happs hacc hid haccepted (hreplied.trans (List.append_nil _)))

/-- Nothing has gone through sockets of an association to come. -/
theorem ofAssoc_eq_nil (hr : w.Reached cfg) {assocId : UInt32}
    (hfresh : assocId ∉ w.applications.ids) :
    ofAssoc assocId w.duplex.emitted = [] ∧ ofAssoc assocId w.duplex.receptions = [] := by
  have hunknown : ∀ sid, w.duplex.server.conn.udpSessions.assocOf sid ≠ some assocId :=
    fun sid hsid => hfresh (Duplex.known_of_reachable (duplex_isolated hr) sid assocId hsid)
  unfold ofAssoc Duplex.emitted Duplex.receptions
  simp [hunknown]

/-- **A request gets the connection**: the account of its handler stays empty. -/
theorem accounts_of_serve (hr : w.Reached cfg) {h : Nat} {assocId : UInt32}
    {app app' : Application} (hh : w.apps[h]? = some app) (hreq : app.request = .waiting)
    (happ' : app' = { app with request := .served w.duplex.client.assocs.length })
    (hfresh : assocId ∉ w.applications.ids) (happs : w'.apps = w.apps.set h app')
    (hids : w'.applications.ids = w.applications.ids ++ [assocId])
    (hemitted : w'.duplex.emitted = w.duplex.emitted)
    (hreceptions : w'.duplex.receptions = w.duplex.receptions) : w'.accounts = w.accounts := by
  have howned := Applications.owned_of_reachable (applications_of_reachable hr)
  have hlen : w.applications.ids.length = w.duplex.client.assocs.length := List.length_map _
  obtain ⟨hnone, hnone'⟩ := ofAssoc_eq_nil hr hfresh
  refine accounts_eq fun k => ?_
  by_cases hk : k = h
  · subst hk
    have hid : w'.assocIdOf app' = some assocId := by
      rw [assocIdOf, happ']
      simp [hids, ← hlen]
    have hunserved : w.assocIdOf app = none := by rw [assocIdOf, hreq]
    have haccepted : app'.accepted = app.accepted := by
      rw [happ']
      rfl
    have hreplied : app'.replied = app.replied := by rw [happ']
    rw [happs, getElem?_set_of_some hh, hh]
    simp [account, trafficOf, hid, hunserved, hemitted, hreceptions, hnone, hnone', haccepted,
      hreplied]
  · rw [happs, List.getElem?_set_ne (Ne.symm hk)]
    cases hx : w.apps[k]? with
    | none => rfl
    | some x =>
      -- an association that was there has the same id
      have hid : w'.assocIdOf x = w.assocIdOf x := by
        unfold assocIdOf
        split
        · rename_i a hreq
          rw [hids, List.getElem?_append_left (hlen.symm ▸ howned.bound ⟨x, hx, hreq⟩)]
        all_goals rfl
      simp only [Option.map_some, account, trafficOf, hid, hemitted, hreceptions]

/-- **A step of the applications and their client** brings what is seen of it into the accounts. -/
theorem matches_of_app (hr : w.Reached cfg) {a : Client.Socks5.ApplicationsAction}
    {s : Applications} (hlocal : a.isLocal = true)
    (hfresh : a.isFresh w.applications = true)
    (hstep : (applicationsSystem cfg.mode cfg.tokenDigest).step w.applications a = some s)
    (hr' : (w.withApplications s).Reached cfg) :
    w.Matches cfg (.app a) (w.withApplications s) := by
  -- the handlers and their accounts stay as they are
  have hsame : ∀ {s : Applications}, s.ids = w.applications.ids → s.apps = w.apps →
      (w.withApplications s).accounts = w.accounts := by
    intro s hids happs
    have hacc : (w.withApplications s).account = w.account := account_congr hids rfl rfl
    rw [accounts, accounts, hacc]
    exact congrArg (List.map w.account) happs
  cases Applications.step_cases hstep with
  | accept =>
    refine .of_some (b := .enter) rfl (congrArg some (Eq.symm ?_))
    apply accounts_of_accept rfl
    exact account_congr rfl rfl rfl
  | handle h st app app' effect r hh hhandle hinbox =>
    have ho := Applications.orderly_of_reachable (applications_of_reachable hr) h app hh
    exact matches_of_handle hr' ho hh hhandle rfl (account_congr rfl rfl rfl)
  | serve h assocId app hh hreq =>
    refine .of_none rfl
      (accounts_of_serve hr hh hreq rfl (of_decide_eq_true hfresh) rfl ?_ rfl rfl)
    exact List.map_append
  | timeout h app hh hreq =>
    refine .of_none rfl (accounts_of_set hh rfl (account_congr rfl rfl rfl) ?_ rfl rfl)
    rw [assocIdOf, assocIdOf, hreq]
  | associate h app a assoc st c hh hreq ha hst hc =>
    have hids := Applications.ids_eq (fun assocId heq => by cases heq)
      (Client.Connection.step_cases hc)
    refine .of_none rfl (accounts_of_set hh rfl (account_congr hids rfl rfl) ?_ ?_ ?_)
    all_goals split <;> rfl
  | client a b c hb hc =>
    have hnone : w.visible cfg (.app a) = none := by
      rcases hb with ⟨rfl, -⟩ | ⟨k, outcome, rfl, -⟩ | ⟨rfl, -⟩ <;> rfl
    refine .of_none hnone (hsame (Applications.ids_eq ?_ (Client.Connection.step_cases hc)) rfl)
    rintro assocId rfl
    rcases Applications.client_cases hb with hb | ⟨k, outcome, hb⟩ | hb <;> cases hb
  | incoming channel recv => cases hlocal
  | arrive j ev t recv hj hon => cases hlocal
  | receive a b r hb hr =>
    have hnone : w.visible cfg (.app a) = none := by
      rcases hb with ⟨j, rfl, -⟩ | ⟨j, err, rfl, -⟩ <;> rfl
    exact .of_none hnone (hsame rfl rfl)

/-- What a step of the rest leaves alone of the associations. -/
theorem ids_of_remote {a : DuplexAction} {d : Duplex} (hremote : a.isRemote = true)
    (hs : (duplexSystem cfg).step w.duplex a = some d) :
    ({ w with duplex := d } : Deployment).applications.ids = w.applications.ids := by
  rcases (Duplex.step_cases hs).client_cases with heq | ⟨b, rfl, -⟩
  · exact congrArg (fun c => c.assocs.map Client.Association.assocId) heq
  · cases hremote

/-- The handler of an association is found by its id. -/
theorem handlerOf_eq (hr : w.Reached cfg) {h : Nat} {app : Application} {assocId : UInt32}
    (hs : w.ServedAs h app assocId) : w.handlerOf assocId = h := by
  have hnodup := (Duplex.submits_of_reachable (duplex_isolated hr)).nodup
  obtain ⟨hh, hid⟩ := servedAs_iff.mp hs
  obtain ⟨hlt, happ⟩ := List.getElem?_eq_some_iff.mp hh
  refine (List.findIdx_eq hlt).mpr ⟨?_, fun k hk => ?_⟩
  · rw [happ, hid]
    exact beq_self_eq_true _
  · -- no other handler has an association with this id
    have hne : w.assocIdOf w.apps[k] ≠ some assocId := fun hk' =>
      (Nat.ne_of_lt hk) (ServedAs.unique hr hnodup
        (servedAs_iff.mpr ⟨List.getElem?_eq_getElem _, hk'⟩) hs)
    exact beq_eq_false_iff_ne.mpr hne

/-- **A datagram goes through a socket of the server**: it is one more in the account of the
application whose association the socket is for, and in no other. -/
theorem transfer_of_socket (hr : w.Reached cfg) (hr' : w'.Reached cfg)
    (happs : w'.apps = w.apps) {assocId : UInt32} (hmem : assocId ∈ w.applications.ids)
    {kind : Transfer} {x : Bytes × Address}
    (hacc : ∀ app, w'.account app =
      if w.assocIdOf app = some assocId then (w.account app).add x kind else w.account app) :
    (service (Bytes × Address)).step w.accounts (.transfer (w.handlerOf assocId) kind x) =
      some w'.accounts := by
  have hnodup := (Duplex.submits_of_reachable (duplex_isolated hr)).nodup
  obtain ⟨h, app, hs⟩ := servedAs_of_mem hr hmem
  obtain ⟨hh, hid⟩ := servedAs_iff.mp hs
  rw [handlerOf_eq hr hs]
  refine transfer_of_add hr' hh (happs ▸ hh) (fun k hk => ?_) ((hacc app).trans (if_pos hid))
  rw [happs]
  cases hy : w.apps[k]? with
  | none => rfl
  | some y =>
    have hne : w.assocIdOf y ≠ some assocId := fun hy' =>
      hk (ServedAs.unique hr hnodup (servedAs_iff.mpr ⟨hy, hy'⟩) hs)
    rw [Option.map_some, Option.map_some, hacc y, if_neg hne]

/-- Nothing is seen of a step by which nothing goes through a socket. -/
theorem visible_duplex_eq_none {a : DuplexAction} (h : a.isTraffic = false) :
    w.visible cfg (.duplex a) = none := by
  cases a with
  | server b =>
    cases b with
    | session sid st =>
      cases hses : w.duplex.server.conn.udpSessions.sessions[sid]? with
      | none => simp [visible, hses]
      | some ses =>
        cases st with
        | sendTo ok =>
          cases ok with
          | true => cases h
          | false => simp [visible, visibleOfSession]
        | recvFrom data addr => cases h
        | _ => simp [visible, visibleOfSession]
    | _ => rfl
  | _ => rfl

/-- **A step of the rest** brings what is seen of it into the accounts. -/
theorem matches_of_duplex (hr : w.Reached cfg) {a : DuplexAction} {d : Duplex}
    (hremote : a.isRemote = true)
    (hstep : (duplexSystem cfg).step w.duplex a = some d)
    (hr' : ({ w with duplex := d } : Deployment).Reached cfg) :
    w.Matches cfg (.duplex a) { w with duplex := d } := by
  have hduplex := duplex_isolated hr
  have hids := ids_of_remote hremote hstep
  -- a session is for an association of the client
  have hknown : ∀ {sid : Server.SessionId} {ses : Server.UdpSession},
      w.duplex.server.conn.udpSessions.sessions[sid]? = some ses →
        ses.assocId ∈ w.applications.ids := fun hses =>
    Duplex.known_of_reachable hduplex _ _ (Server.Udp.assocOf_of_some hses)
  rcases Duplex.traffic_cases hduplex hstep with ⟨hquiet, hemitted, hreceptions⟩ |
    ⟨sid, ses, x, hses, hsending, rfl, hemitted, hreceptions⟩ |
    ⟨sid, ses, data, addr, hses, rfl, hemitted, hreceptions⟩
  · exact .of_none (visible_duplex_eq_none hquiet)
      (congrArg (w.apps.map ·) (account_congr hids hemitted hreceptions))
  · refine .of_some (b := .transfer (w.handlerOf ses.assocId) .emit x) ?_
      (transfer_of_socket hr hr' rfl (hknown hses) (account_of_emitted hids hemitted hreceptions))
    simp [visible, visibleOfSession, hses, hsending]
  · refine .of_some (b := .transfer (w.handlerOf ses.assocId) .receive
        (data.take cfg.server.maxPktSize, (Address.socketAddress addr).onWire)) ?_
      (transfer_of_socket hr hr' rfl (hknown hses)
        (account_of_receptions hids hemitted hreceptions))
    simp [visible, visibleOfSession, hses]

/-! ## The relay refines the service -/

/-- **One step** of the whole brings what is seen of it into the accounts. -/
theorem matches_of_step (hr : w.Reached cfg) {act : DeploymentAction}
    (hC : act.fitsUdp = true ∧ act.isFresh w = true)
    (hs : (deploymentSystem cfg).step w act = some w') : w.Matches cfg act w' := by
  have hr' := hr.step hC hs
  rcases step_cases hs with ⟨a, s, rfl, hlocal, hstep, rfl⟩ | ⟨a, d, rfl, hremote, hstep, rfl⟩
  · exact matches_of_app hr hlocal hC.2 hstep hr'
  · exact matches_of_duplex hr hremote hstep hr'

/-- **The relay is a datagram service.** When no id is drawn twice and UDP datagrams carry at most
65535 bytes, what is seen from outside of any run of the applications, the client and the server, in
either relay mode and in any interleaving, is a run of `service` that ends with the accounts of the
applications. Seen are, in the order of the run, every application that comes, every datagram that
one sends, without fragments and as far as it fits the receive buffer of its handler, every datagram
that one gets, every datagram that a socket of the server emits, and every one that arrives at a
socket, cut off at `max_pkt_size` bytes, each for the application of the association. -/
theorem refines_service (cfg : Config) (as : List DeploymentAction) (w : Deployment)
    (hrun : (deploymentSystem cfg).runBy (fun w act => act.fitsUdp && act.isFresh w)
      (deploymentSystem cfg).init as = some w) :
    (service (Bytes × Address)).run []
      ((deploymentSystem cfg).trace (visible cfg) (deploymentSystem cfg).init as) =
        some w.accounts := by
  refine System.run_trace (f := accounts) (fun w act w' hr hC hs => ?_) .init hrun
  exact matches_of_step (hr.mono fun _ _ hC => Bool.and_eq_true_iff.mp hC)
    (Bool.and_eq_true_iff.mp hC) hs

/-- The theorem in a run in which two applications send a datagram each, of which the first is cut
off, and the first gets one back, which is cut off too. -/
theorem refines_service_two :
    let target : Address := .socketAddress (.v4 ⟨1, 2, 3, 4⟩ 53)
    let seen : List (ServiceAction (Bytes × Address)) :=
      [.enter, .transfer 0 .send ([1, 1], target), .enter, .transfer 1 .send ([2], target),
        .transfer 1 .emit ([2], target), .transfer 0 .emit ([1, 1], target),
        .transfer 0 .receive ([9, 8], target), .transfer 0 .deliver ([9, 8], target)]
    ∃ w, (deploymentSystem Duplex.small).runBy (fun w act => act.fitsUdp && act.isFresh w)
        (deploymentSystem Duplex.small).init twoApplications = some w ∧
      (deploymentSystem Duplex.small).trace (visible Duplex.small)
        (deploymentSystem Duplex.small).init twoApplications = seen ∧
      (service (Bytes × Address)).run [] seen = some w.accounts := by
  intro target seen
  have hsome : ((deploymentSystem Duplex.small).runBy (fun w act => act.fitsUdp && act.isFresh w)
      (deploymentSystem Duplex.small).init twoApplications).isSome = true := by
    decide +kernel
  have htrace : (deploymentSystem Duplex.small).trace (visible Duplex.small)
      (deploymentSystem Duplex.small).init twoApplications = seen := by
    decide +kernel
  obtain ⟨w, hw⟩ := Option.isSome_iff_exists.mp hsome
  exact ⟨w, hw, htrace, htrace ▸ refines_service Duplex.small twoApplications w hw⟩

end Deployment

end EndToEnd

end Tuic
