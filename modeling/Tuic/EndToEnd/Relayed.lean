import Tuic.EndToEnd.Deployment

/-! # What an application gets

The datagrams between one application and the targets, all the way: from the application through its
handler, its request, the client, the server and the socket of the association, and back. What the
sockets of an association emit comes from the application that the association is of, and what the
application gets comes in on these sockets, whatever the other applications do; and once everything
has come to rest (`AtRest`), nothing is missing. -/

namespace Tuic

open ByteCodec Transition
open Client.Socks5 (Application Applications Outbound Inbound)

/-- The packet of an application, as it is on the wire. -/
def Client.Socks5.Outbound.onWire (m : Outbound) : Bytes × Address := (m.1.1, m.1.2.onWire)

namespace EndToEnd

/-! ## Datagrams of one association -/

/-- The datagrams of an association among those of all. -/
def ofAssoc (assocId : UInt32) (xs : List (Option UInt32 × Bytes × Address)) :
    List (Bytes × Address) :=
  xs.filterMap fun x => if x.1 = some assocId then some x.2 else none

/-- What was submitted under an id. -/
theorem ofAssoc_submitted (d : Duplex) (assocId : UInt32) :
    ofAssoc assocId d.submitted = (d.client.packetsOf assocId).map Outbound.onWire := by
  unfold ofAssoc Duplex.submitted Client.Connection.packetsOf Client.Connection.frames
  rw [List.filterMap_map, List.filterMap_filterMap, List.filterMap_map, List.map_filterMap]
  congr 1
  funext snd
  cases hf : snd.frame with
  | packet mode id pkt addr fits =>
    by_cases hid : id = assocId
    · simp [hf, Client.Frame.packet?, Client.Connection.packetOf, hid,
        Client.Socks5.Outbound.onWire]
    · simp [hf, Client.Frame.packet?, Client.Connection.packetOf, hid]
  | _ => simp [hf, Client.Frame.packet?, Client.Connection.packetOf]

/-- What was delivered to the association that has drawn an id. -/
theorem ofAssoc_deliveries {d : Duplex} {a : Nat} {assocId : UInt32}
    (hnodup : (d.client.assocs.map Client.Association.assocId).Nodup)
    (ha : (d.client.assocs.map Client.Association.assocId)[a]? = some assocId) :
    ofAssoc assocId d.deliveries = doneBy a d.receiving.delivered := by
  unfold ofAssoc Duplex.deliveries doneBy
  rw [List.filterMap_map]
  congr 1
  funext x
  have hiff : d.client.assocs[x.1]?.map Client.Association.assocId = some assocId ↔ x.1 = a := by
    rw [← List.getElem?_map]
    constructor
    · intro hx
      exact (List.getElem?_inj (List.getElem?_eq_some_iff.mp hx).1 hnodup).mp (hx.trans ha.symm)
    · intro hx
      rw [hx]
      exact ha
  exact if_congr hiff rfl rfl

/-- What was received, as it is on the wire. -/
theorem ofAssoc_map_onWire (assocId : UInt32) (xs : List (Option UInt32 × Bytes × Address)) :
    ofAssoc assocId (xs.map fun x => (x.1, x.2.1, x.2.2.onWire)) =
      (ofAssoc assocId xs).map fun x => (x.1, x.2.onWire) := by
  unfold ofAssoc
  rw [List.filterMap_map, List.map_filterMap]
  congr 1
  funext x
  by_cases hx : x.1 = some assocId <;> simp [hx]

namespace Deployment

variable {cfg : Config} {w : Deployment} {C : Deployment → DeploymentAction → Prop}
  {D : Duplex → DuplexAction → Prop}

/-- Handler `h`, which is `app`, has an association with this id. -/
def ServedAs (w : Deployment) (h : Nat) (app : Application) (assocId : UInt32) : Prop :=
  ∃ a, w.apps[h]? = some app ∧ app.request = .served a ∧ w.applications.ids[a]? = some assocId

/-- **An application, its association and its datagrams.** With ids that are not drawn twice, what
is submitted under the id of an association is what its request has taken out of the send channel,
and what was delivered to it is what was put into the receive channel of the handler. -/
theorem ServedAs.datagrams {h : Nat} {app : Application} {assocId : UInt32}
    (hs : w.ServedAs h app assocId) (hr : (deploymentSystem cfg).ReachableBy C w)
    (hnodup : (w.duplex.client.assocs.map Client.Association.assocId).Nodup) :
    ofAssoc assocId w.duplex.submitted = app.relayed.map Outbound.onWire ∧
      ofAssoc assocId w.duplex.deliveries = w.applications.deliveredTo app := by
  obtain ⟨a, hh, hreq, hid⟩ := hs
  have happs := applications_of_reachable hr
  have hsole : ∀ b, w.applications.ids[b]? = some assocId → b = a := by
    intro b hb
    have hlt := (List.getElem?_eq_some_iff.mp hb).1
    exact (List.getElem?_inj hlt hnodup).mp (hb.trans hid.symm)
  constructor
  · have hpackets := (Applications.submitted_of_reachable happs).sole h app hh a assocId hreq hid
      hsole
    rw [ofAssoc_submitted]
    exact congrArg (List.map Outbound.onWire) hpackets
  · rw [ofAssoc_deliveries hnodup hid, (Applications.inbox_served hreq).2]
    rfl

/-- Every association is that of a handler, and has an id. -/
theorem servedAs_of_mem (hr : (deploymentSystem cfg).ReachableBy C w) {assocId : UInt32}
    (hmem : assocId ∈ w.applications.ids) : ∃ h app, w.ServedAs h app assocId := by
  obtain ⟨a, hid⟩ := List.mem_iff_getElem?.mp hmem
  have hlt : a < w.applications.conn.assocs.length := by
    rw [← List.length_map (f := Client.Association.assocId)]
    exact (List.getElem?_eq_some_iff.mp hid).1
  obtain ⟨h, app, hh, hreq⟩ :=
    (Applications.owned_of_reachable (applications_of_reachable hr)).owned hlt
  exact ⟨h, app, a, hh, hreq, hid⟩

/-- No two handlers have associations with the same id. -/
theorem ServedAs.unique (hr : (deploymentSystem cfg).ReachableBy C w)
    (hnodup : (w.duplex.client.assocs.map Client.Association.assocId).Nodup) {h h' : Nat}
    {app app' : Application} {assocId : UInt32} (hs : w.ServedAs h app assocId)
    (hs' : w.ServedAs h' app' assocId) : h = h' := by
  obtain ⟨a, hh, hreq, hid⟩ := hs
  obtain ⟨a', hh', hreq', hid'⟩ := hs'
  have hlt := (List.getElem?_eq_some_iff.mp hid).1
  have ha : a = a' := (List.getElem?_inj hlt hnodup).mp (hid.trans hid'.symm)
  subst ha
  exact (Applications.owned_of_reachable (applications_of_reachable hr)).unique
    ⟨app, hh, hreq⟩ ⟨app', hh', hreq'⟩

/-- Reached in a run in which no id is drawn twice and UDP datagrams carry at most 65535 bytes. -/
abbrev Reached (cfg : Config) (w : Deployment) : Prop :=
  (deploymentSystem cfg).ReachableBy (fun w act => act.fitsUdp = true ∧ act.isFresh w = true) w

/-- The two ends have associations that are kept apart. -/
theorem duplex_isolated (h : w.Reached cfg) :
    (duplexSystem cfg).ReachableBy (fun d a => a.fitsUdp = true ∧ a.isFresh d = true) w.duplex := by
  have hduplex := duplex_of_reachable (Q := fun _ _ => True) (fun _ _ => trivial)
    (fun _ _ _ => trivial) (fun _ _ _ => trivial) (fun _ _ _ => trivial)
    (h.mono (D := fun w act => act.fitsUdp = true ∧ act.isFresh w = true ∧ True)
      fun _ _ hC => ⟨hC.1, hC.2, trivial⟩)
  exact hduplex.mono fun _ _ hC => ⟨hC.1, hC.2.1⟩

/-- What the sockets of an association have emitted is some of what its application has sent. -/
theorem ServedAs.emitted_subperm {h : Nat} {app : Application} {assocId : UInt32}
    (hs : w.ServedAs h app assocId) (hr : w.Reached cfg) :
    (ofAssoc assocId w.duplex.emitted).Subperm (app.accepted.map fun x => x.2.onWire) := by
  have hduplex := duplex_isolated hr
  have hsent := (hs.datagrams hr (Duplex.submits_of_reachable hduplex).nodup).1
  obtain ⟨a, hh, -, -⟩ := hs
  have horderly := Applications.orderly_of_reachable (applications_of_reachable hr) h app hh
  have hemitted : (ofAssoc assocId w.duplex.emitted).Subperm (app.relayed.map Outbound.onWire) := by
    rw [← hsent]
    exact subperm_filterMap (Duplex.emitted_subperm hduplex) _
  have hbegins : app.relayed <+: app.accepted.map Prod.snd :=
    (List.prefix_append _ _).trans horderly.begins
  have hmap := (hbegins.map Outbound.onWire).sublist.subperm
  rw [List.map_map] at hmap
  exact hemitted.trans hmap

/-- What an application got is some of what the sockets of its association have received. -/
theorem ServedAs.replied_subperm {h : Nat} {app : Application} {assocId : UInt32}
    (hs : w.ServedAs h app assocId) (hr : w.Reached cfg) :
    (app.replied.map Prod.snd).Subperm
      ((ofAssoc assocId w.duplex.receptions).map fun x => (x.1, x.2.onWire)) := by
  have hduplex := duplex_isolated hr
  have hgot := (hs.datagrams hr (Duplex.submits_of_reachable hduplex).nodup).2
  obtain ⟨a, hh, -, -⟩ := hs
  have hlinked := (Applications.channelled_of_reachable (applications_of_reachable hr)).linked h app
    hh
  have hdelivered : (ofAssoc assocId w.duplex.deliveries).Subperm
      (ofAssoc assocId (w.duplex.receptions.map fun x => (x.1, x.2.1, x.2.2.onWire))) :=
    subperm_filterMap (Duplex.deliveries_subperm (hduplex.mono fun _ _ hC => hC.1)) _
  rw [ofAssoc_map_onWire, hgot] at hdelivered
  exact hlinked.begins.sublist.subperm.trans hdelivered

/-- **Applications are isolated from each other.** When no id is drawn twice and UDP datagrams carry
at most 65535 bytes, in every reachable state of the whole, for any number of applications that come
and go, in either relay mode and in any interleaving:

* what the sockets of an association of the server have emitted is, as a multiset, some of what the
  application of that association has sent, without fragments and as far as it fits the receive
  buffers of the handler;
* what the application got back is some of what has arrived at these sockets, cut off at
  `max_pkt_size` bytes, but for the flow information and the scope of an IPv6 address, which are not
  on the wire; all of it went to where the first datagram of the application came from;
* every datagram that was emitted is of such an application;
* no two applications have associations with the same id. -/
theorem applications_isolated (cfg : Config) (w : Deployment × List Server.Arrival)
    (hr : (recordedSystem cfg).ReachableBy
      (fun w act => act.fitsUdp = true ∧ act.isFresh w.1 = true) w) :
    (∀ h app assocId, w.1.ServedAs h app assocId →
      (ofAssoc assocId w.1.duplex.emitted).Subperm (app.accepted.map fun x => x.2.onWire) ∧
      (app.replied.map Prod.snd).Subperm (ofAssoc assocId (w.2.map (w.1.duplex.expected cfg))) ∧
      ∀ x ∈ app.replied, app.accepted.head?.map Prod.fst = some x.1) ∧
    (∀ x ∈ w.1.duplex.emitted, ∃ h app assocId, w.1.ServedAs h app assocId ∧ x.1 = some assocId) ∧
    ∀ h h' app app' assocId, w.1.ServedAs h app assocId → w.1.ServedAs h' app' assocId →
      h = h' := by
  have hreached : w.1.Reached cfg := System.ReachableBy.of_record
    (C := fun w act => act.fitsUdp = true ∧ DeploymentAction.isFresh w act = true) hr
  have hsubmits := Duplex.submits_of_reachable (duplex_isolated hreached)
  refine ⟨fun h app assocId hs => ?_, fun x hx => ?_, fun h h' app app' assocId hs hs' => ?_⟩
  · rw [← receptions_of_reachable hr, ofAssoc_map_onWire]
    refine ⟨hs.emitted_subperm hreached, hs.replied_subperm hreached, fun x hx => ?_⟩
    obtain ⟨a, hh, -, -⟩ := hs
    have horderly := Applications.orderly_of_reachable (applications_of_reachable hreached) h app hh
    exact horderly.head_of_replied hx
  · -- a datagram that was emitted was submitted, under the id of an association
    have hmem := (Duplex.emitted_subperm (duplex_isolated hreached)).subset hx
    obtain ⟨p, hp, rfl⟩ := List.mem_map.mp hmem
    obtain ⟨snd, hsnd, hp⟩ := List.mem_filterMap.mp hp
    obtain ⟨k, hk⟩ := List.mem_iff_getElem?.mp hsnd
    obtain ⟨h, app, hs⟩ := servedAs_of_mem hreached (hsubmits.packets k snd p hk hp).2
    exact ⟨h, app, p.assocId, hs, rfl⟩
  · exact hs.unique hreached hsubmits.nodup hs'

/-- The application that comes in as handler `h` sends a packet, under the id `assocId`, of which
the handler receives at most two bytes. -/
def sendsFirst (h : Nat) (assocId : UInt32) (payload : Bytes) : List DeploymentAction :=
  [.accept, .handle h .go, .handle h .go, .handle h .go, .serve h assocId, .associate h,
    .handle h (.datagram ⟨⟨⟨0, .socketAddress (.v4 ⟨1, 2, 3, 4⟩ 53), trivial⟩, payload⟩,
      .v4 ⟨127, 0, 0, 1⟩ 4000, 12⟩),
    .handle h (.uplink true), .handle h (.uplink true), .associate h].map .app

/-- The client authenticates itself. -/
def authenticates : List DeploymentAction :=
  [.app (.send 0 .ok), .app (.send 0 .ok), .duplex (.accept (.send 0)),
    .duplex (.uplink 0 (.bytes 34)), .duplex (.uplink 0 .finish), .duplex (.server (.task 0 .ok)),
    .duplex (.server (.task 0 .ok)), .duplex (.server (.task 0 .ok))]

/-- What the server does with two packets of two associations, and one that comes in for the second
of them. -/
def relays : List Server.Action :=
  List.replicate 7 (.task 1 .ok) ++ List.replicate 7 (.task 2 .ok) ++
    [.session 0 .take, .session 0 (.sendTo true), .session 1 .take, .session 1 (.sendTo true),
      .session 1 (.recvFrom [9, 8, 7] (.v4 ⟨1, 2, 3, 4⟩ 53)), .session 1 .handOn,
      .handle .receive, .reply 0 .ok, .reply 0 .ok, .handle .pollAuthenticated]

/-- Two applications send a packet each, of which the first is cut off and the second arrives first,
and the first gets one back. -/
def twoApplications : List DeploymentAction :=
  authenticates ++ sendsFirst 0 7 [1, 1, 1] ++ sendsFirst 1 8 [2] ++
    [.app (.send 1 .ok), .app (.send 2 .ok), .duplex (.accept (.send 2)),
      .duplex (.accept (.send 1))] ++ relays.map (fun a => .duplex (.server a)) ++
    [.duplex (.acceptReply 0), .app (.receive 0), .app (.receive 0), .app (.receive 0),
      .app (.handle 0 (.downlink true)), .app (.handle 0 (.downlink true))]

/-- The first application is there, has sent a packet and got one. -/
def isServed (w : Deployment) : Bool :=
  w.applications.ids = [7, 8] && w.apps[0]?.any fun app =>
    app.request = .served 0 && app.isAttached && app.accepted.length = 1 && app.replied.length = 1

/-- It has the first association. -/
theorem servedAs_of_isServed (h : w.isServed = true) :
    ∃ app, w.ServedAs 0 app 7 ∧ app.isAttached = true ∧ app.accepted.length = 1 ∧
      app.replied.length = 1 := by
  obtain ⟨hids, happ⟩ := Bool.and_eq_true_iff.mp h
  obtain ⟨app, hh, happ⟩ := (Option.any_eq_true _ _).mp happ
  simp only [Bool.and_eq_true, decide_eq_true_eq] at hids happ
  obtain ⟨⟨⟨hreq, hatt⟩, haccepted⟩, hreplied⟩ := happ
  exact ⟨app, ⟨0, hh, hreq, by rw [hids]; rfl⟩, hatt, haccepted, hreplied⟩

/-- The theorem in a run in which two applications send a packet each. -/
theorem applications_isolated_two :
    ∃ w app, (recordedSystem Duplex.small).Reachable w ∧ w.1.ServedAs 0 app 7 ∧
      w.1.duplex.emitted.length = 2 ∧ app.accepted.length = 1 ∧ app.replied.length = 1 ∧
      (ofAssoc 7 w.1.duplex.emitted).Subperm (app.accepted.map fun x => x.2.onWire) ∧
      (app.replied.map Prod.snd).Subperm
        (ofAssoc 7 (w.2.map (w.1.duplex.expected Duplex.small))) := by
  obtain ⟨w, hw, hp⟩ := System.exists_reachableBy_of_runBy (recordedSystem Duplex.small)
    (fun w act => act.fitsUdp && act.isFresh w.1) twoApplications
    (fun w => w.1.isServed && decide (w.1.duplex.emitted.length = 2)) (by decide +kernel)
  obtain ⟨hserved, hlen⟩ := Bool.and_eq_true_iff.mp hp
  obtain ⟨app, hs, -, haccepted, hreplied⟩ := servedAs_of_isServed hserved
  have hisolated := applications_isolated Duplex.small w
    (hw.mono fun _ _ hC => Bool.and_eq_true_iff.mp hC)
  obtain ⟨hemitted, hgot, -⟩ := hisolated.1 0 app 7 hs
  exact ⟨w, app, hw.mono fun _ _ _ => trivial, hs, of_decide_eq_true hlen, haccepted, hreplied,
    hemitted, hgot⟩

/-! ## Nothing is missing -/

/-- At rest: the applications, their requests and the tasks of incoming packets have nothing left to
do, nothing is on its way in either direction, and the connection lasts. -/
structure AtRest (cfg : Config) (w : Deployment) : Prop where
  /-- The handlers and their requests. -/
  applications : w.applications.AtRest
  /-- The way to the targets. -/
  settled : w.duplex.Settled cfg
  /-- The way back. -/
  answered : w.duplex.Answered cfg

/-- **At rest, a handler that relays has nothing in its hands or its channels.** -/
theorem AtRest.idle (hrest : w.AtRest cfg) (hr : (deploymentSystem cfg).ReachableBy C w) {h : Nat}
    {app : Application} {assocId : UInt32} (hs : w.ServedAs h app assocId)
    (hatt : app.isAttached = true) :
    app.relayed = app.accepted.map Prod.snd ∧
      app.replied.map Prod.snd = w.applications.deliveredTo app := by
  obtain ⟨a, hh, hreq, hid⟩ := hs
  have happs := applications_of_reachable hr
  have hchannels := Applications.channelled_of_reachable happs
  obtain ⟨assoc, ha, -⟩ := Option.map_eq_some_iff.mp ((List.getElem?_map ..).symm.trans hid)
  -- the request takes what is in the send channel, unless it has ended, with the handler gone
  have hout : app.outbox = [] := by
    rcases hrest.applications.associate hh hreq ha with ⟨-, hout, -⟩ | hend
    · exact hout
    · exact (hchannels.ending h app hh a assoc hreq ha (Or.inr hend)).2
  have hhands : app.uplinkHand = [] ∧ app.downlinkHand = [] ∧ w.applications.inbox app = [] := by
    rcases Application.stuck_cases (hrest.applications.handle hh) with ⟨isOk, hpc⟩ |
      ⟨up, hpc, hinbox, -, hup⟩
    · rw [Application.isAttached, hpc] at hatt
      cases hatt
    · rcases hup with rfl | rfl | ⟨-, hne⟩
      · exact ⟨by rw [Application.uplinkHand, hpc], by rw [Application.downlinkHand, hpc], hinbox⟩
      · exact ⟨by rw [Application.uplinkHand, hpc], by rw [Application.downlinkHand, hpc], hinbox⟩
      · exact absurd hout hne
  obtain ⟨hup, hdown, hinbox⟩ := hhands
  have hsent := (Applications.orderly_of_reachable happs h app hh).whole hatt fun hdropped => by
    rw [hreq] at hdropped
    cases hdropped
  have hgot := (hchannels.linked h app hh).whole hatt
  rw [hout, hup, List.append_nil, List.append_nil] at hsent
  rw [hdown, hinbox, List.append_nil, List.append_nil] at hgot
  exact ⟨hsent, hgot⟩

end Deployment

end EndToEnd

end Tuic
