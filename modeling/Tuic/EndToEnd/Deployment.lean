import Tuic.Client.Rest
import Tuic.EndToEnd.Answers
import Tuic.EndToEnd.Delivery

/-! # The applications behind a client and a server

The SOCKS5 associations of the applications (`Client.Socks5.Applications`) and the two ends of the
connection they use (`Duplex`), put together. The two share the client: what the applications do to
it is what `Duplex` leaves open about the associations and the receive channels, and what arrives at
its receiving side comes from the server. So every run of the whole is one of either part
(`applications_of_reachable`, `duplex_of_reachable`), and what was proved of the parts holds of the
whole. -/

namespace Tuic

open ByteCodec Transition
open Client.Socks5 (Application Applications ApplicationsAction applicationsSystem Outbound Inbound)

/-! ## The applications -/

namespace Client.Socks5

/-- Nothing comes in from the server with the step. -/
def ApplicationsAction.isLocal : ApplicationsAction → Bool
  | .incoming _ _ | .arrive _ _ => false
  | .accept | .handle _ _ | .serve _ _ | .timeout _ | .associate _ | .heartbeat | .send _ _ | .close
  | .receive _ | .receiveFails _ _ => true

/-- A UDP datagram carries at most 65535 bytes. -/
def HandleStep.fitsUdp : HandleStep → Bool
  | .datagram d => d.packet.payload.length ≤ 65535
  | .go | .fail | .uplink _ | .downlink _ | .recvFails | .closed => true

/-- The same for a step of the applications. -/
def ApplicationsAction.fitsUdp : ApplicationsAction → Bool
  | .handle _ st => st.fitsUdp
  | .accept | .serve _ _ | .timeout _ | .associate _ | .heartbeat | .send _ _ | .close
  | .incoming _ _ | .arrive _ _ | .receive _ | .receiveFails _ _ => true

/-- The random generator does not repeat an id. -/
def ApplicationsAction.isFresh (s : Applications) : ApplicationsAction → Bool
  | .serve _ assocId => assocId ∉ s.ids
  | .accept | .handle _ _ | .timeout _ | .associate _ | .heartbeat | .send _ _ | .close
  | .incoming _ _ | .arrive _ _ | .receive _ | .receiveFails _ _ => true

/-- The packets of an application fit into UDP datagrams. -/
def Application.FitsUdp (app : Application) : Prop := ∀ x ∈ app.accepted, x.2.1.1.length ≤ 65535

section FitsUdp

variable {app app' : Application} {inbox : List Inbound} {hasSender : Bool} {effect : InboxEffect}
  {st : HandleStep}

/-- A step of a handler brings in one packet at most. -/
theorem Application.FitsUdp.step (h : app.FitsUdp) (hst : st.fitsUdp = true)
    (hs : app.Step inbox hasSender st app' effect) : app'.FitsUdp := by
  cases hs with
  | accepts d q up down hbuffer hq hfrag hup =>
    intro x hx
    rw [Application.accepted_of_received app _ hq hfrag] at hx
    rcases List.mem_append.mp hx with hx | hx
    · exact h x hx
    · rw [List.mem_singleton.mp hx]
      exact (UdpPacket.length_le_of_received hq).trans (of_decide_eq_true hst)
  | ignores d buffer down hbuffer hd hpc =>
    intro x hx
    rw [Application.accepted_of_ignored app hd] at hx
    exact h x hx
  | _ => exact h

/-- What a request takes out of the send channel is a packet of the application. -/
theorem Applications.fitsUdp_of_associateStep (h : app.FitsUdp) (ho : app.Orderly)
    {pc : AssociatePc} {step : AssociateStep} (hst : associateStep app pc = some step) :
    step.fitsUdp = true := by
  cases pc with
  | recv =>
    rw [head?_of_associateStep hst]
    cases hout : app.outbox with
    | nil => rfl
    | cons m rest =>
      have hmem : m ∈ app.accepted.map Prod.snd :=
        ho.begins.subset (List.mem_append_right _ (hout ▸ List.mem_cons_self))
      obtain ⟨x, hx, rfl⟩ := List.mem_map.mp hmem
      exact decide_eq_true (h x hx)
  | insert | remove =>
    cases hst
    rfl
  | dissociate => cases hst

end FitsUdp

end Client.Socks5

/-! ## The whole -/

namespace EndToEnd

/-- The step is not one of the associations or of the receiving side, which is left to the
applications. -/
def DuplexAction.isRemote : DuplexAction → Bool
  | .client _ | .receive _ => false
  | .connect _ | .connectStep _ _ | .server _ | .accept _ | .uplink _ _ | .acceptReply _
  | .reply _ _ | .response _ _ => true

/-- The applications of a client, and the two ends of its connection. -/
structure Deployment where
  /-- The two ends. -/
  duplex : Duplex
  /-- The handlers of the SOCKS5 associations. -/
  apps : List Application

/-- A step of the applications, or of the two ends. -/
inductive DeploymentAction where
  /-- Of the applications and the client they use. -/
  | app (a : ApplicationsAction)
  /-- Of anything else. -/
  | duplex (a : DuplexAction)

namespace Deployment

/-- The applications with their client. -/
def applications (w : Deployment) : Applications := ⟨w.duplex.client, w.duplex.receiving, w.apps⟩

/-- The applications and their client go on. -/
def withApplications (w : Deployment) (s : Applications) : Deployment :=
  ⟨{ w.duplex with client := s.conn, receiving := s.receiving }, s.apps⟩

/-- One step of the applications, or of the two ends. -/
def step (cfg : Config) (w : Deployment) : DeploymentAction → Option Deployment
  | .app a => if a.isLocal then (w.applications.step a).map w.withApplications else none
  | .duplex a =>
    if a.isRemote then (w.duplex.step cfg a).map fun d => { w with duplex := d } else none

end Deployment

/-- The applications of a client and the two ends of its connection, in any interleaving. -/
def deploymentSystem (cfg : Config) : System Deployment DeploymentAction :=
  ⟨⟨.new cfg, []⟩, Deployment.step cfg⟩

/-! ## What a run is like -/

namespace DeploymentAction

/-- The datagrams that arrive at the sockets of the server in a step, as they were sent. -/
def arrivals : DeploymentAction → List Server.Arrival
  | .app _ => []
  | .duplex a => a.arrivals

/-- UDP datagrams carry at most 65535 bytes, those of the applications too. -/
def fitsUdp : DeploymentAction → Bool
  | .app a => a.fitsUdp
  | .duplex a => a.fitsUdp

/-- The random generator does not repeat an id. -/
def isFresh (w : Deployment) : DeploymentAction → Bool
  | .app a => a.isFresh w.applications
  | .duplex _ => true

/-- No operation on a socket of the server fails. -/
def isSmooth (w : Deployment) : DeploymentAction → Bool
  | .app _ => true
  | .duplex a => a.isSmooth w.duplex

/-- Nothing that came in on a socket of the server is given up on its way to the receive channel of
its association. -/
def keepsReceived (w : Deployment) : DeploymentAction → Bool
  | .app (.receive j) => w.duplex.receiving.keepsReceived w.duplex.client.udpSessions (.task j)
  | .app _ => true
  | .duplex a => a.keepsReceived w.duplex

end DeploymentAction

/-- The whole, with the datagrams that have arrived at the sockets of the server. -/
abbrev recordedSystem (cfg : Config) : System (Deployment × List Server.Arrival) DeploymentAction :=
  (deploymentSystem cfg).record DeploymentAction.arrivals

namespace Deployment

variable {cfg : Config} {w w' : Deployment} {C : Deployment → DeploymentAction → Prop}

/-- A step is one of the applications and their client, or one of the rest. -/
theorem step_cases {act : DeploymentAction} (h : (deploymentSystem cfg).step w act = some w') :
    (∃ a s, act = .app a ∧ a.isLocal = true ∧
        (applicationsSystem cfg.mode cfg.tokenDigest).step w.applications a = some s ∧
        w' = w.withApplications s) ∨
      ∃ a d, act = .duplex a ∧ a.isRemote = true ∧ (duplexSystem cfg).step w.duplex a = some d ∧
        w' = { w with duplex := d } := by
  have h : w.step cfg act = some w' := h
  cases act with
  | app a =>
    simp only [step] at h
    split at h
    · rename_i hlocal
      obtain ⟨s, hs, rfl⟩ := Option.map_eq_some_iff.mp h
      exact Or.inl ⟨a, s, rfl, hlocal, hs, rfl⟩
    · cases h
  | duplex a =>
    simp only [step] at h
    split at h
    · rename_i hremote
      obtain ⟨d, hd, rfl⟩ := Option.map_eq_some_iff.mp h
      exact Or.inr ⟨a, d, rfl, hremote, hd, rfl⟩
    · cases h

/-- What the rest does to the client: nothing, or a reply arrives at its receiving side. -/
theorem applications_of_remote {a : DuplexAction} {d : Duplex} (hremote : a.isRemote = true)
    (hs : (duplexSystem cfg).step w.duplex a = some d) :
    ({ w with duplex := d } : Deployment).applications = w.applications ∨
      ∃ b, w.applications.step b = some ({ w with duplex := d } : Deployment).applications := by
  cases Duplex.step_cases hs with
  | client b c hstep => cases hremote
  | receive b r hstep => cases hremote
  | connect addr canonical => exact Or.inl rfl
  | connectStep j b c c' hj hstep hrecv => exact Or.inl rfl
  | server b e hown hstep => exact Or.inl rfl
  | accept o out t ho hsent hnew hfresh hsrc hdata hstep => exact Or.inl rfl
  | uplink i d o out t ev recv hi ho ht hev hon hstep => exact Or.inl rfl
  | response i d j c ended ev recv hi hj hev hon => exact Or.inl rfl
  | acceptReply k hk hnew =>
    -- a reply is at its beginning when it comes in, in either relay mode
    cases hmode : w.duplex.client.udpRelayMode with
    | native =>
      refine Or.inr ⟨.incoming .datagram ⟨w.duplex.replyBytes k, 0, .finished⟩, ?_⟩
      simp [applications, Applications.step, Duplex.incoming]
    | quic =>
      refine Or.inr ⟨.incoming .uniStream ⟨[], 0, .receiving⟩, ?_⟩
      simp [applications, Applications.step, Duplex.incoming]
  | reply j d k t ended ev recv hj hk hended hev hon =>
    refine Or.inr ⟨.arrive j ev, ?_⟩
    simp [applications, Applications.step, hj, hon, Duplex.setIncoming]

/-- **The applications and their client** go through runs of `applicationsSystem`. -/
theorem applications_of_reachable (h : (deploymentSystem cfg).ReachableBy C w) :
    (applicationsSystem cfg.mode cfg.tokenDigest).Reachable w.applications := by
  refine h.map Deployment.applications rfl ?_
  intro w act w' _ _ hs
  rcases step_cases hs with ⟨a, s, rfl, -, hstep, rfl⟩ | ⟨a, d, rfl, hremote, hstep, rfl⟩
  · exact Or.inr ⟨a, trivial, hstep⟩
  · rcases applications_of_remote hremote hstep with heq | ⟨b, hb⟩
    · exact Or.inl heq
    · exact Or.inr ⟨b, trivial, hb⟩

/-- **What came in on the sockets is what arrived there**, up to the size of the buffer: the
applications have nothing to do with it. -/
theorem receptions_of_reachable {D : Deployment × List Server.Arrival → DeploymentAction → Prop}
    {x : Deployment × List Server.Arrival} (h : (recordedSystem cfg).ReachableBy D x) :
    (x.1.duplex.receptions.map fun y => (y.1, y.2.1, y.2.2.onWire)) =
      x.2.map (x.1.duplex.expected cfg) := by
  refine Duplex.receptions_eq (h.invariant (I := fun x =>
    x.1.duplex.server.conn.udpSessions.receivedBy =
      x.2.map (Server.Arrival.cut cfg.server.maxPktSize)) rfl ?_)
  intro x act x' _ ih _ hstep
  obtain ⟨hs, hrec⟩ := System.record_step hstep
  rcases step_cases hs with ⟨a, s, rfl, -, -, heq⟩ | ⟨a, d, rfl, -, hd, heq⟩
  · rw [heq, hrec]
    exact ih.trans (congrArg (List.map _) (List.append_nil _).symm)
  · rw [heq, hrec, List.map_append, ← ih]
    exact (Duplex.step_cases hd).receivedBy_eq

/-- The packets of the applications fit into UDP datagrams. -/
theorem fits_of_reachable
    (h : (deploymentSystem cfg).ReachableBy (fun _ act => act.fitsUdp = true) w) :
    All (fun _ app => app.FitsUdp) w.apps := by
  refine h.invariant (I := fun w => All (fun _ app => app.FitsUdp) w.apps) All.nil ?_
  intro w act w' _ ih hfits hs
  rcases step_cases hs with ⟨a, s, rfl, -, hstep, rfl⟩ | ⟨a, d, rfl, -, hstep, rfl⟩
  · -- only the handlers get packets
    have hset : ∀ {h : Nat} {app app' : Application}, w.apps[h]? = some app →
        app'.accepted = app.accepted → All (fun _ app => app.FitsUdp) (w.apps.set h app') := by
      intro h app app' hh heq
      refine ih.set (fun x hx => ih h app hh x ?_) fun _ _ _ _ hold => hold
      rw [← heq]
      exact hx
    cases Applications.step_cases hstep with
    | accept => exact ih.spawn (fun x hx => by cases hx) fun _ _ _ hold => hold
    | handle h st app app' effect r hh happ hr =>
      exact ih.set ((ih h app hh).step hfits (Application.step_cases happ)) fun _ _ _ _ hold => hold
    | serve h assocId app hh hreq => exact hset hh rfl
    | timeout h app hh hreq => exact hset hh rfl
    | associate h app a assoc st c hh hreq ha hst hc =>
      refine hset hh ?_
      split <;> rfl
    | _ => exact ih
  · exact ih

/-- **The two ends** go through runs of `duplexSystem`, with conditions on them that the
applications have nothing to do with but by the tasks of incoming packets. -/
theorem duplex_of_reachable {P : Deployment → DeploymentAction → Prop}
    {Q : Duplex → DuplexAction → Prop} (hclient : ∀ d b, Q d (.client b))
    (hreceive : ∀ d b, (∀ j, b ≠ .task j) → Q d (.receive b))
    (htask : ∀ w j, P w (.app (.receive j)) → Q w.duplex (.receive (.task j)))
    (hremote : ∀ w a, P w (.duplex a) → Q w.duplex a)
    (h : (deploymentSystem cfg).ReachableBy
      (fun w act => act.fitsUdp = true ∧ act.isFresh w = true ∧ P w act) w) :
    (duplexSystem cfg).ReachableBy
      (fun d a => a.fitsUdp = true ∧ a.isFresh d = true ∧ Q d a) w.duplex := by
  let Reached := (duplexSystem cfg).ReachableBy
    (fun d a => a.fitsUdp = true ∧ a.isFresh d = true ∧ Q d a)
  refine h.invariant (I := fun w => Reached w.duplex) .init ?_
  intro w act w' hr ih hC hs
  -- a step of the sending side, and one of the receiving side
  have hsends : ∀ {d : Duplex} {b : Client.Action} {c : Client.Connection}, Reached d →
      d.client.step b = some c → b.fitsUdp = true → b.isFresh d.client = true →
        Reached { d with client := c } := by
    intro d b c hd hc hfits hfresh
    have hstep : (duplexSystem cfg).step d (.client b) = some { d with client := c } := by
      change (d.client.step b).map _ = _
      rw [hc]
      rfl
    exact .step (a := .client b) hd ⟨hfits, hfresh, hclient d b⟩ hstep
  have hreceives : ∀ {d : Duplex} {b : Client.ReceiveAction} {r : Client.Receiving}, Reached d →
      d.receiving.step d.client.udpSessions b = some r → Q d (.receive b) →
        Reached { d with receiving := r } := by
    intro d b r hd hr hQ
    have hstep : (duplexSystem cfg).step d (.receive b) = some { d with receiving := r } := by
      change (d.receiving.step d.client.udpSessions b).map _ = _
      rw [hr]
      rfl
    exact .step hd ⟨rfl, rfl, hQ⟩ hstep
  rcases step_cases hs with ⟨a, s, rfl, hlocal, hstep, rfl⟩ | ⟨a, d, rfl, hrem, hstep, rfl⟩
  · cases Applications.step_cases hstep with
    | accept => exact ih
    | handle h st app app' effect r hh hstep hr =>
      rcases Applications.onInbox_cases hr with ⟨rfl, -⟩ | ⟨a, -, ⟨-, htake⟩ | ⟨-, hhang⟩⟩
      · exact ih
      · exact hreceives ih htake (hreceive _ _ fun j heq => by cases heq)
      · exact hreceives ih hhang (hreceive _ _ fun j heq => by cases heq)
    | serve h assocId app hh hreq =>
      have hserved := hsends (b := .request assocId) ih rfl rfl hC.2.1
      by_cases hatt : app.isAttached = true
      · rw [if_pos hatt]
        exact hserved
      · rw [if_neg hatt]
        exact hreceives (b := .hangUp w.duplex.client.assocs.length) hserved rfl
          (hreceive _ _ fun j heq => by cases heq)
    | timeout h app hh hreq => exact ih
    | associate h app a assoc st c hh hreq ha hst hc =>
      have hsmall := fits_of_reachable (hr.mono fun _ _ hC => hC.1) h app hh
      have horderly := Applications.orderly_of_reachable (applications_of_reachable hr) h app hh
      exact hsends ih hc (Applications.fitsUdp_of_associateStep hsmall horderly hst) rfl
    | client a b c hb hc =>
      rcases Applications.client_cases hb with rfl | ⟨k, outcome, rfl⟩ | rfl <;>
        exact hsends ih hc rfl rfl
    | incoming channel recv => cases hlocal
    | arrive j ev t recv hj hon => cases hlocal
    | receive a b r hb hr =>
      rcases hb with ⟨j, rfl, rfl⟩ | ⟨j, err, rfl, rfl⟩
      · exact hreceives ih hr (htask w j hC.2.2)
      · exact hreceives ih hr (hreceive _ _ fun j heq => by cases heq)
  · have hfresh : a.isFresh w.duplex = true := by
      cases a with
      | client b => cases hrem
      | _ => rfl
    exact .step ih ⟨hC.1, hfresh, hremote w a hC.2.2⟩ hstep

end Deployment

end EndToEnd

end Tuic
