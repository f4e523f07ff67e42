import Tuic.EndToEnd.Feed

/-! # A connection that loses datagrams

QUIC may lose a datagram. For the two ends of a connection this makes no difference: it is a
datagram that does not arrive. Where it matters whether a datagram may still arrive, a `Link` also
has the datagrams that were lost. `duplex_of_reachable` says that it goes through runs of
`duplexSystem`, and `Step` which of the steps there are about what is on its way to the server. -/

namespace Tuic.EndToEnd

open ByteCodec Transition

/-- The two ends of a QUIC connection, and the datagrams that were lost. -/
structure Link extends Duplex where
  /-- The sending tasks whose datagram was lost. -/
  lost : List Nat

/-- A step of a link. -/
inductive Action where
  /-- Of the two ends or of QUIC. -/
  | duplex (a : DuplexAction)
  /-- The datagram of a sending task is lost. -/
  | lose (k : Nat)

namespace Link

/-- A datagram arrives that was lost. -/
def revives (s : Link) : DuplexAction → Bool
  | .accept (.send k) => k ∈ s.lost
  | _ => false

/-- One step of a link. -/
def step (cfg : Config) (s : Link) : Action → Option Link
  | .duplex a =>
    if s.revives a then none else (s.toDuplex.step cfg a).map fun d => { s with toDuplex := d }
  | .lose k =>
    match s.client.sends[k]? with
    | none => none
    | some snd =>
      if snd.frame.channel = .datagram ∧ snd.sent ≠ [] ∧ .send k ∉ s.origin then
        some { s with lost := k :: s.lost }
      else none

end Link

/-- A client and a server connection, in both directions, with the datagrams that are lost. -/
def linkSystem (cfg : Config) : System Link Action := ⟨⟨.new cfg, []⟩, Link.step cfg⟩

namespace Link

/-- The steps of a link, as far as they are about what is on its way to the server. -/
inductive Step (cfg : Config) (s : Link) : Action → Link → Prop where
  /-- The client makes a step. -/
  | client (b : Client.Action) (c : Client.Connection) (hstep : s.client.Step b c) :
      Step cfg s (.duplex (.client b)) { s with client := c }
  /-- The server makes a step of its own. -/
  | server (b : Server.Action) (e : Server.Established) (hown : Duplex.onItsOwn b = true)
      (hstep : (Server.connectionSystem cfg.server).step s.server b = some e) :
      Step cfg s (.duplex (.server b)) { s with toDuplex := s.withServer b e }
  /-- A stream or datagram of the client arrives. -/
  | accept (o : Origin) (out : Outgoing) (t : Server.Task) (ho : s.outgoing o = some out)
      (hsent : out.sent ≠ []) (hnew : o ∉ s.origin) (hlost : ∀ k, o = .send k → k ∉ s.lost)
      (hpc : t.pc = .read) :
      Step cfg s (.duplex (.accept o)) { s with
        toDuplex := { s.withServer (.handle (Duplex.arrival out)) (s.server.spawn t) with
          origin := s.origin ++ [o] } }
  /-- Something arrives on the stream of a handler. -/
  | uplink (i : Nat) (d : Delivery) (t : Server.Task) (ev : Server.StreamEvent)
      (recv : Server.RecvStream) (hi : s.server.tasks[i]? = some t) :
      Step cfg s (.duplex (.uplink i d)) { s with
        toDuplex := s.withServer (.stream i ev)
          { s.server with tasks := s.server.tasks.set i { t with recv := recv } } }
  /-- What is on its way to the server stays there. -/
  | other (a : DuplexAction) (connects : List Client.Connect) (receiving : Client.Receiving)
      (replyOf : List Nat) :
      Step cfg s (.duplex a) { s with
        connects := connects
        receiving := receiving
        replyOf := replyOf }
  /-- A datagram is lost. -/
  | lose (k : Nat) (snd : Client.Send) (hk : s.client.sends[k]? = some snd)
      (hch : snd.frame.channel = .datagram) : Step cfg s (.lose k) { s with lost := k :: s.lost }

variable {cfg : Config} {s s' : Link} {a : Action}

/-- A step of the two ends or of QUIC, in a link. -/
theorem duplex_step {b : DuplexAction} (h : (linkSystem cfg).step s (.duplex b) = some s') :
    s.revives b = false ∧
      ∃ d, (duplexSystem cfg).step s.toDuplex b = some d ∧ s' = { s with toDuplex := d } := by
  have h : s.step cfg (.duplex b) = some s' := h
  simp only [step] at h
  split at h
  · cases h
  · rename_i hrevives
    obtain ⟨d, hstep, rfl⟩ := Option.map_eq_some_iff.mp h
    exact ⟨by simpa using hrevives, d, hstep, rfl⟩

/-- Every step of a link is one of these. -/
theorem step_cases (h : (linkSystem cfg).step s a = some s') : Step cfg s a s' := by
  cases a with
  | duplex b =>
    obtain ⟨hrevives, d, hduplex, rfl⟩ := duplex_step h
    cases Duplex.step_cases hduplex with
    | client b c hstep => exact .client b c hstep
    | server b e hown hstep => exact .server b e hown hstep
    | accept o out t ho hsent hnew hfresh hsrc hdata hstep =>
      refine .accept o out t ho hsent hnew (fun k hk => ?_) hfresh.1
      subst hk
      exact of_decide_eq_false hrevives
    | uplink i d o out t ev recv hi ho ht hev hon hstep => exact .uplink i d t ev recv ht
    | connect addr canonical => exact .other _ _ _ _
    | connectStep j b c c' hj hstep hrecv => exact .other _ _ _ _
    | receive b r hstep => exact .other _ _ _ _
    | acceptReply k hk hnew => exact .other _ _ _ _
    | reply j d k t ended ev recv hj hk hended hev hon => exact .other _ _ _ _
    | response i d j c ended ev recv hi hj hev hon => exact .other _ _ _ _
  | lose k =>
    have h : s.step cfg (.lose k) = some s' := h
    simp only [step] at h
    split at h
    · cases h
    rename_i snd hk
    split at h
    · rename_i hguard
      cases h
      exact .lose k snd hk hguard.1
    · cases h

/-- **The two ends of a link** go through runs of `duplexSystem`. -/
theorem duplex_of_reachable {C : Link → Action → Prop} (h : (linkSystem cfg).ReachableBy C s) :
    (duplexSystem cfg).Reachable s.toDuplex := by
  refine h.map Link.toDuplex rfl fun s a s' _ _ hs => ?_
  cases a with
  | duplex b =>
    obtain ⟨-, d, hstep, rfl⟩ := duplex_step hs
    exact Or.inr ⟨b, trivial, hstep⟩
  | lose k =>
    cases step_cases hs with
    | lose _ snd hk hch => exact Or.inl rfl

/-- Its server goes through runs of `connectionSystem`. -/
theorem server_reachable {C : Link → Action → Prop} (h : (linkSystem cfg).ReachableBy C s) :
    (Server.connectionSystem cfg.server).Reachable s.server :=
  Duplex.server_reachable (duplex_of_reachable h)

/-- Only datagrams are lost. -/
theorem lost_of_reachable {C : Link → Action → Prop} (h : (linkSystem cfg).ReachableBy C s) :
    ∀ k ∈ s.lost, ∃ snd, s.client.sends[k]? = some snd ∧ snd.frame.channel = .datagram := by
  refine h.invariant (I := fun s : Link => ∀ k ∈ s.lost,
    ∃ snd, s.client.sends[k]? = some snd ∧ snd.frame.channel = .datagram)
    (fun k hk => by cases hk) ?_
  intro s a s' hr ih _ hs
  have hf := Duplex.fed_of_reachable (duplex_of_reachable hr)
  cases step_cases hs with
  | client b c hstep =>
    intro k hk
    obtain ⟨snd, hsnd, hch⟩ := ih k hk
    obtain ⟨snd', hk', hframe⟩ := hf.frame_keep hstep hsnd
    exact ⟨snd', hk', hframe ▸ hch⟩
  | lose k snd hk hch =>
    intro k' hk'
    rcases List.mem_cons.mp hk' with rfl | hk'
    · exact ⟨snd, hk, hch⟩
    · exact ih k' hk'
  | server b e hown hstep => exact ih
  | accept o out t ho hsent hnew hlost hpc => exact ih
  | uplink i d t ev recv hi => exact ih
  | other b connects receiving replyOf => exact ih

end Link

end Tuic.EndToEnd
