import Tuic.Client.Applications

/-! # The buffers of the applications

`Application` receives into a buffer of any size; `Handler` says how the size is computed, and knows
nothing of the channels. Here the two are put together. `Mirrors` says when they are at the same
place of `associate.rs`, have got hold of the same packets, and received them into buffers of the
same sizes; the buffers follow every step of a handler (`Mirrors.step`). So a run of the
applications, seen from the buffers, is a run of `associatesSystem` in which no size underflows
(`mirrored_of_reachable`), and every size is one that was computed from the limit. -/

namespace Tuic.Client.Socks5

open ByteCodec Transition

/-! ## A handler and its buffers -/

/-- One handler, as long as the limit stays as it is. -/
def handlerSystem (limit : Nat) : System Handler HandlerStep := ⟨.new, Handler.step limit⟩

/-- The head of the first or of the second loop. -/
def HandlerPc.head (isFirst : Bool) : HandlerPc := if isFirst then .firstSize else .nextSize

/-- In the call of the first or of the second loop. -/
def HandlerPc.call (isFirst : Bool) (size : Nat) : HandlerPc :=
  if isFirst then .recvFrom size else .recv size

/-- Where the buffers stand when the handler does at a place, and is in a call with a buffer. The
loops are at their heads until a datagram has been dropped in the call. -/
def HandlePc.Buffered (buffer : Option Nat) (at' : HandlerPc) : HandlePc → Prop
  | .bind => buffer = none ∧ at' = .bind
  | .request | .reply => buffer = none ∧ at' = .reply
  | .relaying .recvFrom _ => at' = buffer.elim (.head true) (.call true)
  | .relaying (.sendFirst m _) _ => buffer = none ∧ ∃ p, p.outbound = m ∧ at' = .send true p
  | .relaying (.connect _) _ => buffer = none ∧ at' = .connect
  | .relaying .recv _ => at' = buffer.elim (.head false) (.call false)
  | .relaying (.send m) _ => buffer = none ∧ ∃ p, p.outbound = m ∧ at' = .send false p
  | .refuse | .shutdown _ | .returned _ => at' = .returned

/-- The buffers of a handler that is not past its loops can go on. -/
theorem HandlePc.Buffered.goes_on {buffer : Option Nat} {at' : HandlerPc} {pc : HandlePc}
    (h : pc.Buffered buffer at')
    (hpc : pc = .bind ∨ pc = .reply ∨ ∃ up down, pc = .relaying up down) :
    at' ≠ .returned ∧ at' ≠ .underflowed := by
  rcases hpc with rfl | rfl | ⟨up, down, rfl⟩
  · simp [h.2]
  · simp [h.2]
  · cases up with
    | recvFrom => cases buffer <;> simp [show at' = _ from h, HandlerPc.head, HandlerPc.call]
    | sendFirst m src =>
      obtain ⟨-, p, -, rfl⟩ := h
      simp
    | connect src => simp [h.2]
    | recv => cases buffer <;> simp [show at' = _ from h, HandlerPc.head, HandlerPc.call]
    | send m =>
      obtain ⟨-, p, -, rfl⟩ := h
      simp

namespace Application

/-- **A handler and its buffers.** -/
structure Mirrors (app : Application) (h : Handler) : Prop where
  /-- They are at the same place. -/
  stands : app.pc.Buffered app.buffer h.pc
  /-- What was accepted is what was handed over and what is in hand; at the end a packet may have
  been dropped with the channel. -/
  handed : ∃ rest, app.accepted.map Prod.snd =
    h.handed.reverse.map UdpPacket.outbound ++ (app.uplinkHand ++ rest) ∧
      (h.pc ≠ .returned → rest = [])
  /-- Every datagram was received into a buffer that was sized by a limit. -/
  sizes : ∀ d ∈ app.arrived, ∃ limit ∈ h.loads, bufSize limit = some d.size

namespace Mirrors

variable {app app' : Application} {h : Handler} {pc : HandlerPc} {loads : List Nat}

/-- A new handler. -/
theorem new : Application.new.Mirrors .new :=
  ⟨⟨rfl, rfl⟩, ⟨[], rfl, fun _ => rfl⟩, fun _ hd => by cases hd⟩

/-- The handler goes on, and its buffers with it, without a packet. -/
theorem moves (hm : app.Mirrors h) (hstands : app'.pc.Buffered app'.buffer pc)
    (harrived : app'.arrived = app.arrived) (hhand : app'.uplinkHand = app.uplinkHand)
    (hpc : h.pc = .returned → pc = .returned) (hloads : ∀ v ∈ h.loads, v ∈ loads) :
    app'.Mirrors ⟨pc, loads, h.handed⟩ := by
  obtain ⟨rest, haccepted, hrest⟩ := hm.handed
  refine ⟨hstands, ⟨rest, ?_, fun hne => hrest fun hret => hne (hpc hret)⟩, fun d hd => ?_⟩
  · rw [accepted, harrived, hhand]
    exact haccepted
  · rw [harrived] at hd
    obtain ⟨limit, hlimit, hsize⟩ := hm.sizes d hd
    exact ⟨limit, hloads limit hlimit, hsize⟩

/-- The handler ends, and what it has in hand is dropped. -/
theorem ends (hm : app.Mirrors h) (hstands : app'.pc.Buffered app'.buffer .returned)
    (harrived : app'.arrived = app.arrived) (hhand : app'.uplinkHand = []) :
    app'.Mirrors { h with pc := .returned } := by
  obtain ⟨rest, haccepted, -⟩ := hm.handed
  refine ⟨hstands, ⟨app.uplinkHand ++ rest, ?_, fun hne => absurd rfl hne⟩, ?_⟩
  · rw [accepted, harrived, hhand]
    exact haccepted
  · rw [harrived]
    exact hm.sizes

/-- The packet in hand is put into the channel. -/
theorem hands (hm : app.Mirrors h) (hpc : h.pc ≠ .returned)
    (hstands : app'.pc.Buffered app'.buffer pc) (harrived : app'.arrived = app.arrived)
    {p : UdpPacket} (hhand : app.uplinkHand = [p.outbound]) (hhand' : app'.uplinkHand = []) :
    app'.Mirrors ⟨pc, h.loads, p :: h.handed⟩ := by
  obtain ⟨rest, haccepted, hrest⟩ := hm.handed
  obtain rfl := hrest hpc
  refine ⟨hstands, ⟨[], ?_, fun _ => rfl⟩, by rw [harrived]; exact hm.sizes⟩
  rw [accepted, harrived, hhand']
  show app.accepted.map Prod.snd = _
  rw [haccepted, hhand, List.reverse_cons, List.map_append, List.append_assoc]
  rfl

/-- A datagram has arrived in a buffer of a computed size, and is accepted or ignored. -/
theorem arrives (hm : app.Mirrors h) (hpc : h.pc ≠ .returned) (hout : app.uplinkHand = [])
    {d : Datagram} (hstands : app'.pc.Buffered app'.buffer pc)
    (harrived : app'.arrived = app.arrived ++ [d])
    (hhand : app'.uplinkHand = d.accept?.toList.map Prod.snd)
    (hloads : ∀ v ∈ h.loads, v ∈ loads) (hsize : ∃ limit ∈ loads, bufSize limit = some d.size) :
    app'.Mirrors ⟨pc, loads, h.handed⟩ := by
  obtain ⟨rest, haccepted, hrest⟩ := hm.handed
  obtain rfl := hrest hpc
  refine ⟨hstands, ⟨[], ?_, fun _ => rfl⟩, fun d' hd' => ?_⟩
  · rw [accepted_of_arrived harrived, List.map_append, haccepted, hout, hhand]
    simp
  · rw [harrived, List.mem_append, List.mem_singleton] at hd'
    rcases hd' with hd' | rfl
    · obtain ⟨limit, hlimit, hsize'⟩ := hm.sizes d' hd'
      exact ⟨limit, hloads limit hlimit, hsize'⟩
    · exact hsize

end Mirrors

/-! ## One step -/

/-- The buffers follow: with some limit from which a size can be computed, they get to where the
handler is. -/
def Followed (app : Application) (h : Handler) : Prop :=
  ∃ limit sts h', headerSlack ≤ limit ∧ (handlerSystem limit).run h sts = some h' ∧
    app.Mirrors h'

section Followed

variable {app app' : Application} {h h' : Handler}

/-- They need not do anything. -/
theorem Mirrors.followed (hm : app.Mirrors h) : app.Followed h :=
  ⟨headerSlack, [], h, Nat.le_refl _, rfl, hm⟩

/-- They make one step. -/
theorem Mirrors.followed_step (hm : app.Mirrors h') (st : HandlerStep)
    (hstep : h.step headerSlack st = some h') : app.Followed h :=
  ⟨headerSlack, [st], h', Nat.le_refl _, System.run_singleton hstep, hm⟩

/-- The handler ends. -/
theorem Mirrors.followed_ends (hm : app.Mirrors h)
    (hpc : app.pc = .bind ∨ app.pc = .reply ∨ ∃ up down, app.pc = .relaying up down)
    (hstands : app'.pc.Buffered app'.buffer .returned) (harrived : app'.arrived = app.arrived)
    (hhand : app'.uplinkHand = []) : app'.Followed h := by
  refine (hm.ends hstands harrived hhand).followed_step .ends ?_
  obtain ⟨hret, hunder⟩ := hm.stands.goes_on hpc
  unfold Handler.step
  split
  · exact absurd ‹_› hret
  · exact absurd ‹_› hunder
  · rfl
  all_goals contradiction

/-- The handler goes on, before and after its loops. -/
theorem Mirrors.followed_goes (hm : app.Mirrors h) {pc : HandlePc}
    (hpc : app.pc = .bind ∧ (pc = .request ∨ pc = .refuse) ∨
      app.pc = .reply ∧ pc = .relaying .recvFrom .recv ∨
      (app.pc = .refuse ∨ ∃ isOk, app.pc = .shutdown isOk) ∧ ∃ isOk, pc = .returned isOk) :
    (app.goto pc).Followed h := by
  have hstands := hm.stands
  rcases hpc with ⟨hpc, rfl | rfl⟩ | ⟨hpc, rfl⟩ | ⟨hpc, isOk, rfl⟩
  · rw [hpc] at hstands
    obtain ⟨hbuffer, hat⟩ := hstands
    have hm' : (app.goto .request).Mirrors { h with pc := .reply } :=
      hm.moves ⟨hbuffer, rfl⟩ rfl (by simp [uplinkHand, goto, hpc])
        (fun hret => by rw [hat] at hret; cases hret) fun _ => id
    exact hm'.followed_step .go (by simp [Handler.step, hat])
  · exact hm.followed_ends (Or.inl hpc) rfl rfl rfl
  · rw [hpc] at hstands
    obtain ⟨hbuffer, hat⟩ := hstands
    -- the size that the socket is made with is computed before that of the first loop
    have hm' : (app.goto (.relaying .recvFrom .recv)).Mirrors
        ⟨.firstSize, headerSlack :: h.loads, h.handed⟩ :=
      hm.moves (by simp [HandlePc.Buffered, HandlerPc.head, goto, hbuffer]) rfl
        (by simp [uplinkHand, goto, hpc])
        (fun hret => by rw [hat] at hret; cases hret) fun _ => List.mem_cons_of_mem _
    refine ⟨headerSlack, [.go, .go], _, Nat.le_refl _, ?_, hm'⟩
    simp [System.run, handlerSystem, Handler.step, hat, Handler.compute, bufSize]
  · have hat : h.pc = .returned := by
      rcases hpc with hpc | ⟨_, hpc⟩ <;> rw [hpc] at hstands <;> exact hstands
    have hhand : app.uplinkHand = [] := by
      rcases hpc with hpc | ⟨_, hpc⟩ <;> rw [uplinkHand, hpc]
    have hm' : (app.goto (.returned isOk)).Mirrors h :=
      hm.moves hat rfl hhand.symm id fun _ => id
    exact hm'.followed

/-- The packet in hand is put into the channel, or dropped there. -/
theorem Mirrors.followed_hands (hm : app.Mirrors h) {m : Outbound} {up : UplinkPc}
    {down : DownlinkPc}
    (hup : (∃ src, app.pc = .relaying (.sendFirst m src) down ∧ up = .connect src) ∨
      app.pc = .relaying (.send m) down ∧ up = .recv)
    (hpc : app'.pc = .relaying up down) (hbuffer : app'.buffer = app.buffer)
    (harrived : app'.arrived = app.arrived) : app'.Followed h := by
  have hstands := hm.stands
  obtain ⟨src, hpc₀, rfl⟩ | ⟨hpc₀, rfl⟩ := hup
  · rw [hpc₀] at hstands
    obtain ⟨hnone, p, rfl, hat⟩ := hstands
    have hm' : app'.Mirrors ⟨.connect, h.loads, p :: h.handed⟩ :=
      hm.hands (by simp [hat]) (by rw [hpc, hbuffer]; exact ⟨hnone, rfl⟩) harrived
        (by rw [uplinkHand, hpc₀]) (by rw [uplinkHand, hpc])
    exact hm'.followed_step .go (by simp [Handler.step, hat])
  · rw [hpc₀] at hstands
    obtain ⟨hnone, p, rfl, hat⟩ := hstands
    have hm' : app'.Mirrors ⟨.nextSize, h.loads, p :: h.handed⟩ :=
      hm.hands (by simp [hat]) (by rw [hpc, hbuffer, hnone]; rfl) harrived
        (by rw [uplinkHand, hpc₀]) (by rw [uplinkHand, hpc])
    exact hm'.followed_step .go (by simp [Handler.step, hat])

/-- At the head of a loop the size of a buffer is computed; a call that goes on has one. -/
theorem exists_in_call {size : Nat} {isFirst : Bool} (hsized : h.Sized)
    (hpc : h.pc = .head isFirst ∨ h.pc = .call isFirst size) :
    ∃ sts loads,
      (handlerSystem (size + 5)).run h sts = some ⟨.call isFirst size, loads, h.handed⟩ ∧
      (∀ v ∈ h.loads, v ∈ loads) ∧ ∃ limit ∈ loads, bufSize limit = some size := by
  have hsize : bufSize (size + 5) = some size := bufSize_eq_some.mpr rfl
  obtain ⟨pc, loads, handed⟩ := h
  rcases hpc with rfl | rfl
  · refine ⟨[.go], (size + 5) :: loads, System.run_singleton ?_, fun _ => List.mem_cons_of_mem _,
      ⟨_, List.mem_cons_self, hsize⟩⟩
    cases isFirst <;>
      simp [handlerSystem, Handler.step, Handler.compute, HandlerPc.head, HandlerPc.call, hsize]
  · refine ⟨[], loads, rfl, fun _ => id, hsized.buffer size ?_⟩
    cases isFirst <;> simp [HandlerPc.call]

/-- A datagram that gets to the handler in a loop gets to the buffers. -/
theorem Mirrors.followed_datagram (hm : app.Mirrors h) (hsized : h.Sized) {d : Datagram}
    {down : DownlinkPc} (isFirst : Bool)
    (hpc : app.pc = .relaying (if isFirst then .recvFrom else .recv) down)
    (hbuffer : ∀ size, app.buffer = some size → size = d.size) {next : HandlerPc}
    (hreceive : ∀ loads : List Nat,
      Handler.receive ⟨.call isFirst d.size, loads, h.handed⟩ d.size isFirst (.head isFirst)
        d.packet = ⟨next, loads, h.handed⟩)
    (hstands : app'.pc.Buffered app'.buffer next) (harrived : app'.arrived = app.arrived ++ [d])
    (hhand : app'.uplinkHand = d.accept?.toList.map Prod.snd) : app'.Followed h := by
  have hret := (hm.stands.goes_on (Or.inr (Or.inr ⟨_, _, hpc⟩))).1
  have hout : app.uplinkHand = [] := by cases isFirst <;> simp [uplinkHand, hpc]
  have hat : h.pc = app.buffer.elim (.head isFirst) (.call isFirst) := by
    have hstands := hm.stands
    rw [hpc] at hstands
    cases isFirst <;> exact hstands
  -- the call has the size of the datagram, if it has one
  have hcall : h.pc = .head isFirst ∨ h.pc = .call isFirst d.size := by
    cases hb : app.buffer with
    | none => exact Or.inl (by rw [hat, hb]; rfl)
    | some size => exact Or.inr (by rw [hat, hb, ← hbuffer size hb]; rfl)
  obtain ⟨sts, loads, hrun, hloads, hsize⟩ := exists_in_call hsized hcall
  refine ⟨d.size + 5, sts ++ [.datagram d.packet], _, Nat.le_add_left _ _, ?_,
    hm.arrives hret hout hstands harrived hhand hloads hsize⟩
  rw [System.run_append, hrun, Option.bind_some, ← hreceive loads]
  cases isFirst <;> exact System.run_singleton rfl

/-- **The buffers follow every step of a handler.** -/
theorem Mirrors.step {inbox : List Inbound} {hasSender : Bool} {st : HandleStep}
    {effect : InboxEffect} (hm : app.Mirrors h) (hsized : h.Sized)
    (hs : Step app inbox hasSender st app' effect) : app'.Followed h := by
  have hstands := hm.stands
  cases hs with
  | goes pc hpc => exact hm.followed_goes hpc
  | requests r hpc hr =>
    rw [hpc] at hstands
    have hm' : ({ app with request := r }.goto .reply).Mirrors h :=
      hm.moves hstands rfl (by simp [uplinkHand, goto, hpc]) id fun _ => id
    exact hm'.followed
  | leaves pc hpc hend =>
    refine hm.followed_ends (Or.inr hpc) ?_ rfl ?_
    · rcases hend with ⟨isOk, rfl⟩ | ⟨isOk, rfl⟩ <;> rfl
    · rcases hend with ⟨isOk, rfl⟩ | ⟨isOk, rfl⟩ <;> rfl
  | pushes m up down hup hreq => exact hm.followed_hands hup rfl rfl rfl
  | drops m up down hup hreq => exact hm.followed_hands hup rfl rfl rfl
  | connects src down hpc =>
    rw [hpc] at hstands
    obtain ⟨hbuffer, hat⟩ := hstands
    have hm' : ({ app with peer := some src }.goto (.relaying .recv down)).Mirrors
        { h with pc := .nextSize } :=
      hm.moves (by simp [HandlePc.Buffered, HandlerPc.head, goto, hbuffer]) rfl
        (by simp [uplinkHand, goto, hpc]) (fun hret => by rw [hat] at hret; cases hret) fun _ => id
    exact hm'.followed_step .go (by simp [Handler.step, hat])
  | accepts d q up down hbuffer hq hfrag hup =>
    have haccept : d.accept? = some (d.src, q.outbound) := by
      simp only [Datagram.accept?, hq, if_pos hfrag]
    have hreceive : ∀ (isFirst : Bool) (loads : List Nat),
        Handler.receive ⟨.call isFirst d.size, loads, h.handed⟩ d.size isFirst (.head isFirst)
          d.packet = ⟨.send isFirst q, loads, h.handed⟩ := by
      intro isFirst loads
      simp only [Handler.receive, hq, if_pos hfrag]
    rcases hup with ⟨hpc, rfl⟩ | ⟨hpc, rfl⟩
    · exact hm.followed_datagram hsized true hpc hbuffer (hreceive true) ⟨rfl, q, rfl, rfl⟩ rfl
        (by rw [haccept]; rfl)
    · exact hm.followed_datagram hsized false hpc hbuffer (hreceive false) ⟨rfl, q, rfl, rfl⟩ rfl
        (by rw [haccept]; rfl)
  | ignores d buffer down hbuffer hd hpc =>
    have hnone : d.accept? = none := by
      rcases hd with ⟨q, hq, hfrag, -⟩ | ⟨hnone, -⟩
      · simp only [Datagram.accept?, hq, if_neg hfrag]
      · simp only [Datagram.accept?, hnone]
    -- a fragment ends the call, and what has no header does not
    have hreceive : ∀ (isFirst : Bool) (loads : List Nat),
        Handler.receive ⟨.call isFirst d.size, loads, h.handed⟩ d.size isFirst (.head isFirst)
          d.packet = ⟨buffer.elim (.head isFirst) (.call isFirst), loads, h.handed⟩ := by
      intro isFirst loads
      rcases hd with ⟨q, hq, hfrag, rfl⟩ | ⟨hq, rfl⟩
      · simp only [Handler.receive, hq, if_neg hfrag, Option.elim_none]
      · simp only [Handler.receive, hq, Option.elim_some]
    rcases hpc with hpc | hpc
    · exact hm.followed_datagram hsized true hpc hbuffer (hreceive true) (by rw [hpc]; rfl) rfl
        (by rw [hnone, uplinkHand, hpc]; rfl)
    · exact hm.followed_datagram hsized false hpc hbuffer (hreceive false) (by rw [hpc]; rfl) rfl
        (by rw [hnone, uplinkHand, hpc]; rfl)
  | takes m rest up hpc hinbox =>
    rw [hpc] at hstands
    have hm' : (app.goto (.relaying up (.send m))).Mirrors h :=
      hm.moves (by cases up <;> exact hstands) rfl (by cases up <;> simp [uplinkHand, goto, hpc])
        id fun _ => id
    exact hm'.followed
  | replies peer m up hpc hpeer =>
    rw [hpc] at hstands
    have hm' : ({ app with replied := app.replied ++ [(peer, m)] }.goto
        (.relaying up .recv)).Mirrors h :=
      hm.moves (by cases up <;> exact hstands) rfl (by cases up <;> simp [uplinkHand, goto, hpc])
        id fun _ => id
    exact hm'.followed

end Followed

end Application

/-! ## All handlers -/

/-- A handler makes its steps, and the limit and the other handlers stay. -/
theorem Associates.runBy_handler (mode : UdpRelayMode) (defaultSize : Nat) {i : Nat}
    {h h' : Handler} {sts : List HandlerStep} {t : Associates} (hi : t.handlers[i]? = some h)
    (hrun : (handlerSystem t.limit).run h sts = some h') :
    (associatesSystem mode defaultSize).runBy (fun _ a => a.enough mode defaultSize) t
        (sts.map (.handler i)) =
      some { t with handlers := t.handlers.set i h' } := by
  induction sts generalizing t h with
  | nil =>
    cases hrun
    obtain ⟨hlt, rfl⟩ := List.getElem?_eq_some_iff.mp hi
    show some t = some { t with handlers := t.handlers.set i t.handlers[i] }
    rw [List.set_getElem_self]
  | cons st sts ih =>
    obtain ⟨h₁, hstep, hrest⟩ := Option.bind_eq_some_iff.mp hrun
    have hone : (associatesSystem mode defaultSize).step t (.handler i st) =
        some { t with handlers := t.handlers.set i h₁ } := by
      have hstep : h.step t.limit st = some h₁ := hstep
      simp only [associatesSystem, hi, hstep]
    have henough : AssociatesAction.enough mode defaultSize (.handler i st) = true := rfl
    have hnext := ih (t := { t with handlers := t.handlers.set i h₁ })
      (getElem?_set_of_some hi) hrest
    rw [List.map_cons, System.runBy, if_pos henough, hone, Option.bind_some, hnext, List.set_set]

namespace Applications

variable {mode : UdpRelayMode} {tokenDigest : List.Vector UInt8 32} {s s' : Applications}
  {t : Associates} {a : ApplicationsAction}

/-- Every handler has its buffers. -/
structure Mirrored (s : Applications) (t : Associates) : Prop where
  /-- There are as many. -/
  length : t.handlers.length = s.apps.length
  /-- Each has its own. -/
  mirrors : All (fun i app => ∃ h, t.handlers[i]? = some h ∧ app.Mirrors h) s.apps

/-- A handler goes on, and its buffers follow, after an update of the limit. -/
theorem Mirrored.followed {defaultSize i : Nat} {h : Handler} {app' : Application}
    (hm : s.Mirrored t) (hi : t.handlers[i]? = some h) (hf : app'.Followed h)
    (happs : s'.apps = s.apps.set i app') :
    ∃ as t', (associatesSystem .native defaultSize).runBy
      (fun _ a => a.enough .native defaultSize) t as = some t' ∧ s'.Mirrored t' := by
  obtain ⟨limit, sts, h', hlimit, hrun, hmirrors⟩ := hf
  have henough : AssociatesAction.enough .native defaultSize (.update (some limit)) = true :=
    decide_eq_true hlimit
  refine ⟨.update (some limit) :: sts.map (.handler i), ⟨limit, t.handlers.set i h'⟩, ?_, ?_, ?_⟩
  · rw [System.runBy, if_pos henough]
    exact Associates.runBy_handler (t := { t with limit := limit }) .native defaultSize hi hrun
  · rw [happs, List.length_set, List.length_set]
    exact hm.length
  · rw [happs]
    refine hm.mirrors.set ⟨h', getElem?_set_of_some hi, hmirrors⟩ fun j app hne hj hold => ?_
    obtain ⟨hd, hhd, hold⟩ := hold
    exact ⟨hd, (List.getElem?_set_ne hne.symm).trans hhd, hold⟩

/-- **The buffers of the applications are computed.** Every run of the applications, whatever the
sizes are that their datagrams are received with, is mirrored by a run of the handlers and the
limit, for what some connection in native mode reports. No size underflows in it. -/
theorem mirrored_of_reachable (defaultSize : Nat)
    (h : (applicationsSystem mode tokenDigest).Reachable s) :
    ∃ t, (associatesSystem .native defaultSize).ReachableBy
      (fun _ a => a.enough .native defaultSize = true) t ∧ s.Mirrored t := by
  refine h.exists_related ⟨rfl, All.nil⟩ fun s a s' t _ hs ht hm => ?_
  have hsized := Associates.sized_of_reachable ht
  -- what is not a step of a handler leaves its place and its packets alone
  have hstays : ∀ {i : Nat} {app app' : Application}, s.apps[i]? = some app →
      s'.apps = s.apps.set i app' → app'.pc = app.pc → app'.buffer = app.buffer →
      app'.arrived = app.arrived → ∃ as t', (associatesSystem .native defaultSize).runBy
        (fun _ a => a.enough .native defaultSize) t as = some t' ∧ s'.Mirrored t' := by
    intro i app app' hi happs hpc hbuffer harrived
    obtain ⟨hd, hhd, hmirrors⟩ := hm.mirrors i app hi
    have hm' : app'.Mirrors hd := hmirrors.moves (by rw [hpc, hbuffer]; exact hmirrors.stands)
      harrived (by rw [Application.uplinkHand, hpc]; rfl) id fun _ => id
    exact hm.followed hhd hm'.followed happs
  cases step_cases hs with
  | accept =>
    refine ⟨[.accept], { t with handlers := t.handlers ++ [.new] }, rfl, ?_, ?_⟩
    · simp [hm.length]
    · refine hm.mirrors.spawn ⟨.new, ?_, .new⟩ fun j app _ hold => ?_
      · rw [← hm.length]
        exact List.getElem?_concat_length
      · obtain ⟨hd, hhd, hold⟩ := hold
        exact ⟨hd, getElem?_append_of_some hhd, hold⟩
  | handle i st app app' effect r hi hstep hr =>
    obtain ⟨hd, hhd, hmirrors⟩ := hm.mirrors i app hi
    exact hm.followed hhd
      (hmirrors.step (hsized i hd hhd) (Application.step_cases hstep)) rfl
  | serve i assocId app hi hreq => exact hstays hi rfl rfl rfl rfl
  | timeout i app hi hreq => exact hstays hi rfl rfl rfl rfl
  | associate i app b assoc st c hi hreq ha hst hc =>
    exact hstays hi rfl (by split_ifs <;> rfl) (by split_ifs <;> rfl) (by split_ifs <;> rfl)
  | client _ b c hb hc => exact ⟨[], t, rfl, hm.length, hm.mirrors⟩
  | incoming channel recv => exact ⟨[], t, rfl, hm.length, hm.mirrors⟩
  | arrive j ev task recv hj hon => exact ⟨[], t, rfl, hm.length, hm.mirrors⟩
  | receive _ b r hb hr => exact ⟨[], t, rfl, hm.length, hm.mirrors⟩

end Applications

end Tuic.Client.Socks5
