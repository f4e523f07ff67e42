import Tuic.Server.Mode

/-! # Errors of a connection

A handler closes the connection when one of the four documented errors occurs, with the code of that
error, and for no other reason. `Documented` says when each error occurs, in terms of the item, the
barrier and the relay mode at the step that decides; `dispatch_confined` puts it together for every
handler in every reachable state. What fails inside a relay task, a session task or a reply stays
there: it closes nothing, and it changes no entry of the session table but the one of the handler's
own association. -/

namespace Tuic.Server

open ByteCodec Transition

/-! ## The documented errors -/

/-- The error a handler has failed with. -/
def Pc.error? : Pc → Option DispatchError
  | .closeFailed | .wakeFailed => some .authenticationFailed
  | .fail err | .failed err => some err
  | .read | .setAuthenticated | .wakeAuthenticated | .await _ | .parked _ | .dispatch _ | .relay _
  | .done | .panicked => none

/-- **A handler has failed** with the error it returns or has returned, or on the way out of a
failed authentication. -/
theorem Pc.error?_eq_some {pc : Pc} {err : DispatchError} : pc.error? = some err ↔
    pc = .fail err ∨ pc = .failed err ∨
      (pc = .closeFailed ∨ pc = .wakeFailed) ∧ err = .authenticationFailed := by
  cases pc <;> simp [Pc.error?, eq_comm]

/-- The code of that error. -/
def Pc.errorCode? (pc : Pc) : Option UInt32 := pc.error?.map DispatchError.asErrorCode

/-- No command can be read of an item: the stream fails under the read, or the bytes carry none. -/
def NoCommand (recv : RecvStream) (outcome : Outcome) : Prop :=
  (recv.status = .failed ∧ ∃ err, outcome = .fail err) ∨ ∀ cmd, ¬ Carries recv.data cmd

/-- The commands that may come on a channel. -/
def Source.allows : Source → Command → Bool
  | .uniStream, .authenticate _ | .uniStream, .packet _ _ _ | .uniStream, .dissociate _
  | .uniStream, .heartbeat | .biStream, .connect _ | .datagram, .packet _ _ _ => true
  | .uniStream, .response _ | .uniStream, .connect _ | .biStream, .response _
  | .biStream, .authenticate _ | .biStream, .packet _ _ _ | .biStream, .dissociate _
  | .biStream, .heartbeat | .datagram, .response _ | .datagram, .authenticate _
  | .datagram, .connect _ | .datagram, .dissociate _ | .datagram, .heartbeat => false

/-- **When an error occurs**: what is so before the step of handler `i` that decides it. -/
def Documented (token : List Digest) (c : Connection) (i : Nat) (t : Task) (outcome : Outcome) :
    DispatchError → Prop
  -- no command header can be decoded from the item
  | .io _ => t.pc = .read ∧ NoCommand t.recv outcome
  -- the item is a unidirectional stream with an `Authenticate` of no token
  | .authenticationFailed => t.pc = .read ∧ ¬ NoCommand t.recv outcome ∧ t.source = .uniStream ∧
      ∃ digest, digest ∉ token ∧ Carries t.recv.data (.authenticate digest)
  -- the command is no such `Authenticate`, and the barrier resolves to closed
  | .authenticationTimeout => ∃ cmd, (t.pc = .await cmd ∨ t.pc = .parked cmd) ∧
      Carries t.recv.data cmd ∧ (t.source = .uniStream → ∀ digest, cmd ≠ .authenticate digest) ∧
      (c.poll (.handler i)).2 = some false
  -- the barrier resolved to authenticated, and the command is not allowed or of the other mode
  | .badCommand => ∃ cmd, t.pc = .dispatch cmd ∧ Carries t.recv.data cmd ∧
      c.isAuthenticated.isAuthenticated = true ∧
      (t.source.allows cmd = false ∨ t.OtherMode c)

/-! ## Reading the command -/

section Handler

variable {token : List Digest} {c c' : Connection} {i : Nat} {t t' : Task} {outcome : Outcome}

/-- A command that is read is one the bytes carry, and the reading did not fail. -/
theorem readCommand_iff (h : t.readCommand token c i outcome = some (c', t')) :
    (NoCommand t.recv outcome ∧ ∃ e, t'.pc = .fail (.io e)) ∨
      ¬ NoCommand t.recv outcome ∧ ∃ cmd, Carries t.recv.data cmd ∧
        t'.pc = .ofCommand token t.source cmd := by
  -- what the bytes carry, as the decoder sees it
  have hnone : ∀ {e}, Command.readFrom t.recv.data = .error e →
      ∀ cmd, ¬ Carries t.recv.data cmd := by
    rintro e he cmd ⟨rest, hrest⟩
    rw [he] at hrest
    cases hrest
  unfold Task.readCommand at h
  split at h
  · rename_i err
    split at h
    · rename_i hst
      cases h
      exact Or.inl ⟨Or.inl ⟨hst, err, rfl⟩, err, rfl⟩
    · cases h
  · rename_i hno
    split at h
    · rename_i cmd rest hread
      cases h
      refine Or.inr ⟨?_, cmd, ⟨rest, hread⟩, rfl⟩
      rintro (⟨-, err, rfl⟩ | hcarries)
      · exact hno err rfl
      · exact hcarries cmd ⟨rest, hread⟩
    · rename_i err hread
      split at h
      · cases h
      · cases h
        exact Or.inl ⟨Or.inr (hnone hread), err, rfl⟩
    · rename_i hread
      exact absurd hread (Command.noPanic_readFrom _)

/-! ## The steps of a handler by the error they end in -/

/-- A command for a relay task is allowed on its channel. -/
theorem Source.allows_of_relayTask {src : Source} {data : Bytes} {cmd : Command} {task : RelayTask}
    (h : src.relayTask data cmd = some task) : src.allows cmd = true := by
  unfold Source.relayTask at h
  split at h
  all_goals first
    | rfl
    | cases h

/-- A command for none is not, unless it is one a unidirectional stream may carry all the same. -/
theorem Source.allows_eq_false {src : Source} {data : Bytes} {cmd : Command}
    (h : src.relayTask data cmd = none) (hbeat : ¬ (src = .uniStream ∧ cmd = .heartbeat))
    (hauth : src = .uniStream → ∀ digest, cmd ≠ .authenticate digest) :
    src.allows cmd = false := by
  cases src with
  | uniStream =>
    cases cmd with
    | authenticate digest => exact absurd rfl (hauth rfl digest)
    | heartbeat => exact absurd ⟨rfl, rfl⟩ hbeat
    | packet assocId len addr => cases h
    | dissociate assocId => cases h
    | response b => rfl
    | connect addr => rfl
  | biStream =>
    cases cmd with
    | connect addr => cases h
    | _ => rfl
  | datagram =>
    cases cmd with
    | packet assocId len addr => cases h
    | _ => rfl

/-- A command that waits at the barrier is no `Authenticate` on a unidirectional stream. -/
theorem ne_authenticate_of_await {src : Source} {cmd : Command}
    (h : Pc.ofCommand token src cmd = .await cmd) (hsrc : src = .uniStream) (digest : Digest) :
    cmd ≠ .authenticate digest := by
  rintro rfl
  rw [hsrc, Pc.ofCommand] at h
  split at h <;> cases h

/-- No error is decided but where the command is read, at the barrier, and at the `match`. -/
theorem not_documented (hread : t.pc ≠ .read) (hawait : ∀ cmd, t.pc ≠ .await cmd)
    (hparked : ∀ cmd, t.pc ≠ .parked cmd) (hdispatch : ∀ cmd, t.pc ≠ .dispatch cmd)
    (err : DispatchError) : ¬ Documented token c i t outcome err := by
  cases err with
  | io e => exact fun h => hread h.1
  | authenticationFailed => exact fun h => hread h.1
  | authenticationTimeout =>
    rintro ⟨cmd, hpc | hpc, -⟩
    · exact hawait cmd hpc
    · exact hparked cmd hpc
  | badCommand =>
    rintro ⟨cmd, hpc, -⟩
    exact hdispatch cmd hpc

/-- What a step of a handler that has not failed comes to: an error that is documented, or no error,
and then none is. -/
def Decides (token : List Digest) (c : Connection) (i : Nat) (t : Task) (outcome : Outcome)
    (t' : Task) : Prop :=
  (∃ err, t'.pc.error? = some err ∧ Documented token c i t outcome err) ∨
    t'.pc.error? = none ∧ ∀ err, ¬ Documented token c i t outcome err

/-- Reading the command decides two of the errors. -/
theorem decides_read (hpc : t.pc = .read) (h : t.readCommand token c i outcome = some (c', t')) :
    Decides token c i t outcome t' := by
  rcases readCommand_iff h with ⟨hno, e, he⟩ | ⟨hcan, cmd, hc, heq⟩
  · exact Or.inl ⟨.io e, by rw [he]; rfl, hpc, hno⟩
  -- a command was read, so at most its digest can be wrong
  have hothers : ∀ err, Documented token c i t outcome err → err = .authenticationFailed := by
    intro err herr
    cases err with
    | io e => exact absurd herr.2 hcan
    | authenticationFailed => rfl
    | authenticationTimeout =>
      obtain ⟨cmd', hpc' | hpc', -⟩ := herr <;> rw [hpc] at hpc' <;> cases hpc'
    | badCommand =>
      obtain ⟨cmd', hpc', -⟩ := herr
      rw [hpc] at hpc'
      cases hpc'
  rcases Pc.ofCommand_cases token t.source cmd with
    hawait | ⟨hsrc, digest, rfl, ⟨hd, hset⟩ | ⟨hd, hclose⟩⟩
  · refine Or.inr ⟨by rw [heq, hawait]; rfl, fun err herr => ?_⟩
    obtain rfl := hothers err herr
    obtain ⟨-, -, hsrc, digest, -, hc'⟩ := herr
    exact ne_authenticate_of_await hawait hsrc digest (hc.unique hc')
  · refine Or.inr ⟨by rw [heq, hset]; rfl, fun err herr => ?_⟩
    obtain rfl := hothers err herr
    obtain ⟨-, -, -, digest', hd', hc'⟩ := herr
    cases hc.unique hc'
    exact hd' hd
  · exact Or.inl ⟨.authenticationFailed, by rw [heq, hclose]; rfl, hpc, hcan, hsrc, digest, hd, hc⟩

/-- The barrier decides the third. -/
theorem decides_poll {cmd : Command} (hpc : t.pc = .await cmd ∨ t.pc = .parked cmd)
    (hc : Carries t.recv.data cmd) (hawait : Pc.ofCommand token t.source cmd = .await cmd)
    (ht' : t'.pc = .ofPoll cmd (c.poll (.handler i)).2) : Decides token c i t outcome t' := by
  have hothers : ∀ err, Documented token c i t outcome err →
      (c.poll (.handler i)).2 = some false := by
    intro err herr
    cases err with
    | io e => rcases hpc with hpc | hpc <;> cases hpc.symm.trans herr.1
    | authenticationFailed => rcases hpc with hpc | hpc <;> cases hpc.symm.trans herr.1
    | authenticationTimeout =>
      obtain ⟨-, -, -, -, hres⟩ := herr
      exact hres
    | badCommand =>
      obtain ⟨cmd', hpc', -⟩ := herr
      rcases hpc with hpc | hpc <;> cases hpc.symm.trans hpc'
  cases hres : (c.poll (.handler i)).2 with
  | none =>
    refine Or.inr ⟨by rw [ht', hres]; rfl, fun err herr => ?_⟩
    cases hres.symm.trans (hothers err herr)
  | some b =>
    cases b with
    | true =>
      refine Or.inr ⟨by rw [ht', hres]; rfl, fun err herr => ?_⟩
      cases hres.symm.trans (hothers err herr)
    | false =>
      exact Or.inl ⟨.authenticationTimeout, by rw [ht', hres]; rfl, cmd, hpc, hc,
        fun hsrc => ne_authenticate_of_await hawait hsrc, hres⟩

/-- The `match` decides the last. -/
theorem decides_dispatch {cmd : Command} (hpc : t.pc = .dispatch cmd)
    (hc : Carries t.recv.data cmd) (hawait : Pc.ofCommand token t.source cmd = .await cmd)
    (hflag : c.isAuthenticated.isAuthenticated = true) {cell : UdpPacketFrom} {res : Dispatched}
    (hres : Server.dispatch c.udpPacketFrom t.source t.recv.data cmd = (cell, res))
    (ht' : t'.pc = .ofDispatched res) : Decides token c i t outcome t' := by
  -- no other error is decided here, so this one is when the command may not pass
  have hdoc : ∀ err, Documented token c i t outcome err →
      t.source.allows cmd = false ∨ t.OtherMode c := by
    intro err herr
    cases err with
    | io e => cases hpc.symm.trans herr.1
    | authenticationFailed => cases hpc.symm.trans herr.1
    | authenticationTimeout => obtain ⟨cmd', hpc' | hpc', -⟩ := herr <;> cases hpc.symm.trans hpc'
    | badCommand =>
      obtain ⟨cmd', hpc', -, -, hbad⟩ := herr
      cases hpc.symm.trans hpc'
      exact hbad
  cases dispatch_cases hc hawait hres with
  | packet assocId len addr m task hm hcell htask =>
    refine Or.inr ⟨by rw [ht']; rfl, fun err herr => ?_⟩
    rcases hdoc err herr with hnot | ⟨assocId', len', addr', m', m'', hc', hm', hm'', hne⟩
    · rw [Source.allows_of_relayTask htask] at hnot
      cases hnot
    · rw [hm] at hm'
      cases hm'
      rcases hcell with hcell | hcell <;> rw [hm''] at hcell <;> cases hcell
      exact hne rfl
  | otherMode assocId len addr m m' hm hcell hne =>
    exact Or.inl ⟨.badCommand, by rw [ht']; rfl, _, hpc, hc, hflag,
      Or.inr ⟨assocId, len, addr, m, m', hc, hm, hcell, hne⟩⟩
  | other _ task hcmd htask =>
    refine Or.inr ⟨by rw [ht']; rfl, fun err herr => ?_⟩
    rcases hdoc err herr with hnot | ⟨assocId, len, addr, -, -, hc', -⟩
    · rw [Source.allows_of_relayTask htask] at hnot
      cases hnot
    · exact hcmd assocId len addr (hc.unique hc')
  | heartbeat hsrc =>
    refine Or.inr ⟨by rw [ht']; rfl, fun err herr => ?_⟩
    rcases hdoc err herr with hnot | ⟨assocId, len, addr, -, -, hc', -⟩
    · rw [hsrc] at hnot
      cases hnot
    · cases hc.unique hc'
  | notAllowed _ htask hcmd =>
    exact Or.inl ⟨.badCommand, by rw [ht']; rfl, cmd, hpc, hc, hflag,
      Or.inl (Source.allows_eq_false htask hcmd fun hsrc => ne_authenticate_of_await hawait hsrc)⟩

/-- **Every step of a handler that has not failed decides**: it fails with a documented error, or
no error is documented for it. -/
theorem decides_of_step (hs : t.Sound token c) (hnone : t.pc.error? = none)
    (h : t.step token c i outcome = some (c', t')) : Decides token c i t outcome t' := by
  have hpcs := hs.2
  cases taskStep_cases h with
  | readFails err hpc hst =>
    rw [Task.step, hpc] at h
    exact decides_read hpc h
  | decodes cmd rest hpc hread =>
    rw [Task.step, hpc] at h
    exact decides_read hpc h
  | undecodable err hpc hread hst =>
    rw [Task.step, hpc] at h
    exact decides_read hpc h
  | decoderPanics hpc hread => exact absurd hread (Command.noPanic_readFrom _)
  | setAuthenticated hpc => exact Or.inr ⟨rfl, not_documented (by simp [hpc]) (by simp [hpc])
      (by simp [hpc]) (by simp [hpc])⟩
  | wakeAuthenticated hpc => exact Or.inr ⟨rfl, not_documented (by simp [hpc]) (by simp [hpc])
      (by simp [hpc]) (by simp [hpc])⟩
  | relay r u events recv r' hpc hstep =>
    refine Or.inr ⟨?_, not_documented (by simp [hpc]) (by simp [hpc]) (by simp [hpc])
      (by simp [hpc])⟩
    cases r' <;> rfl
  | poll cmd hpc =>
    have hcmd : Carries t.recv.data cmd ∧ Pc.ofCommand token t.source cmd = .await cmd := by
      rcases hpc with hpc | ⟨hpc, -⟩ <;> rw [hpc] at hpcs <;> exact hpcs
    exact decides_poll (hpc.imp_right And.left) hcmd.1 hcmd.2 rfl
  | dispatch cmd hpc cell res hres =>
    rw [hpc] at hpcs
    exact decides_dispatch hpc hpcs.1 hpcs.2.1 hpcs.2.2 hres rfl
  -- a handler that is closing the connection has failed
  | closeFailed hpc =>
    rw [hpc] at hnone
    cases hnone
  | wakeFailed hpc =>
    rw [hpc] at hnone
    cases hnone
  | fail err hpc =>
    rw [hpc] at hnone
    cases hnone

open Classical in
/-- The code of the one error that can be decided where a handler stands. -/
noncomputable def Task.codeAt (t : Task) (outcome : Outcome) : UInt32 :=
  match t.pc with
  | .read =>
    if NoCommand t.recv outcome then DispatchError.codeProtocol
    else DispatchError.codeAuthenticationFailed
  | .await _ | .parked _ => DispatchError.codeAuthenticationTimeout
  | _ => DispatchError.codeBadCommand

/-- A documented error has that code. -/
theorem Documented.code {err : DispatchError} (h : Documented token c i t outcome err) :
    err.asErrorCode = t.codeAt outcome := by
  unfold Task.codeAt
  cases err with
  | io e =>
    rw [h.1]
    exact (if_pos h.2).symm
  | authenticationFailed =>
    rw [h.1]
    exact (if_neg h.2.1).symm
  | authenticationTimeout =>
    obtain ⟨cmd, hpc | hpc, -⟩ := h <;> rw [hpc] <;> rfl
  | badCommand =>
    obtain ⟨cmd, hpc, -⟩ := h
    rw [hpc]
    rfl

/-- Whether an error is documented depends on its code only. -/
theorem Documented.congr {err err' : DispatchError} (hcode : err.asErrorCode = err'.asErrorCode)
    (h : Documented token c i t outcome err) : Documented token c i t outcome err' := by
  cases err <;> cases err' <;> first
    | exact h
    | simp [DispatchError.asErrorCode, DispatchError.codeProtocol,
        DispatchError.codeAuthenticationFailed, DispatchError.codeAuthenticationTimeout,
        DispatchError.codeBadCommand] at hcode

/-- **An error is what a step ends in exactly when it is documented.** -/
theorem errorCode?_iff_documented (hs : t.Sound token c) (hnone : t.pc.error? = none)
    (h : t.step token c i outcome = some (c', t')) (err : DispatchError) :
    t'.pc.errorCode? = some err.asErrorCode ↔ Documented token c i t outcome err := by
  rw [Pc.errorCode?, Option.map_eq_some_iff]
  rcases decides_of_step hs hnone h with ⟨err', herr', hdoc⟩ | ⟨hok, hnot⟩
  · constructor
    · rintro ⟨err'', herr'', hcode⟩
      cases herr'.symm.trans herr''
      exact hdoc.congr hcode
    · exact fun hdoc' => ⟨err', herr', hdoc.code.trans hdoc'.code.symm⟩
  · constructor
    · rintro ⟨err'', herr'', -⟩
      cases hok.symm.trans herr''
    · exact fun hdoc => absurd hdoc (hnot err)

end Handler

/-! ## Closing the connection -/

/-- Whether an event is a close of the connection. -/
def Event.isClose : Event → Bool
  | .close _ _ => true
  | .decoded _ _ _ | .started _ _ | .lookupHost _ _ _ | .tcpConnect _ _ _ | .toTarget _ _
  | .toPeer _ _ | .finish _ => false

/-- The closes of a connection so far, latest first. -/
def Connection.closes (c : Connection) : List Event := c.log.filter Event.isClose

/-- Events that are no closes leave them as they are. -/
theorem Connection.closes_emit (c : Connection) {events : List Event}
    (h : ∀ e ∈ events, e.isClose = false) : (c.emit events).closes = c.closes := by
  have hnil : events.reverse.filter Event.isClose = [] := by
    rw [List.filter_eq_nil_iff]
    intro e he
    rw [h e (List.mem_reverse.mp he)]
    exact Bool.false_ne_true
  rw [closes, emit_log, List.filter_append, hnil]
  rfl

/-- What a step keeps that does not close the connection. -/
def Connection.Open (c c' : Connection) : Prop :=
  c'.controller = c.controller ∧ c'.closes = c.closes

/-- `connect` does not close the connection. -/
theorem Event.OfConnect.isClose {i : Nat} {e : Event} (h : e.OfConnect i) : e.isClose = false := by
  cases h <;> rfl

/-- No step of a relay task does. -/
theorem RelayStep.isClose {u u' : Udp} {i : Nat} {recv recv' : RecvStream} {r : Relay}
    {events : List Event} {r' : Option Relay} (h : RelayStep u i recv r u' events recv' r') :
    ∀ e ∈ events, e.isClose = false :=
  fun e he => (h.ofConnect e he).isClose

/-- A reply closes nothing. -/
theorem ReplyStep.isClose {cell : UdpPacketFrom} {k : Nat} {pc pc' : ReplyPc} {events : List Event}
    (h : ReplyStep cell k pc events pc') : ∀ e ∈ events, e.isClose = false := by
  cases h <;> simp [Event.isClose]

section Handler

variable {token : List Digest} {c c' : Connection} {i : Nat} {t t' : Task}

/-- A handler that has not failed does not close the connection. -/
theorem TaskStep.open_of_error? (h : TaskStep token c i t c' t') (hnone : t.pc.error? = none) :
    c.Open c' := by
  cases h with
  | relay r u events recv r' hpc hstep => exact ⟨rfl, Connection.closes_emit _ hstep.isClose⟩
  | dispatch cmd hpc cell res hres =>
    refine ⟨rfl, Connection.closes_emit _ fun e he => ?_⟩
    cases res with
    | start task => rw [List.mem_singleton.mp he]; rfl
    | returned r => cases he
    | panicked => cases he
  | decodes cmd rest hpc hread =>
    refine ⟨rfl, Connection.closes_emit _ fun e he => ?_⟩
    rw [List.mem_singleton.mp he]
    rfl
  | closeFailed hpc =>
    rw [hpc] at hnone
    cases hnone
  | fail err hpc =>
    rw [hpc] at hnone
    cases hnone
  | readFails err hpc hst => exact ⟨rfl, rfl⟩
  | undecodable err hpc hread hst => exact ⟨rfl, rfl⟩
  | decoderPanics hpc hread => exact ⟨rfl, rfl⟩
  | setAuthenticated hpc => exact ⟨rfl, rfl⟩
  | wakeAuthenticated hpc => exact ⟨rfl, rfl⟩
  | wakeFailed hpc => exact ⟨rfl, rfl⟩
  | poll cmd hpc => exact ⟨rfl, rfl⟩

/-- A handler that has failed keeps its error, and closes the connection with it. -/
theorem TaskStep.closes_of_error? (h : TaskStep token c i t c' t') {err : DispatchError}
    (herr : t.pc.error? = some err) :
    t'.pc.error? = some err ∧ (c' = c.close err ∨ t.pc = .wakeFailed ∧ c' = c.wake) := by
  cases h with
  | closeFailed hpc =>
    rw [hpc] at herr
    cases herr
    exact ⟨rfl, Or.inl rfl⟩
  | wakeFailed hpc =>
    rw [hpc] at herr
    cases herr
    exact ⟨rfl, Or.inr ⟨hpc, rfl⟩⟩
  | fail err' hpc =>
    rw [hpc] at herr
    cases herr
    exact ⟨rfl, Or.inl rfl⟩
  | readFails err' hpc hst =>
    rw [hpc] at herr
    cases herr
  | decodes cmd rest hpc hread =>
    rw [hpc] at herr
    cases herr
  | undecodable err' hpc hread hst =>
    rw [hpc] at herr
    cases herr
  | decoderPanics hpc hread =>
    rw [hpc] at herr
    cases herr
  | setAuthenticated hpc =>
    rw [hpc] at herr
    cases herr
  | wakeAuthenticated hpc =>
    rw [hpc] at herr
    cases herr
  | poll cmd hpc =>
    rcases hpc with hpc | ⟨hpc, -⟩ <;> rw [hpc] at herr <;> cases herr
  | dispatch cmd hpc cell res hres =>
    rw [hpc] at herr
    cases herr
  | relay r u events recv r' hpc hstep =>
    rw [hpc] at herr
    cases herr

end Handler

/-! ## What a relay task may change -/

/-- The association a command is about. -/
def associationOf : Command → Option UInt32
  | .packet assocId _ _ | .dissociate assocId => some assocId
  | .response _ | .authenticate _ | .connect _ | .heartbeat => none

/-- Nothing of other associations than `own` changes: neither their entries in the table nor their
sessions. -/
structure Udp.SparesOthers (own : Option UInt32) (u u' : Udp) : Prop where
  /-- Their entries stay. -/
  entry : ∀ assocId, own ≠ some assocId → u'.map.lookup assocId = u.map.lookup assocId
  /-- Their sessions stay. -/
  session : ∀ (sid : SessionId) (ses : UdpSession), u.sessions[sid]? = some ses →
    own ≠ some ses.assocId → u'.sessions[sid]? = some ses

/-- A call of `send` is confined to the association of its packet, when the sender it holds is of a
session of that association. -/
theorem sparesOthers_of_sendStep {u u' : Udp} {call : SendCall} {n : SendNext}
    (h : SendStep u call u' n)
    (hsender : ∀ sid ses, call.sender = some sid → u.sessions[sid]? = some ses →
      ses.assocId = call.packet.assocId) :
    Udp.SparesOthers (some call.packet.assocId) u u' := by
  cases h with
  | insert p sid =>
    refine ⟨fun assocId hne => AList.lookup_insert_ne fun heq => hne (congrArg some heq.symm), ?_⟩
    exact fun sid ses hses _ => hses
  | create p =>
    refine ⟨fun assocId _ => rfl, fun sid ses hses _ => ?_⟩
    have hlt := (List.getElem?_eq_some_iff.mp hses).1
    show (u.sessions ++ [UdpSession.new p.assocId])[sid]? = some ses
    rw [List.getElem?_append_left hlt]
    exact hses
  | queue p sid ses h hrun =>
    refine ⟨fun assocId _ => rfl, fun sid' ses' hses' hne => ?_⟩
    -- the session whose channel is used is of the packet's association
    have hother : sid ≠ sid' := by
      rintro rfl
      exact hne (congrArg some (hsender sid ses' rfl hses').symm)
    show (u.sessions.set sid _)[sid']? = some ses'
    rw [List.getElem?_set_ne hother]
    exact hses'
  | hit p sid h => exact ⟨fun _ _ => rfl, fun _ _ hses _ => hses⟩
  | miss p h => exact ⟨fun _ _ => rfl, fun _ _ hses _ => hses⟩
  | bindFails p => exact ⟨fun _ _ => rfl, fun _ _ hses _ => hses⟩
  | lose p sid ses h hrun => exact ⟨fun _ _ => rfl, fun _ _ hses _ => hses⟩

/-- **A relay task is confined to the association of its command.** -/
theorem RelayStep.sparesOthers {u u' : Udp} {i : Nat} {recv recv' : RecvStream} {r : Relay}
    {events : List Event} {r' : Option Relay} (h : RelayStep u i recv r u' events recv' r')
    {src : Source} {cmd : Command} {task : RelayTask}
    (htask : src.relayTask recv.data cmd = some task) (hruns : task.Runs r)
    (hsender : ∀ call sid ses, r = .send call → call.sender = some sid →
      u.sessions[sid]? = some ses → ses.assocId = call.packet.assocId) :
    u.SparesOthers (associationOf cmd) u' := by
  cases h with
  | send call bindOk u' n hstep =>
    obtain ⟨len, addr, rfl⟩ := Source.relayTask_send htask hruns
    exact sparesOthers_of_sendStep (sendStep_cases hstep) fun sid ses => hsender call sid ses rfl
  | dissociate assocId =>
    have hcmd : cmd = .dissociate assocId := by
      unfold Source.relayTask at htask
      split at htask
      all_goals cases htask
      all_goals first | exact hruns.elim | (cases hruns; rfl)
    rw [hcmd]
    refine ⟨fun assocId' hne => AList.lookup_erase_ne fun heq => hne (congrArg some heq.symm), ?_⟩
    exact fun sid ses hses _ => hses
  | payload assocId len addr hlen => exact ⟨fun _ _ => rfl, fun _ _ hses _ => hses⟩
  | noPayload assocId len addr hst => exact ⟨fun _ _ => rfl, fun _ _ hses _ => hses⟩
  | connect pc outcome events recv' pc' hstep =>
    exact ⟨fun _ _ => rfl, fun _ _ hses _ => hses⟩

namespace Established

variable {cfg : Config} {s s' : Established} {i : Nat} {t : Task}

/-- The session whose sender a handler holds is one of the association of its packet. -/
theorem assocId_of_sender (h : (connectionSystem cfg).Reachable s) (hi : s.tasks[i]? = some t)
    {call : SendCall} (hpc : t.pc = .relay (.send call)) {sid : SessionId} {ses : UdpSession}
    (hsender : call.sender = some sid) (hses : s.conn.udpSessions.sessions[sid]? = some ses) :
    ses.assocId = call.packet.assocId := by
  have hcall : t.call = some call := by rw [Task.call, hpc]; rfl
  have hi' := getElem?_calls hi
  rw [hcall] at hi'
  obtain ⟨ses', hses', hassoc⟩ :=
    (UdpPool.wf_of_reachable (udpPool_of_reachable h)).calls i call sid hi' hsender
  have heq : some ses = some ses' := hses.symm.trans hses'
  cases heq
  exact hassoc

/-- **Whatever happens in a relay task stays there**: it closes nothing, its handler does not fail,
and other associations are spared. -/
theorem relay_confined (h : (connectionSystem cfg).Reachable s) (hi : s.tasks[i]? = some t)
    {r : Relay} (hpc : t.pc = .relay r) {outcome : Outcome}
    (hstep : (connectionSystem cfg).step s (.task i outcome) = some s') :
    s.conn.Open s'.conn ∧ (∃ t', s'.tasks[i]? = some t' ∧ t'.pc.error? = none) ∧
      ∃ cmd, Carries t.recv.data cmd ∧
        s.conn.udpSessions.SparesOthers (associationOf cmd) s'.conn.udpSessions := by
  have hsound := (sound_of_reachable h i t hi).2
  rw [hpc] at hsound
  obtain ⟨cmd, task, hc, htask, hruns, -⟩ := hsound
  have hstep : s.step cfg (.task i outcome) = some s' := hstep
  simp only [step, hi, Task.step, hpc] at hstep
  cases hrelay : relayStep s.conn.udpSessions i t.recv r outcome with
  | none =>
    rw [hrelay] at hstep
    cases hstep
  | some res =>
    obtain ⟨u, events, recv, r'⟩ := res
    rw [hrelay] at hstep
    cases hstep
    have hcases := relayStep_cases hrelay
    refine ⟨⟨rfl, Connection.closes_emit _ hcases.isClose⟩,
      ⟨_, getElem?_set_of_some hi, by cases r' <;> rfl⟩, cmd, hc, ?_⟩
    refine hcases.sparesOthers htask hruns fun call sid ses heq => ?_
    exact assocId_of_sender h hi (hpc.trans (congrArg Pc.relay heq))

/-- A step of a session task closes nothing and changes no session but its own. -/
theorem session_confined {sid : SessionId} {st : SessionStep}
    (hstep : (connectionSystem cfg).step s (.session sid st) = some s') :
    s.conn.Open s'.conn ∧ s'.conn.udpSessions.map = s.conn.udpSessions.map ∧
      ∀ sid' ≠ sid, s'.conn.udpSessions.sessions[sid']? = s.conn.udpSessions.sessions[sid']? := by
  cases step_cases hstep with
  | session _ _ u hsession =>
    obtain ⟨ses, ses', heff⟩ := sessionStep_spec hsession
    refine ⟨⟨rfl, rfl⟩, heff.map, fun sid' hne => ?_⟩
    show u.sessions[sid']? = _
    rw [heff.sessions, List.getElem?_set_ne hne.symm]

/-- A step of a reply task closes nothing and leaves the sessions alone. -/
theorem reply_confined {k : Nat} {outcome : Outcome}
    (hstep : (connectionSystem cfg).step s (.reply k outcome) = some s') :
    s.conn.Open s'.conn ∧ s'.conn.udpSessions = s.conn.udpSessions := by
  cases step_cases hstep with
  | reply _ _ pc pc' events hk hreply =>
    exact ⟨⟨rfl, Connection.closes_emit _ (replyStep_cases hreply).isClose⟩, rfl⟩

/-- **Who closes the QUIC connection**: a handler that has failed, with its error, the timer of
`handle_authentication_timeout`, or the peer. -/
theorem Step.controller_cases {a : Action} (h : Step cfg s a s') :
    s'.conn.controller = s.conn.controller ∨
    (∃ (i : Nat) (t : Task) (err : DispatchError), s.tasks[i]? = some t ∧
      t.pc.error? = some err ∧ s'.conn = s.conn.close err) ∨
    s'.conn = s.conn.close .authenticationTimeout ∨
    ∃ err, s'.conn.controller = s.conn.controller.or (some (.lost err)) := by
  cases h with
  | task i outcome t t' conn hi hstep =>
    cases herr : t.pc.error? with
    | none => exact Or.inl (hstep.open_of_error? herr).1
    | some err =>
      rcases (hstep.closes_of_error? herr).2 with hclose | ⟨-, hwake⟩
      · exact Or.inr (Or.inl ⟨i, t, err, hi, herr, hclose⟩)
      · refine Or.inl ?_
        show conn.controller = _
        rw [hwake]
        rfl
  | timeoutClose hhandle => exact Or.inr (Or.inr (Or.inl rfl))
  | peerClose err => exact Or.inr (Or.inr (Or.inr ⟨err, rfl⟩))
  | reply k outcome pc pc' events hk hstep => exact Or.inl rfl
  | session sid st u hstep => exact Or.inl rfl
  | accept st t b hhandle hfresh => exact Or.inl rfl
  | receive r rest b hhandle hrecv => exact Or.inl rfl
  | listenerEnds reason b hhandle hclosed => exact Or.inl rfl
  | pollPending hhandle hpoll => exact Or.inl rfl
  | pollReady hhandle res hpoll => exact Or.inl rfl
  | timeout hhandle => exact Or.inl rfl
  | timeoutWake hhandle => exact Or.inl rfl
  | unreachable hhandle => exact Or.inl rfl
  | setClosed err hhandle => exact Or.inl rfl
  | stream i ev t recv hi hrecv => exact Or.inl rfl
  | drop hhandle htasks hreplies => exact Or.inl rfl

/-- **A connection that is closed on this side** was so before, or it is closed now, for the error
of a handler or for the time-out. -/
theorem Step.closed_cases {a : Action} (h : Step cfg s a s') {code : UInt32} {reason : String}
    (hclosed : s'.conn.controller = some (.closed code reason)) :
    s.conn.controller = some (.closed code reason) ∨
      s.conn.controller = none ∧ ∃ err : DispatchError, code = err.asErrorCode ∧
        ((∃ (i : Nat) (t : Task), s.tasks[i]? = some t ∧ t.pc.error? = some err) ∨
          err = .authenticationTimeout) := by
  -- only the first close has an effect
  have hor : ∀ r, s'.conn.controller = s.conn.controller.or (some r) →
      s.conn.controller = some (.closed code reason) ∨
        s.conn.controller = none ∧ r = .closed code reason := by
    intro r heq
    rw [heq, Option.or_eq_some_iff] at hclosed
    exact hclosed.imp_right fun ⟨hopen, hr⟩ => ⟨hopen, Option.some.inj hr⟩
  rcases h.controller_cases with heq | ⟨i, t, err, hi, herr, hclose⟩ | hclose | ⟨err, hlost⟩
  · exact Or.inl (heq.symm.trans hclosed)
  · refine (hor _ (congrArg Connection.controller hclose)).imp_right ?_
    rintro ⟨hopen, hr⟩
    cases hr
    exact ⟨hopen, err, rfl, Or.inl ⟨i, t, hi, herr⟩⟩
  · refine (hor _ (congrArg Connection.controller hclose)).imp_right ?_
    rintro ⟨hopen, hr⟩
    cases hr
    exact ⟨hopen, .authenticationTimeout, rfl, Or.inr rfl⟩
  · refine (hor _ hlost).imp_right ?_
    rintro ⟨-, hr⟩
    cases hr

/-- A handler that has failed has the reason of its error. -/
theorem failsWith_of_error? {token : List Digest} {c : Connection} {err : DispatchError}
    (hsound : t.Sound token c) (herr : t.pc.error? = some err) :
    FailsWith token c t.source t.recv err := by
  have hpcs := hsound.2
  rcases Pc.error?_eq_some.mp herr with hpc | hpc | ⟨hpc | hpc, rfl⟩
  all_goals
    rw [hpc] at hpcs
    exact hpcs

/-- Handler `i` goes on to close the connection with an error: that is the last thing on the record,
and the reason the connection was closed for, unless it was closed before. -/
def Closes (cfg : Config) (s : Established) (i : Nat) (err : DispatchError) : Prop :=
  s.GoesOnToClose cfg i err fun s' =>
    s'.conn.controller = s.conn.controller.or (some (.closed err.asErrorCode err.toString)) ∧
      (s'.tasks[i]?.bind fun t => t.pc.error?) = some err

/-- A handler that returned an error closes the connection with it. -/
theorem closes_of_fail {err : DispatchError} (hi : s.tasks[i]? = some t) (hpc : t.pc = .fail err) :
    s.Closes cfg i err := by
  refine goesOnToClose_of_fail hi hpc ⟨rfl, ?_⟩
  show ((s.tasks.set i { t with pc := .failed err })[i]?.bind fun t => t.pc.error?) = some err
  rw [getElem?_set_of_some hi]
  rfl

/-- One more step on the way, after which the reason for the close is still the same. -/
theorem Closes.step {err : DispatchError}
    (h : (connectionSystem cfg).step s (.task i .ok) = some s')
    (hreason : s'.conn.controller.or (some (.closed err.asErrorCode err.toString)) =
      s.conn.controller.or (some (.closed err.asErrorCode err.toString)))
    (hc : s'.Closes cfg i err) : s.Closes cfg i err :=
  GoesOnToClose.step h (fun _ ⟨hcontroller, herr⟩ => ⟨hcontroller.trans hreason, herr⟩) hc

/-- **A handler that has failed closes the connection**, with the code and the text of its error. -/
theorem closes_of_error? {err : DispatchError} (hi : s.tasks[i]? = some t)
    (herr : t.pc.error? = some err) (hopen : t.pc ≠ .failed err) : s.Closes cfg i err := by
  -- after `wake()` the error is returned
  have hwake : ∀ {s : Established} {t : Task}, s.tasks[i]? = some t → t.pc = .wakeFailed →
      s.Closes cfg i .authenticationFailed := by
    intro s t hi hpc
    have hstep : t.step cfg.token s.conn i .ok =
        some (s.conn.wake, { t with pc := .fail .authenticationFailed }) := by
      rw [Task.step, hpc]
    exact Closes.step (step_task cfg hi hstep) rfl (closes_of_fail (getElem?_set_of_some hi) rfl)
  rcases Pc.error?_eq_some.mp herr with hpc | hpc | ⟨hpc | hpc, rfl⟩
  · exact closes_of_fail hi hpc
  · exact absurd hpc hopen
  · -- the connection is closed first, and `wake()` comes after it
    have hstep : t.step cfg.token s.conn i .ok =
        some (s.conn.close .authenticationFailed, { t with pc := .wakeFailed }) := by
      rw [Task.step, hpc]
    refine Closes.step (step_task cfg hi hstep) ?_ (hwake (getElem?_set_of_some hi) rfl)
    show (s.conn.controller.or _).or _ = _
    rw [Option.or_assoc, Option.or_self]
  · exact hwake hi hpc

/-- **Errors are confined.** In every reachable state, for every item and every interleaving:

* a step of a handler ends in an error with a given code exactly when the documented condition for
  that code holds, and a handler that has not failed does not close the connection;
* a handler that has failed does nothing but close the connection with its error, and it does so;
* whatever happens in a relay task, a session task or a reply, the connection stays open, the
  handler does not fail, and the entries and sessions of other associations stay as they are. -/
theorem dispatch_confined (cfg : Config) (s : Established)
    (h : (connectionSystem cfg).Reachable s) :
    (∀ (i : Nat) (t : Task) (outcome : Outcome) (c' : Connection) (t' : Task),
      s.tasks[i]? = some t → t.step cfg.token s.conn i outcome = some (c', t') →
      (t.pc.error? = none →
        (∀ err : DispatchError, t'.pc.errorCode? = some err.asErrorCode ↔
          Documented cfg.token s.conn i t outcome err) ∧ s.conn.Open c') ∧
      ∀ err, t.pc.error? = some err → t'.pc.error? = some err ∧
        (c' = s.conn.close err ∨ t.pc = .wakeFailed ∧ c' = s.conn.wake)) ∧
    (∀ (i : Nat) (t : Task) (err : DispatchError), s.tasks[i]? = some t →
      t.pc.error? = some err → t.pc ≠ .failed err → s.Closes cfg i err) ∧
    (∀ (i : Nat) (t : Task) (r : Relay) (outcome : Outcome) (s' : Established),
      s.tasks[i]? = some t → t.pc = .relay r →
      (connectionSystem cfg).step s (.task i outcome) = some s' →
      s.conn.Open s'.conn ∧ (∃ t', s'.tasks[i]? = some t' ∧ t'.pc.error? = none) ∧
        ∃ cmd, Carries t.recv.data cmd ∧
          s.conn.udpSessions.SparesOthers (associationOf cmd) s'.conn.udpSessions) ∧
    (∀ (sid : SessionId) (st : SessionStep) (s' : Established),
      (connectionSystem cfg).step s (.session sid st) = some s' →
      s.conn.Open s'.conn ∧ s'.conn.udpSessions.map = s.conn.udpSessions.map ∧
        ∀ sid' ≠ sid, s'.conn.udpSessions.sessions[sid']? = s.conn.udpSessions.sessions[sid']?) ∧
    ∀ (k : Nat) (outcome : Outcome) (s' : Established),
      (connectionSystem cfg).step s (.reply k outcome) = some s' →
      s.conn.Open s'.conn ∧ s'.conn.udpSessions = s.conn.udpSessions := by
  refine ⟨fun i t outcome c' t' hi hstep => ⟨fun hnone => ⟨fun err => ?_, ?_⟩, fun err herr => ?_⟩,
    fun i t err hi herr hopen => closes_of_error? hi herr hopen,
    fun i t r outcome s' hi hpc hstep => relay_confined h hi hpc hstep,
    fun sid st s' hstep => session_confined hstep, fun k outcome s' hstep => reply_confined hstep⟩
  · exact errorCode?_iff_documented (sound_of_reachable h i t hi) hnone hstep err
  · exact (taskStep_cases hstep).open_of_error? hnone
  · exact (taskStep_cases hstep).closes_of_error? herr

/-- The theorem at a handler that has read a digest of no token. -/
theorem dispatch_confined_badDigest :
    ∃ s, (connectionSystem ⟨[⟨List.replicate 32 0, rfl⟩], 1500⟩).Reachable s ∧
      s.Closes ⟨[⟨List.replicate 32 0, rfl⟩], 1500⟩ 0 .authenticationFailed := by
  obtain ⟨s, hs, hp⟩ := System.exists_reachable_of_run
    (connectionSystem ⟨[⟨List.replicate 32 0, rfl⟩], 1500⟩)
    [.handle .acceptUniStream, .stream 0 (.data (4 :: 0 :: List.replicate 32 1)), .task 0 .ok]
    (fun s => decide (s.tasks = [⟨.uniStream, ⟨4 :: 0 :: List.replicate 32 1, 34, .receiving⟩,
      .closeFailed⟩]))
    (by decide)
  have hi : s.tasks[0]? = some ⟨.uniStream, ⟨4 :: 0 :: List.replicate 32 1, 34, .receiving⟩,
      .closeFailed⟩ := by
    rw [of_decide_eq_true hp]
    rfl
  exact ⟨s, hs, (dispatch_confined _ s hs).2.1 0 _ _ hi rfl nofun⟩

end Established

end Tuic.Server
