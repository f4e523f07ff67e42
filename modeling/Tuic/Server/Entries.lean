import Tuic.Server.Handlers

/-! # Entries of the session table and the handlers behind them

What a handler can still do to the session table, where it stands: a packet may still put a session
there until it has pushed its payload (`Pc.mayInsert`), and a `Dissociate` has taken its entry out
by the time its handler returns (`TaskStep.done_of_dissociate`). A handler that fails instead has
closed the connection (`closed_of_failed`). -/

namespace Tuic.Server

open ByteCodec Transition

/-- A handler may still put a session into the table. -/
def Pc.mayInsert : Pc → Bool
  | .relay (.readPayload _ _ _) => true
  | .relay (.send (.push _ _)) => false
  | .relay (.send _) => true
  | .relay _ | .fail _ | .done | .failed _ | .panicked => false
  | _ => true

section Handler

variable {token : List Digest} {c c' : Connection} {i : Nat} {t t' : Task}

/-- A handler that can no longer put a session into the table never can again. -/
theorem TaskStep.mayInsert (h : TaskStep token c i t c' t') (ht' : t'.pc.mayInsert = true) :
    t.pc.mayInsert = true := by
  cases h with
  | relay r u events recv r' hpc hstep =>
    rw [hpc]
    cases hstep with
    | payload assocId len addr hlen => rfl
    | noPayload assocId len addr hst => rfl
    | send call bindOk u' n hstep =>
      cases sendStep_cases hstep with
      -- past the push the call has returned
      | queue p sid ses hses hrun => cases ht'
      | lose p sid ses hses hrun => cases ht'
      | hit p sid h => rfl
      | miss p h => rfl
      | create p => rfl
      | bindFails p => rfl
      | insert p sid => rfl
    | dissociate assocId => cases ht'
    | connect pc outcome events recv' pc' hstep => cases pc' <;> cases ht'
  | poll cmd hpc => rcases hpc with hpc | ⟨hpc, -⟩ <;> rw [hpc] <;> rfl
  | fail err hpc => cases ht'
  | readFails err hpc hst => rw [hpc]; rfl
  | decodes cmd rest hpc hread => rw [hpc]; rfl
  | undecodable err hpc hread hst => rw [hpc]; rfl
  | decoderPanics hpc hread => rw [hpc]; rfl
  | setAuthenticated hpc => rw [hpc]; rfl
  | wakeAuthenticated hpc => rw [hpc]; rfl
  | closeFailed hpc => rw [hpc]; rfl
  | wakeFailed hpc => rw [hpc]; rfl
  | dispatch cmd hpc cell res hres => rw [hpc]; rfl

/-- A `Dissociate` runs as such. -/
theorem Task.Sound.relay_of_dissociate (hs : t.Sound token c) {assocId : UInt32}
    (hc : Carries t.recv.data (.dissociate assocId)) {r : Relay} (hpc : t.pc = .relay r) :
    r = .dissociate assocId := by
  obtain ⟨-, hpcs⟩ := hs
  rw [hpc] at hpcs
  obtain ⟨cmd, task, hcmd, htask, hruns, -⟩ := hpcs
  obtain rfl := hc.unique hcmd
  cases hsrc : t.source <;> rw [hsrc] at htask <;> cases htask
  cases r with
  | dissociate assocId' => rw [show assocId' = assocId from hruns]
  | _ => exact hruns.elim

/-- **A `Dissociate` that returns has removed its entry.** -/
theorem TaskStep.done_of_dissociate (h : TaskStep token c i t c' t') (hs : t.Sound token c)
    {assocId : UInt32} (hc : Carries t.recv.data (.dissociate assocId)) (hdone : t'.pc = .done) :
    t.pc = .relay (.dissociate assocId) ∧
      c'.udpSessions.map = c.udpSessions.map.erase assocId := by
  have hentered := h.enteredBy
  rw [hdone] at hentered
  obtain ⟨hdg, hpcs⟩ := hs
  rcases hentered with hpc | ⟨cmd, cell, hpc, hres⟩ | ⟨r, events, recv, hpc, hstep⟩
  · -- an `Authenticate` is no `Dissociate`
    rw [hpc] at hpcs
    obtain ⟨-, -, digest, -, hauth⟩ := hpcs
    cases hc.unique hauth
  · -- of the commands that reach the `match`, only a heartbeat is done at once
    rw [hpc] at hpcs
    cases dispatch_cases hpcs.1 hpcs.2.1 hres with
    | heartbeat hsrc => cases hc.unique hpcs.1
  · obtain rfl := Task.Sound.relay_of_dissociate ⟨hdg, hpcs⟩ hc hpc
    generalize c'.udpSessions = u at hstep ⊢
    cases hstep with
    | dissociate => exact ⟨hpc, rfl⟩

/-- A handler fails by closing the connection. -/
theorem TaskStep.closes_of_failed (h : TaskStep token c i t c' t') {err : DispatchError}
    (hfailed : t'.pc = .failed err) : c'.controller ≠ none := by
  have hentered := h.enteredBy
  rw [hfailed] at hentered
  rw [hentered.2]
  cases hc : c.controller <;> simp [Connection.close, Connection.emit, hc]

end Handler

namespace Established

variable {cfg : Config} {s s' : Established} {a : Action}

/-- **What is in the session table** was there before, or a handler has just put it there for the
association of its packet. -/
theorem Step.entry_cases (h : Step cfg s a s')
    (hs : All (fun _ t => t.Sound cfg.token s.conn) s.tasks) {assocId : UInt32} {sid : SessionId}
    (hl : s'.conn.udpSessions.map.lookup assocId = some sid) :
    s.conn.udpSessions.map.lookup assocId = some sid ∨
      ∃ (i : Nat) (t : Task) (len : UInt16) (addr : Address), s.tasks[i]? = some t ∧
        t.pc.mayInsert = true ∧ Carries t.recv.data (.packet assocId len addr) := by
  rcases h.task_or_untouched with ⟨i, t, t', hi, -, hstep⟩ | hu
  · rcases hstep.frame.udpSessions with heq | ⟨r, events, recv, r', hpc, hrelay⟩
    · exact Or.inl (heq ▸ hl)
    · generalize s'.conn.udpSessions = u at hrelay hl
      cases hrelay with
      | send call bindOk u' n hstep =>
        rcases UdpPool.map_of_sendStep (sendStep_cases hstep) hl with hl | ⟨p, rfl, rfl⟩
        · exact Or.inl hl
        · -- the call inserts, and it is for the packet of its handler
          obtain ⟨-, hpcs⟩ := hs i t hi
          rw [hpc] at hpcs
          obtain ⟨cmd, task, hcmd, htask, hruns, -⟩ := hpcs
          obtain ⟨len, addr, rfl⟩ := Source.relayTask_send htask hruns
          exact Or.inr ⟨i, t, len, addr, hi, by rw [hpc]; rfl, hcmd⟩
      | dissociate assocId' =>
        refine Or.inl ?_
        have hl : (s.conn.udpSessions.map.erase assocId').lookup assocId = some sid := hl
        by_cases hid : assocId = assocId'
        · subst hid
          rw [AList.lookup_erase] at hl
          cases hl
        · rwa [AList.lookup_erase_ne hid] at hl
      | payload assocId len addr hlen => exact Or.inl hl
      | noPayload assocId len addr hst => exact Or.inl hl
      | connect pc outcome events recv' pc' hstep => exact Or.inl hl
  · exact Or.inl (hu.entry hl)

/-- **A handler that has failed has closed the connection.** -/
theorem closed_of_failed {C : Established → Action → Prop}
    (h : (connectionSystem cfg).ReachableBy C s) :
    All (fun _ t => ∀ err, t.pc = .failed err → s.conn.controller ≠ none) s.tasks := by
  refine h.invariant (I := fun s : Established =>
    All (fun _ t => ∀ err, t.pc = .failed err → s.conn.controller ≠ none) s.tasks) ?_ ?_
  · intro i t hi
    cases hi
  · intro s a s' hs ih _ hs' i t' hi err herr
    have hstep := step_cases hs'
    -- a handler fails in the step that closes the connection, and that is never undone
    rcases hstep.task_cases hi with ⟨hi₀, -⟩ | ⟨-, hfresh⟩ | ⟨outcome, t, rfl, hi₀, htask⟩ |
      ⟨ev, t, recv, rfl, hi₀, -, rfl⟩
    · exact hstep.controller (ih i t' hi₀ err herr)
    · rw [hfresh.1] at herr
      cases herr
    · exact htask.closes_of_failed herr
    · exact hstep.controller (ih i t hi₀ err herr)

end Established

end Tuic.Server
