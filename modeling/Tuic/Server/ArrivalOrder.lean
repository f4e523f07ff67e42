import Tuic.Server.Handlers
import Tuic.Server.Barrier
import Mathlib.Data.Multiset.Filter

/-! # The arrival order of the authentication does not matter

A client may send its commands together with its `Authenticate`, and the items may arrive in any
order. As long as the connection is not disturbed, every relay command is started exactly once, with
its decoded arguments, so the relay tasks that are started depend on the items only
(`started_eq_of_settled`).

Each handler starts its relay task once (`startedOnce_of_reachable`); with valid items nothing ever
closes the connection (`Undisturbed`); and a parked handler is always covered by a wake, pending or
to come (`drained_of_reachable`), so that the system does not come to rest with a handler still in
front of the barrier. -/

namespace Tuic.Server

open ByteCodec Transition

/-! ## What was started -/

/-- The start of a relay task, with the handler that started it. -/
def Event.start? : Event → Option (Nat × RelayTask)
  | .started i task => some (i, task)
  | _ => none

/-- The relay tasks that were started, with the handlers that started them. -/
def starts (log : List Event) : List (Nat × RelayTask) := log.filterMap Event.start?

/-- The relay task the item of a handler asks for, if its bytes carry a command that asks
for one. -/
def Task.relayTask (t : Task) : Option RelayTask :=
  match Command.readFrom t.recv.data with
  | .ok (cmd, _) => t.source.relayTask t.recv.data cmd
  | .error _ => none

/-- The relay task of an item is that of the command it carries. -/
theorem Task.relayTask_of_carries {t : Task} {cmd : Command} (h : Carries t.recv.data cmd) :
    t.relayTask = t.source.relayTask t.recv.data cmd := by
  obtain ⟨rest, hrest⟩ := h
  rw [Task.relayTask, hrest]

/-- A handler has dispatched its command and not failed. -/
def Pc.isStarted : Pc → Bool
  | .relay _ | .done => true
  | _ => false

/-- What a handler has started, where it stands. -/
def Task.startedTask (t : Task) : List RelayTask :=
  if t.pc.isStarted then t.relayTask.toList else []

/-- Recorded events come first. -/
theorem starts_emit (c : Connection) (events : List Event) :
    starts (c.emit events).log = starts events.reverse ++ starts c.log :=
  List.filterMap_append

/-- `connect` starts no relay task. -/
theorem Event.OfConnect.start? {i : Nat} {e : Event} (h : e.OfConnect i) : e.start? = none := by
  cases h <;> rfl

/-- A relay task starts no other. -/
theorem RelayStep.starts_eq {u u' : Udp} {i : Nat} {recv recv' : RecvStream} {r : Relay}
    {events : List Event} {r' : Option Relay} (h : RelayStep u i recv r u' events recv' r') :
    starts events.reverse = [] :=
  List.filterMap_eq_nil_iff.mpr fun e he => (h.ofConnect e (List.mem_reverse.mp he)).start?

/-- A reply task starts no relay task. -/
theorem ReplyStep.starts_eq {cell : UdpPacketFrom} {k : Nat} {pc pc' : ReplyPc}
    {events : List Event} (h : ReplyStep cell k pc events pc') : starts events.reverse = [] := by
  cases h <;> rfl

/-- What `dispatch` starts is what the item asks for, and what it does not start the item does not
ask for, unless the handler fails. -/
theorem startedTask_ofDispatched {token : List Digest} {cell cell' : UdpPacketFrom} {t : Task}
    {cmd : Command} {res : Dispatched} (hc : Carries t.recv.data cmd)
    (hawait : Pc.ofCommand token t.source cmd = .await cmd)
    (hres : dispatch cell t.source t.recv.data cmd = (cell', res)) (i : Nat) :
    starts (res.events i).reverse =
      (Task.startedTask { t with pc := .ofDispatched res }).map (i, ·) := by
  have hrt : ∀ pc, Task.relayTask { t with pc := pc } = t.source.relayTask t.recv.data cmd :=
    fun _ => Task.relayTask_of_carries hc
  cases dispatch_cases hc hawait hres with
  | packet assocId len addr m task hm hcell htask =>
    rw [Task.startedTask, hrt, htask]
    rfl
  | otherMode assocId len addr m m' hm hcell hne => rfl
  | other cmd task hcmd htask =>
    rw [Task.startedTask, hrt, htask]
    rfl
  | heartbeat hsrc =>
    rw [Task.startedTask, hrt, hsrc]
    rfl
  | notAllowed cmd htask hcmd => rfl

/-- A handler that has not dispatched its command has started nothing. -/
theorem Task.startedTask_eq_nil {t : Task} (h : t.pc.isStarted = false) : t.startedTask = [] := by
  rw [Task.startedTask, h]
  rfl

/-- Decoding a command starts nothing. -/
theorem Pc.isStarted_ofCommand (token : List Digest) (src : Source) (cmd : Command) :
    (Pc.ofCommand token src cmd).isStarted = false := by
  rcases Pc.ofCommand_cases token src cmd with h | ⟨-, _, -, ⟨-, h⟩ | ⟨-, h⟩⟩ <;> rw [h] <;> rfl

/-- Polling the barrier starts nothing. -/
theorem Pc.isStarted_ofPoll (cmd : Command) (res : Option Bool) :
    (Pc.ofPoll cmd res).isStarted = false := by
  cases res with
  | none => rfl
  | some b => cases b <;> rfl

/-- **A step of a handler starts what its new place says**, and nothing for any other handler. -/
theorem TaskStep.starts_eq {token : List Digest} {c c' : Connection} {i : Nat} {t t' : Task}
    (h : TaskStep token c i t c' t') (hs : t.Sound token c) :
    ∃ new, starts c'.log = new.map (i, ·) ++ starts c.log ∧
      new ++ t.startedTask = t'.startedTask := by
  obtain ⟨-, hpcs⟩ := hs
  -- before its `match` a handler has started nothing
  have hnot : ∀ {pc : Pc} {t' : Task}, t.pc = pc → pc.isStarted = false →
      t'.pc.isStarted = false → [] ++ t.startedTask = t'.startedTask := by
    intro pc t' hpc h h'
    rw [Task.startedTask_eq_nil (hpc ▸ h), Task.startedTask_eq_nil h']
    rfl
  cases h with
  | decodes cmd rest hpc hread => exact ⟨[], rfl, hnot hpc rfl (Pc.isStarted_ofCommand _ _ _)⟩
  | poll cmd hpc =>
    refine ⟨[], rfl, ?_⟩
    rcases hpc with hpc | ⟨hpc, -⟩
    · exact hnot hpc rfl (Pc.isStarted_ofPoll _ _)
    · exact hnot hpc rfl (Pc.isStarted_ofPoll _ _)
  | wakeAuthenticated hpc =>
    -- the item is an `Authenticate`, which asks for no relay task
    rw [hpc] at hpcs
    obtain ⟨-, hsrc, digest, -, hc⟩ := hpcs
    have hrt : Task.relayTask { t with pc := .done } = none :=
      (Task.relayTask_of_carries (t := { t with pc := .done }) hc).trans (by rw [hsrc]; rfl)
    refine ⟨[], rfl, ?_⟩
    rw [Task.startedTask_eq_nil (hpc ▸ rfl), Task.startedTask, hrt]
    rfl
  | dispatch cmd hpc cell res hres =>
    rw [hpc] at hpcs
    refine ⟨Task.startedTask { t with pc := .ofDispatched res }, ?_, ?_⟩
    · rw [starts_emit, startedTask_ofDispatched hpcs.1 hpcs.2.1 hres]
    · rw [Task.startedTask_eq_nil (t := t) (hpc ▸ rfl), List.append_nil]
  | relay r u events recv r' hpc hstep =>
    obtain ⟨hdata, -⟩ := hstep.stream_eq
    have hrt : Task.relayTask { t with recv := recv, pc := .ofRelay r' } = t.relayTask := by
      simp only [Task.relayTask, hdata]
    refine ⟨[], by rw [starts_emit, hstep.starts_eq]; rfl, ?_⟩
    rw [Task.startedTask, Task.startedTask, hrt, hpc]
    cases r' <;> rfl
  | readFails err hpc hst => exact ⟨[], rfl, hnot hpc rfl rfl⟩
  | undecodable err hpc hread hst => exact ⟨[], rfl, hnot hpc rfl rfl⟩
  | decoderPanics hpc hread => exact ⟨[], rfl, hnot hpc rfl rfl⟩
  | setAuthenticated hpc => exact ⟨[], rfl, hnot hpc rfl rfl⟩
  | closeFailed hpc => exact ⟨[], rfl, hnot hpc rfl rfl⟩
  | wakeFailed hpc => exact ⟨[], rfl, hnot hpc rfl rfl⟩
  | fail err hpc => exact ⟨[], rfl, hnot hpc rfl rfl⟩

namespace Established

variable {cfg : Config} {s s' : Established} {a : Action}

/-- Every handler has started what its place says, and nobody else has started anything. -/
def StartedOnce (s : Established) : Prop :=
  ∀ i, doneBy i (starts s.conn.log) = (s.tasks[i]?.map Task.startedTask).getD []

end Established

/-- A handler that has dispatched its command has decoded one. -/
theorem Pc.Sound.carries {token : List Digest} {c : Connection} {src : Source} {recv : RecvStream}
    {pc : Pc} (hpc : pc.isStarted = true) (h : pc.Sound token c src recv) :
    ∃ cmd, Carries recv.data cmd := by
  cases pc with
  | relay r =>
    obtain ⟨cmd, -, hc, -⟩ := h
    exact ⟨cmd, hc⟩
  | done =>
    obtain ⟨cmd, hc, -⟩ := h
    exact ⟨cmd, hc⟩
  | _ => cases hpc

/-- More bytes on the stream of a handler do not change what it has started. -/
theorem Task.startedTask_on {token : List Digest} {c : Connection} {t : Task} {ev : StreamEvent}
    {recv : RecvStream} (hs : t.Sound token c) (hon : t.recv.on ev = some recv) :
    Task.startedTask { t with recv := recv } = t.startedTask := by
  obtain ⟨hst, -, x, hx⟩ := RecvStream.on_cases hon
  have hsrc : t.source ≠ .datagram := by
    intro hsrc
    rw [hs.1 hsrc] at hst
    cases hst
  cases hpc : t.pc.isStarted with
  | false =>
    exact (Task.startedTask_eq_nil (t := { t with recv := recv }) hpc).trans
      (Task.startedTask_eq_nil hpc).symm
  | true =>
    obtain ⟨cmd, hc⟩ := Pc.Sound.carries hpc hs.2
    -- the command is there already, and only a datagram has its payload in the item
    have hrt : Task.relayTask { t with recv := recv } = t.relayTask := by
      rw [Task.relayTask_of_carries hc,
        Task.relayTask_of_carries (t := { t with recv := recv }) (hx ▸ hc.append x), hx]
      exact Source.relayTask_append hsrc _ _ _
    rw [Task.startedTask, Task.startedTask, hrt]

namespace Established

variable {cfg : Config} {s s' : Established} {a : Action}

/-- **Starts follow places**: what a step starts for a handler is what its place adds. -/
theorem Step.starts_cases (h : Step cfg s a s')
    (hs : All (fun _ t => t.Sound cfg.token s.conn) s.tasks) (i : Nat) :
    ∃ new, doneBy i (starts s'.conn.log) = new ++ doneBy i (starts s.conn.log) ∧
      (s'.tasks[i]?.map Task.startedTask).getD [] =
        new ++ (s.tasks[i]?.map Task.startedTask).getD [] := by
  cases h with
  | task k outcome t t' conn hk hstep =>
    obtain ⟨new, hlog, hnew⟩ := hstep.starts_eq (hs k t hk)
    -- the log grows by entries of handler `k` alone
    by_cases hki : k = i
    · subst hki
      refine ⟨new, ?_, ?_⟩
      · rw [hlog, doneBy_append, doneBy_map_self]
      · show ((s.tasks.set k t')[k]?.map Task.startedTask).getD [] = _
        rw [getElem?_set_of_some hk, hk]
        exact hnew.symm
    · refine ⟨[], ?_, ?_⟩
      · rw [hlog, doneBy_append, doneBy_map_of_ne hki]
      · show ((s.tasks.set k t')[i]?.map Task.startedTask).getD [] = _
        rw [List.getElem?_set_ne hki]
        rfl
  | accept st t b hhandle hfresh =>
    refine ⟨[], rfl, ?_⟩
    show ((s.tasks ++ [t])[i]?.map Task.startedTask).getD [] = _
    have hnil : t.startedTask = [] := Task.startedTask_eq_nil (hfresh.1 ▸ rfl)
    rcases Nat.lt_trichotomy i s.tasks.length with hlt | heq | hgt
    · rw [List.getElem?_append_left hlt]
      rfl
    · subst heq
      simp [hnil]
    · rw [List.getElem?_eq_none (by simp; omega), List.getElem?_eq_none (by omega)]
      rfl
  | stream k ev t recv hk hon =>
    refine ⟨[], rfl, ?_⟩
    show ((s.tasks.set k _)[i]?.map Task.startedTask).getD [] = _
    by_cases hki : k = i
    · subst hki
      rw [getElem?_set_of_some hk, hk]
      exact Task.startedTask_on (hs k t hk) hon
    · rw [List.getElem?_set_ne hki]
      rfl
  | reply k outcome pc pc' events hk hstep =>
    refine ⟨[], ?_, rfl⟩
    rw [starts_emit, (replyStep_cases hstep).starts_eq]
    rfl
  | receive r rest b hhandle hrecv => exact ⟨[], rfl, rfl⟩
  | listenerEnds reason b hhandle hclosed => exact ⟨[], rfl, rfl⟩
  | pollPending hhandle hpoll => exact ⟨[], rfl, rfl⟩
  | pollReady hhandle res hpoll => exact ⟨[], rfl, rfl⟩
  | timeout hhandle => exact ⟨[], rfl, rfl⟩
  | timeoutClose hhandle => exact ⟨[], rfl, rfl⟩
  | timeoutWake hhandle => exact ⟨[], rfl, rfl⟩
  | unreachable hhandle => exact ⟨[], rfl, rfl⟩
  | setClosed err hhandle => exact ⟨[], rfl, rfl⟩
  | session sid st u hstep => exact ⟨[], rfl, rfl⟩
  | peerClose err => exact ⟨[], rfl, rfl⟩
  | drop hhandle htasks hreplies => exact ⟨[], rfl, rfl⟩

/-- **Every handler starts its relay task once**, in every reachable state. -/
theorem startedOnce_of_reachable {C : Established → Action → Prop}
    (h : (connectionSystem cfg).ReachableBy C s) : s.StartedOnce := by
  refine h.invariant (I := StartedOnce) (fun i => rfl) ?_
  intro s a s' hs ih _ hstep i
  obtain ⟨new, hlog, htasks⟩ := (step_cases hstep).starts_cases (sound_of_reachable hs) i
  rw [hlog, htasks, ih i]

/-! ## Runs in which nothing disturbs the connection -/

end Established

/-- A handler has read its command. -/
def Pc.hasRead : Pc → Bool
  | .read | .fail (.io _) | .failed (.io _) => false
  | _ => true

/-- What was read stays read. -/
theorem TaskStep.hasRead {token : List Digest} {c c' : Connection} {i : Nat} {t t' : Task}
    (h : TaskStep token c i t c' t') (hpc : t'.pc.hasRead = false) : t.pc.hasRead = false := by
  have hentered := h.enteredBy
  unfold Pc.hasRead at hpc
  split at hpc
  · rename_i heq
    rw [heq] at hentered
    exact hentered.elim
  · rename_i e heq
    rw [heq] at hentered
    rw [hentered ⟨e, rfl⟩]
    rfl
  · rename_i e heq
    rw [heq] at hentered
    rw [hentered.1]
    rfl
  · cases hpc

namespace Established

/-- The peer does not close the connection, and resets no stream whose command is not read, and the
authentication does not time out. -/
def undisturbed (s : Established) : Action → Bool
  | .peerClose _ => false
  -- a reset after the command is read reaches the relay task only
  | .stream i .reset => (s.tasks[i]?.map fun t => t.pc.hasRead).getD true
  | .handle .timeout => false
  | _ => true

end Established

/-- A handler has closed the connection for a reason of its own. -/
def Pc.hasClosed : Pc → Prop
  | .wakeFailed => True
  | .fail err => err = .authenticationFailed
  | .failed err => err ≠ .authenticationTimeout
  | _ => False

/-- A handler that has closed the connection remains one. -/
theorem TaskStep.hasClosed {token : List Digest} {c c' : Connection} {i : Nat} {t t' : Task}
    (h : TaskStep token c i t c' t') (hclosed : t.pc.hasClosed) : t'.pc.hasClosed := by
  cases h with
  | wakeFailed hpc => exact rfl
  | fail err hpc =>
    rw [hpc] at hclosed
    rw [show err = _ from hclosed]
    exact fun h => by cases h
  | poll cmd hpc => rcases hpc with hpc | ⟨hpc, -⟩ <;> rw [hpc] at hclosed <;> exact hclosed.elim
  | readFails err hpc hst => rw [hpc] at hclosed; exact hclosed.elim
  | decodes cmd rest hpc hread => rw [hpc] at hclosed; exact hclosed.elim
  | undecodable err hpc hread hst => rw [hpc] at hclosed; exact hclosed.elim
  | decoderPanics hpc hread => rw [hpc] at hclosed; exact hclosed.elim
  | setAuthenticated hpc => rw [hpc] at hclosed; exact hclosed.elim
  | wakeAuthenticated hpc => rw [hpc] at hclosed; exact hclosed.elim
  | closeFailed hpc => rw [hpc] at hclosed; exact hclosed.elim
  | dispatch cmd hpc cell res hres => rw [hpc] at hclosed; exact hclosed.elim
  | relay r u events recv r' hpc hstep => rw [hpc] at hclosed; exact hclosed.elim

/-- A handler closes an open connection for a reason of its own: it does not run into the timeout
before somebody else has closed the connection. -/
theorem TaskStep.closes {token : List Digest} {c c' : Connection} {i : Nat} {t t' : Task}
    (h : TaskStep token c i t c' t') (hs : t.Sound token c) (hopen : c.controller = none)
    (hflag : c.isAuthenticated.isConnectionClosed.check = false) :
    c'.controller = none ∨ t'.pc.hasClosed := by
  rcases h.frame.controller with heq | hpc' | ⟨err, hpc, hpc'⟩
  · exact Or.inl (heq.trans hopen)
  · rw [hpc']
    exact Or.inr trivial
  · rw [hpc']
    -- a handler times out only after `set_closed`, and the flag is unset
    refine Or.inr fun herr => ?_
    have hpcs := hs.2
    rw [hpc, herr] at hpcs
    obtain ⟨-, -, -, hclosed⟩ := hpcs
    rw [hflag] at hclosed
    cases hclosed

namespace Established

variable {cfg : Config} {s s' : Established} {a : Action}

/-- While the QUIC connection is open, the handle task listens and the closed flag is unset. -/
structure Open (s : Established) : Prop where
  /-- The handle task listens. -/
  handle : ∃ b, s.handle = .listening b
  /-- The flag is unset. -/
  flag : s.conn.isAuthenticated.isConnectionClosed.check = false

/-- What holds of a connection that nothing disturbs: every stream whose command is not read is
there, and the connection is open, or some handler has closed it for a reason of its own. -/
structure Undisturbed (s : Established) : Prop where
  /-- No stream has failed before its command was read. -/
  streams : All (fun _ t => t.pc.hasRead = false → t.recv.status ≠ .failed) s.tasks
  /-- Only a handler closes the connection. -/
  closer : s.conn.controller = none ∧ s.Open ∨
    ∃ (i : Nat) (t : Task), s.tasks[i]? = some t ∧ t.pc.hasClosed

/-- No stream fails before its command is read. -/
theorem Undisturbed.streams_step (hu : s.Undisturbed) (h : Step cfg s a s')
    (hok : s.undisturbed a = true) :
    All (fun _ t => t.pc.hasRead = false → t.recv.status ≠ .failed) s'.tasks := by
  intro j t' hj hread
  rcases h.task_cases hj with ⟨hj, -⟩ | ⟨-, hfresh⟩ | ⟨-, t, -, hj, hstep⟩ |
    ⟨ev, t, recv, rfl, hj₀, hon, rfl⟩
  · exact hu.streams j t' hj hread
  · by_cases hsrc : t'.source = .datagram
    · rw [hfresh.2.2.1 hsrc]
      decide
    · rw [(hfresh.2.2.2 hsrc).2]
      decide
  · rw [hstep.stream_eq.2.2]
    exact hu.streams j t hj (hstep.hasRead hread)
  · unfold RecvStream.on at hon
    split at hon
    · cases ev with
      | reset =>
        have hread : t.pc.hasRead = false := hread
        rw [undisturbed, hj₀] at hok
        rw [show t.pc.hasRead = true from hok] at hread
        cases hread
      | data bytes =>
        cases hon
        exact hu.streams j t hj₀ hread
      | finish =>
        cases hon
        exact fun h => by cases h
    · cases hon

/-- An open connection stays open until a handler closes it. -/
theorem Open.step (ho : s.Open) (hopen : s.conn.controller = none)
    (hs : All (fun _ t => t.Sound cfg.token s.conn) s.tasks) (h : Step cfg s a s')
    (hok : s.undisturbed a = true) :
    s'.conn.controller = none ∧ s'.Open ∨
      ∃ (i : Nat) (t : Task), s'.tasks[i]? = some t ∧ t.pc.hasClosed := by
  obtain ⟨⟨b, hb⟩, hflag⟩ := ho
  cases h with
  | task i outcome t t' conn hi hstep =>
    rcases hstep.closes (hs i t hi) hopen hflag with hnone | hclosed
    · exact Or.inl ⟨hnone, ⟨b, hb⟩, hstep.frame.closed ▸ hflag⟩
    · exact Or.inr ⟨i, t', getElem?_set_of_some hi, hclosed⟩
  | pollPending hhandle hpoll =>
    exact Or.inl ⟨hopen, ⟨b, hb⟩, (s.conn.poll_flags .handle).2 ▸ hflag⟩
  | pollReady hhandle res hpoll =>
    exact Or.inl ⟨hopen, ⟨false, rfl⟩, (s.conn.poll_flags .handle).2 ▸ hflag⟩
  -- the listeners end with the connection, which is open
  | listenerEnds reason b' hhandle hclosed =>
    rw [hopen] at hclosed
    cases hclosed
  | timeout hhandle => cases hok
  | peerClose err => cases hok
  | timeoutClose hhandle =>
    rw [hb] at hhandle
    cases hhandle
  | timeoutWake hhandle =>
    rw [hb] at hhandle
    cases hhandle
  | unreachable hhandle =>
    rw [hb] at hhandle
    cases hhandle
  | setClosed err hhandle =>
    rw [hb] at hhandle
    cases hhandle
  | drop hhandle htasks hreplies =>
    rw [hb] at hhandle
    cases hhandle
  | accept st t b' hhandle hfresh => exact Or.inl ⟨hopen, ⟨b, hb⟩, hflag⟩
  | receive r rest b' hhandle hrecv => exact Or.inl ⟨hopen, ⟨b, hb⟩, hflag⟩
  | reply k outcome pc pc' events hk hstep => exact Or.inl ⟨hopen, ⟨b, hb⟩, hflag⟩
  | session sid st u hstep => exact Or.inl ⟨hopen, ⟨b, hb⟩, hflag⟩
  | stream i ev t recv hi hrecv => exact Or.inl ⟨hopen, ⟨b, hb⟩, hflag⟩

/-- What holds of an undisturbed connection, in every state of such a run. -/
theorem undisturbed_of_reachable
    (h : (connectionSystem cfg).ReachableBy (fun s a => s.undisturbed a = true) s) :
    s.Undisturbed := by
  refine h.invariant (I := Undisturbed) ⟨All.nil, Or.inl ⟨rfl, ⟨true, rfl⟩, rfl⟩⟩ ?_
  intro s a s' hs hu hok hs'
  have hstep := step_cases hs'
  refine ⟨hu.streams_step hstep hok, ?_⟩
  rcases hu.closer with ⟨hnone, ho⟩ | ⟨i, t, hi, hclosed⟩
  · exact ho.step hnone (sound_of_reachable hs) hstep hok
  · rcases hstep.task_keep hi with ⟨recv, hi', -⟩ | ⟨-, t', -, hi', htask⟩
    · exact Or.inr ⟨i, _, hi', hclosed⟩
    · exact Or.inr ⟨i, t', hi', htask.hasClosed hclosed⟩

/-! ## Where the relay mode comes from -/

/-- The bytes of a handler's item go on carrying their command. -/
theorem Step.carries_keep (h : Step cfg s a s') {i : Nat} {t : Task} {cmd : Command}
    (hi : s.tasks[i]? = some t) (hc : Carries t.recv.data cmd) :
    ∃ t', s'.tasks[i]? = some t' ∧ t'.source = t.source ∧ Carries t'.recv.data cmd := by
  rcases h.task_keep hi with ⟨recv, hi', rfl | ⟨ev, hon⟩⟩ | ⟨-, t', -, hi', hstep⟩
  · exact ⟨_, hi', rfl, hc⟩
  · obtain ⟨-, -, x, hx⟩ := RecvStream.on_cases hon
    exact ⟨_, hi', rfl, hx ▸ hc.append x⟩
  · obtain ⟨hsrc, hdata, -⟩ := hstep.stream_eq
    exact ⟨t', hi', hsrc, hdata ▸ hc⟩

/-- Some handler has a packet on a channel of the mode `m`. -/
def HasPacket (s : Established) (m : UdpPacketSource) : Prop :=
  ∃ (i : Nat) (t : Task) (assocId : UInt32) (len : UInt16) (addr : Address),
    s.tasks[i]? = some t ∧ t.source.mode = some m ∧
      Carries t.recv.data (.packet assocId len addr)

/-- The relay mode is changed by a handler with a packet of that mode. -/
theorem Step.mode_cases (h : Step cfg s a s')
    (hs : All (fun _ t => t.Sound cfg.token s.conn) s.tasks) {m : UdpPacketSource}
    (hm : s'.conn.udpPacketFrom = some m) : s.conn.udpPacketFrom = some m ∨ s.HasPacket m := by
  rcases h.task_or_untouched with ⟨i, t, t', hi, -, hstep⟩ | hu
  · rcases hstep.frame.mode with heq | ⟨cmd, res, hpc, hres⟩
    · exact Or.inl (heq.symm.trans hm)
    · have hpcs := (hs i t hi).2
      rw [hpc] at hpcs
      obtain ⟨hc, hawait, -⟩ := hpcs
      generalize s'.conn.udpPacketFrom = cell at hm hres
      cases dispatch_cases hc hawait hres with
      | packet assocId len addr m' task hm' hcell htask =>
        cases hm
        exact Or.inr ⟨i, t, assocId, len, addr, hi, hm', hc⟩
      | otherMode assocId len addr m' m'' hm' hcell hne => exact Or.inl hm
      | other cmd task hcmd htask => exact Or.inl hm
      | heartbeat hsrc => exact Or.inl hm
      | notAllowed cmd htask hcmd => exact Or.inl hm
  · exact Or.inl (hu.mode.symm.trans hm)

/-- **The relay mode is that of a packet**, in every reachable state. -/
theorem hasPacket_of_reachable {C : Established → Action → Prop}
    (h : (connectionSystem cfg).ReachableBy C s) {m : UdpPacketSource}
    (hm : s.conn.udpPacketFrom = some m) : s.HasPacket m := by
  revert m
  refine h.invariant (I := fun s => ∀ {m}, s.conn.udpPacketFrom = some m → s.HasPacket m) ?_ ?_
  · intro m hm
    cases hm
  · intro s a s' hs ih _ hs' m hm
    have hstep := step_cases hs'
    -- the packet that fixed the mode stays the item of its handler
    have hold : s.HasPacket m := (hstep.mode_cases (sound_of_reachable hs) hm).elim ih id
    obtain ⟨i, t, assocId, len, addr, hi, hsrc, hc⟩ := hold
    obtain ⟨t', hi', hsrc', hc'⟩ := hstep.carries_keep hi hc
    exact ⟨i, t', assocId, len, addr, hi', hsrc' ▸ hsrc, hc'⟩

end Established

/-! ## Valid items -/

/-- The command is valid on its channel: a valid `Authenticate` or a heartbeat on a unidirectional
stream, or one that asks for a relay task there, packets being on channels of the mode `m`. -/
def Source.Accepts (token : List Digest) (m : UdpPacketSource) (src : Source) (data : Bytes)
    (cmd : Command) : Prop :=
  src = .uniStream ∧ (cmd = .heartbeat ∨ ∃ digest ∈ token, cmd = .authenticate digest) ∨
    src.relayTask data cmd ≠ none ∧
      ∀ assocId len addr, cmd = .packet assocId len addr → src.mode = some m

/-- A valid item gives no reason to fail, as long as the connection is open. -/
theorem FailsWith.elim {token : List Digest} {c : Connection} {src : Source} {recv : RecvStream}
    {err : DispatchError} {m : UdpPacketSource} {cmd : Command}
    (h : FailsWith token c src recv err) (hc : Carries recv.data cmd)
    (hacc : src.Accepts token m recv.data cmd) (hst : ∀ e, err = .io e → recv.status ≠ .failed)
    (hopen : err = .authenticationTimeout →
      c.isAuthenticated.isConnectionClosed.check = false)
    (hmode : ∀ {m'}, c.udpPacketFrom = some m' → m' = m) : False := by
  -- for each error, its documented reason contradicts the validity of the item
  cases err with
  | io e =>
    rcases h with hfailed | ⟨e', he', -⟩
    · exact hst e rfl hfailed
    · obtain ⟨rest, hrest⟩ := hc
      rw [hrest] at he'
      cases he'
  | authenticationFailed =>
    obtain ⟨hsrc, digest, hd, hc'⟩ := h
    obtain rfl := hc.unique hc'
    rcases hacc with ⟨-, hbeat | ⟨digest', hd', heq⟩⟩ | ⟨htask, -⟩
    · cases hbeat
    · cases heq
      exact hd hd'
    · rw [hsrc] at htask
      exact htask rfl
  | authenticationTimeout =>
    obtain ⟨-, -, -, hclosed⟩ := h
    rw [hopen rfl] at hclosed
    cases hclosed
  | badCommand =>
    obtain ⟨cmd', hc', hawait, -, hbad⟩ := h
    obtain rfl := hc.unique hc'
    rcases hbad with ⟨hnone, hbeat⟩ | ⟨assocId, len, addr, m', hcmd, hm', hne⟩
    · rcases hacc with ⟨hsrc, hb | ⟨digest, hd, rfl⟩⟩ | ⟨htask, -⟩
      · exact hbeat ⟨hsrc, hb⟩
      · rw [hsrc, Pc.ofCommand, if_pos hd] at hawait
        cases hawait
      · exact htask hnone
    · rcases hacc with ⟨-, hb | ⟨digest, -, hauth⟩⟩ | ⟨-, hpkt⟩
      · rw [hcmd] at hb
        cases hb
      · rw [hcmd] at hauth
        cases hauth
      · exact hne (by rw [hpkt assocId len addr hcmd, hmode hm'])

/-- An incoming item: its channel, its command and, for a datagram, its bytes, in which the payload
of a packet is. -/
structure Item where
  /-- The channel. -/
  source : Source
  /-- The command. -/
  cmd : Command
  /-- The bytes of a datagram. -/
  data : Bytes
  deriving DecidableEq

namespace Item

/-- The relay task of an item, with its decoded arguments. -/
def relayTask (it : Item) : Option RelayTask := it.source.relayTask it.data it.cmd

/-- The item is valid on its channel. -/
def Valid (token : List Digest) (m : UdpPacketSource) (it : Item) : Prop :=
  it.source.Accepts token m it.data it.cmd

end Item

namespace Task

/-- The item of a handler, once its command is there. -/
def item (t : Task) : Option Item :=
  match Command.readFrom t.recv.data with
  | .ok (cmd, _) => some ⟨t.source, cmd, if t.source = .datagram then t.recv.data else []⟩
  | .error _ => none

variable {t : Task} {it : Item}

/-- What a handler with an item has in hand. -/
theorem carries_of_item (h : t.item = some it) :
    t.source = it.source ∧ Carries t.recv.data it.cmd ∧
      t.source.relayTask t.recv.data it.cmd = it.relayTask := by
  unfold item at h
  split at h
  · rename_i cmd rest hread
    cases h
    refine ⟨rfl, ⟨rest, hread⟩, ?_⟩
    show _ = t.source.relayTask _ cmd
    split
    · rfl
    · rename_i hsrc
      exact Source.relayTask_append hsrc [] t.recv.data cmd
  · cases h

/-- The relay task of a handler is that of its item. -/
theorem relayTask_of_item (h : t.item = some it) : t.relayTask = it.relayTask := by
  obtain ⟨-, hc, htask⟩ := carries_of_item h
  rw [Task.relayTask_of_carries hc, htask]

/-- A handler with a valid item accepts its command. -/
theorem accepts_of_item {token : List Digest} {m : UdpPacketSource} (h : t.item = some it)
    (hvalid : it.Valid token m) : t.source.Accepts token m t.recv.data it.cmd := by
  obtain ⟨hsrc, -, htask⟩ := carries_of_item h
  rw [Source.Accepts, htask, hsrc]
  exact hvalid

end Task

namespace Established

variable {cfg : Config} {s : Established} {m : UdpPacketSource}

/-- Every handler has a valid item. -/
def ValidItems (token : List Digest) (m : UdpPacketSource) (s : Established) : Prop :=
  All (fun _ t => ∃ it, t.item = some it ∧ it.Valid token m) s.tasks

/-- With valid items the relay mode is theirs. -/
theorem ValidItems.mode {C : Established → Action → Prop} (hv : s.ValidItems cfg.token m)
    (hs : (connectionSystem cfg).ReachableBy C s) {m' : UdpPacketSource}
    (hm' : s.conn.udpPacketFrom = some m') : m' = m := by
  obtain ⟨i, t, assocId, len, addr, hi, hsrc, hc⟩ := hasPacket_of_reachable hs hm'
  obtain ⟨it, hit, hvalid⟩ := hv i t hi
  have hcmd := hc.unique (Task.carries_of_item hit).2.1
  rcases Task.accepts_of_item hit hvalid with ⟨-, hb | ⟨digest, -, ha⟩⟩ | ⟨-, hpkt⟩
  · rw [hb] at hcmd
    cases hcmd
  · rw [ha] at hcmd
    cases hcmd
  · rw [hpkt assocId len addr hcmd.symm] at hsrc
    exact (Option.some.inj hsrc).symm

section Undisturbed

variable (hs : (connectionSystem cfg).ReachableBy (fun s a => s.undisturbed a = true) s)
  (hv : s.ValidItems cfg.token m)

include hs hv

/-- With valid items no handler has a reason to fail while the connection is open. -/
theorem ValidItems.not_failsWith {i : Nat} {t : Task} (hi : s.tasks[i]? = some t)
    (err : DispatchError) (hread : ∀ e, err = .io e → t.pc.hasRead = false)
    (hopen : err = .authenticationTimeout →
      s.conn.isAuthenticated.isConnectionClosed.check = false) :
    ¬ FailsWith cfg.token s.conn t.source t.recv err := by
  intro hfails
  obtain ⟨it, hit, hvalid⟩ := hv i t hi
  exact hfails.elim (Task.carries_of_item hit).2.1 (Task.accepts_of_item hit hvalid)
    (fun e he => (undisturbed_of_reachable hs).streams i t hi (hread e he)) hopen (hv.mode hs)

/-- **Valid items leave the connection open.** -/
theorem ValidItems.open : s.conn.controller = none ∧ s.Open := by
  refine (undisturbed_of_reachable hs).closer.resolve_right ?_
  rintro ⟨i, t, hi, hclosed⟩
  have hpcs := (sound_of_reachable hs i t hi).2
  cases hpc : t.pc with
  | wakeFailed =>
    rw [hpc] at hpcs
    exact hv.not_failsWith hs hi .authenticationFailed (fun _ h => by cases h)
      (fun h => by cases h) hpcs
  | fail err =>
    rw [hpc] at hpcs hclosed
    obtain rfl : err = .authenticationFailed := hclosed
    exact hv.not_failsWith hs hi .authenticationFailed (fun _ h => by cases h)
      (fun h => by cases h) hpcs
  | failed err =>
    rw [hpc] at hpcs hclosed
    refine hv.not_failsWith hs hi err (fun e he => ?_) (fun h => absurd h hclosed) hpcs
    rw [hpc, he]
    rfl
  | _ =>
    rw [hpc] at hclosed
    exact hclosed

end Undisturbed

/-! ## At rest -/

/-- No handler in front of its relay task can step any more. -/
def Settled (cfg : Config) (s : Established) : Prop :=
  ∀ i t outcome, s.tasks[i]? = some t → t.pc.isStarted = false →
    (connectionSystem cfg).step s (.task i outcome) = none

/-- Where a handler in front of its relay task is at rest: its command is not there yet, it is
parked without a wake pending, or it has failed. -/
theorem Settled.pc_cases (h : s.Settled cfg) {i : Nat} {t : Task} (hi : s.tasks[i]? = some t)
    (hpc : t.pc.isStarted = false) :
    (∀ cmd, ¬ Carries t.recv.data cmd) ∨ (∃ cmd, t.pc = .parked cmd ∧ .handler i ∉ s.conn.woken) ∨
      (∃ err, t.pc = .failed err) ∨ t.pc = .panicked := by
  -- a step with the outcome `ok` is enough to tell
  have hnone : t.step cfg.token s.conn i .ok = none := by
    have hstep := h i t .ok hi hpc
    simp only [connectionSystem, step, hi] at hstep
    split at hstep
    · cases hstep
    · assumption
  obtain ⟨src, recv, pc⟩ := t
  cases pc with
  | read =>
    refine Or.inl ?_
    rintro cmd ⟨rest, hread⟩
    simp only [Task.step, Task.readCommand, hread] at hnone
    cases hnone
  | parked cmd =>
    refine Or.inr (Or.inl ⟨cmd, rfl, fun hw => ?_⟩)
    simp only [Task.step, hw, if_true] at hnone
    cases hnone
  | failed err => exact Or.inr (Or.inr (Or.inl ⟨err, rfl⟩))
  | panicked => exact Or.inr (Or.inr (Or.inr rfl))
  | relay r => cases hpc
  | done => cases hpc
  | _ => cases hnone

section AtRest

variable (hs : (connectionSystem cfg).ReachableBy (fun s a => s.undisturbed a = true) s)
  (hv : s.ValidItems cfg.token m) (hrest : s.Settled cfg)

include hs hv hrest

/-- With valid items, a handler at rest in front of its relay task is parked. -/
theorem Settled.parked {i : Nat} {t : Task} (hi : s.tasks[i]? = some t)
    (hpc : t.pc.isStarted = false) : ∃ cmd, t.pc = .parked cmd ∧ .handler i ∉ s.conn.woken := by
  have hpcs := (sound_of_reachable hs i t hi).2
  -- a valid item has its command, no reason to fail, and does not panic
  rcases hrest.pc_cases hi hpc with hread | hparked | ⟨err, herr⟩ | hpanic
  · obtain ⟨it, hit, -⟩ := hv i t hi
    exact absurd (Task.carries_of_item hit).2.1 (hread it.cmd)
  · exact hparked
  · rw [herr] at hpcs
    refine absurd hpcs (hv.not_failsWith hs hi err (fun e he => ?_) fun _ => (hv.open hs).2.flag)
    rw [herr, he]
    rfl
  · rw [hpanic] at hpcs
    exact hpcs.elim

/-- At rest, the handler of an `Authenticate` has authenticated the client. -/
theorem Settled.authenticated {i : Nat} {t : Task} {digest : Digest} (hi : s.tasks[i]? = some t)
    (hsrc : t.source = .uniStream) (hc : Carries t.recv.data (.authenticate digest)) :
    s.conn.isAuthenticated.isAuthenticated = true := by
  have hpcs := (sound_of_reachable hs i t hi).2
  cases hpc : t.pc.isStarted with
  | false =>
    -- it does not park: it never polls the barrier
    obtain ⟨cmd, hparked, -⟩ := hrest.parked hs hv hi hpc
    rw [hparked] at hpcs
    obtain ⟨hcmd, hawait⟩ := hpcs
    obtain rfl := hc.unique hcmd
    rw [hsrc, Pc.ofCommand] at hawait
    split at hawait <;> cases hawait
  | true =>
    cases hp : t.pc with
    | relay r =>
      rw [hp] at hpcs
      obtain ⟨_, _, -, -, -, hflag, -⟩ := hpcs
      exact hflag
    | done =>
      rw [hp] at hpcs
      obtain ⟨_, -, hflag, -⟩ := hpcs
      exact hflag
    | _ =>
      rw [hp] at hpc
      cases hpc

/-- **At rest every handler has dispatched its command**, once the client is authenticated. -/
theorem Settled.isStarted (hflag : s.conn.isAuthenticated.isAuthenticated = true) {i : Nat}
    {t : Task} (hi : s.tasks[i]? = some t) : t.pc.isStarted = true := by
  cases hpc : t.pc.isStarted with
  | true => rfl
  | false =>
    obtain ⟨cmd, hparked, hw⟩ := hrest.parked hs hv hi hpc
    rcases drained_of_reachable hs hflag with ⟨k, t', hk, hwake⟩ | hwoken
    · -- the handler that is about to drain the list is not at rest
      obtain ⟨cmd', hparked', -⟩ := hrest.parked hs hv hk (hwake ▸ rfl)
      rw [hwake] at hparked'
      cases hparked'
    · exact absurd (hwoken i ⟨t, cmd, hi, hparked⟩) hw

end AtRest

/-- **The arrival order does not matter.** Take any finite multiset of items that are valid on their
channels, one of them an `Authenticate`, all packets being on channels of one mode. In whatever
order they arrive and however the handlers interleave, as long as nothing disturbs the connection:
when no handler in front of its relay task can step any more, every handler has started the relay
task of its item exactly once, with its decoded arguments, and nothing else; so the multiset of the
relay tasks started is that of the items. -/
theorem started_eq_of_settled (cfg : Config) (m : UdpPacketSource) (items : Multiset Item)
    (hvalid : ∀ it ∈ items, it.Valid cfg.token m)
    (hauth : ∃ it ∈ items, it.source = .uniStream ∧ ∃ digest, it.cmd = .authenticate digest)
    (s : Established)
    (hs : (connectionSystem cfg).ReachableBy (fun s a => s.undisturbed a = true) s)
    (hitems : (s.tasks.map Task.item : Multiset (Option Item)) = items.map some)
    (hrest : s.Settled cfg) :
    (∀ i t, s.tasks[i]? = some t → doneBy i (starts s.conn.log) = t.relayTask.toList) ∧
      ((starts s.conn.log).map Prod.snd : Multiset RelayTask) =
        items.filterMap Item.relayTask := by
  have hmem : ∀ {o}, o ∈ s.tasks.map Task.item ↔ ∃ it ∈ items, some it = o := by
    intro o
    rw [← Multiset.mem_coe, hitems, Multiset.mem_map]
  have hv : s.ValidItems cfg.token m := by
    intro i t hi
    obtain ⟨it, hit, heq⟩ := hmem.mp (List.mem_map_of_mem (List.mem_of_getElem? hi))
    exact ⟨it, heq.symm, hvalid it hit⟩
  have hflag : s.conn.isAuthenticated.isAuthenticated = true := by
    obtain ⟨it, hit, hsrc, digest, hcmd⟩ := hauth
    obtain ⟨t, ht, heq⟩ := List.mem_map.mp (hmem.mpr ⟨it, hit, rfl⟩)
    obtain ⟨i, hi⟩ := List.getElem?_of_mem ht
    obtain ⟨hsrc', hc, -⟩ := Task.carries_of_item heq
    exact hrest.authenticated hs hv hi (hsrc'.trans hsrc) (hcmd ▸ hc)
  -- every handler is past its `match`, so what it started is what its item asks for
  have hdone : ∀ i, doneBy i (starts s.conn.log) = (s.tasks[i]?.bind Task.relayTask).toList := by
    intro i
    rw [startedOnce_of_reachable hs i]
    cases hi : s.tasks[i]? with
    | none => rfl
    | some t =>
      show t.startedTask = t.relayTask.toList
      rw [Task.startedTask, if_pos (hrest.isStarted hs hv hflag hi)]
  refine ⟨fun i t hi => by rw [hdone i, hi]; rfl, ?_⟩
  calc ((starts s.conn.log).map Prod.snd : Multiset RelayTask)
      = (s.tasks.filterMap Task.relayTask : Multiset RelayTask) :=
        Multiset.coe_eq_coe.mpr (perm_of_doneBy hdone)
    _ = (s.tasks.map Task.item : Multiset (Option Item)).filterMap
          (fun o => o.bind Item.relayTask) := by
        rw [Multiset.filterMap_coe, List.filterMap_map]
        refine congrArg _ (List.filterMap_congr fun t ht => ?_)
        obtain ⟨it, -, heq⟩ := hmem.mp (List.mem_map_of_mem ht)
        rw [Function.comp, ← heq]
        exact Task.relayTask_of_item heq.symm
    _ = items.filterMap Item.relayTask := by
        rw [hitems, Multiset.filterMap_map]
        rfl

/-- A `Dissociate` that arrives before the `Authenticate` is started once the client is
authenticated. -/
theorem started_eq_of_settled_dissociate :
    ∃ s, (connectionSystem ⟨[.replicate 32 7], 1500⟩).ReachableBy
        (fun s a => s.undisturbed a = true) s ∧ s.Settled ⟨[.replicate 32 7], 1500⟩ ∧
      s.tasks.map Task.item = [some ⟨.uniStream, .dissociate 9, []⟩,
        some ⟨.uniStream, .authenticate (.replicate 32 7), []⟩] ∧
      ((starts s.conn.log).map Prod.snd : Multiset RelayTask) = {.dissociate 9} := by
  obtain ⟨s, hs, hp⟩ := System.exists_reachableBy_of_runBy
    (connectionSystem ⟨[.replicate 32 7], 1500⟩) (fun s a => s.undisturbed a)
    [.handle .acceptUniStream, .stream 0 (.data [4, 3, 0, 0, 0, 9]), .task 0 .ok, .task 0 .ok,
      .handle .acceptUniStream, .stream 1 (.data (4 :: 0 :: List.replicate 32 7)), .task 1 .ok,
      .task 1 .ok, .task 1 .ok, .task 0 .ok, .task 0 .ok]
    (fun s => s.tasks.all (·.pc.isStarted) && decide (s.tasks.map Task.item =
      [some ⟨.uniStream, .dissociate 9, []⟩,
        some ⟨.uniStream, .authenticate (.replicate 32 7), []⟩])) (by decide)
  rw [Bool.and_eq_true, decide_eq_true_eq] at hp
  obtain ⟨hstarted, hitems⟩ := hp
  have hrest : s.Settled ⟨[.replicate 32 7], 1500⟩ := by
    intro i t outcome hi hpc
    rw [List.all_eq_true.mp hstarted t (List.mem_of_getElem? hi)] at hpc
    cases hpc
  refine ⟨s, hs, hrest, hitems, ?_⟩
  refine (started_eq_of_settled _ .uniStream
    {⟨.uniStream, .dissociate 9, []⟩, ⟨.uniStream, .authenticate (.replicate 32 7), []⟩}
    ?_ ?_ s hs (by rw [hitems]; rfl) hrest).2.trans rfl
  · intro it hit
    rcases Multiset.mem_cons.mp hit with rfl | hit
    · exact Or.inr ⟨by decide, fun _ _ _ h => by cases h⟩
    · obtain rfl := Multiset.mem_singleton.mp hit
      exact Or.inl ⟨rfl, Or.inr ⟨_, List.mem_singleton_self _, rfl⟩⟩
  · exact ⟨_, Multiset.mem_cons_of_mem (Multiset.mem_singleton_self _), rfl, _, rfl⟩

end Established

end Tuic.Server
