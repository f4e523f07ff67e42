import Tuic.Protocol.Final
import Tuic.Protocol.Grammar
import Tuic.Server.Frame

/-! # What a handler knows where it stands

`Task.Sound` says, for each place a handler can stand at, what its item and the state of the
connection are: which command the bytes start with, that the command is one for the relay task the
handler is in, and for each error it fails with, that the documented reason for that error is there.
It holds of every handler in every reachable state (`sound_of_reachable`). -/

namespace Tuic.Server

open ByteCodec Transition

/-! ## The command an item carries -/

/-- The bytes start with the header of a command. -/
def Carries (data : Bytes) (cmd : Command) : Prop := ∃ rest, Command.readFrom data = .ok (cmd, rest)

namespace Carries

variable {data : Bytes} {cmd cmd' : Command}

/-- More bytes do not change the command. -/
theorem append (h : Carries data cmd) (x : Bytes) : Carries (data ++ x) cmd := by
  obtain ⟨rest, hrest⟩ := h
  exact ⟨rest ++ x, Command.final_readFrom.ok hrest x⟩

/-- There is only one. -/
theorem unique (h : Carries data cmd) (h' : Carries data cmd') : cmd = cmd' := by
  obtain ⟨rest, hrest⟩ := h
  obtain ⟨rest', hrest'⟩ := h'
  rw [hrest] at hrest'
  cases hrest'
  rfl

/-- The header is within the bytes. -/
theorem serializedLen_le (h : Carries data cmd) : cmd.serializedLen ≤ data.length := by
  obtain ⟨rest, hrest⟩ := h
  obtain ⟨-, hlen⟩ := Command.readFrom_eq_ok.mp hrest
  rw [hlen, List.length_append, Command.length_writeToBuf]
  exact Nat.le_add_right _ _

/-- The bytes of a command carry it, as it is on the wire. -/
theorem of_writeToBuf (hfits : cmd.Fits) (rest : Bytes) :
    Carries (cmd.writeToBuf ++ rest) cmd.onWire :=
  ⟨rest, Command.readFrom_of_eq_append cmd hfits rfl⟩

/-- What a beginning of these bytes carries is that command. -/
theorem eq_onWire (h : Carries data cmd') (cmd : Command) (hfits : cmd.Fits) {rest : Bytes}
    (hdata : data <+: cmd.writeToBuf ++ rest) : cmd' = cmd.onWire := by
  obtain ⟨x, hx⟩ := hdata
  have hwhole := h.append x
  rw [hx] at hwhole
  exact hwhole.unique (of_writeToBuf hfits rest)

end Carries

/-- The relay mode a packet on a channel stands for. -/
def Source.mode : Source → Option UdpPacketSource
  | .uniStream => some .uniStream
  | .biStream => none
  | .datagram => some .datagram

/-- The relay task a command starts on a channel, if it is one that starts a task there. -/
def Source.relayTask (src : Source) (data : Bytes) (cmd : Command) : Option RelayTask :=
  match src, cmd with
  | .uniStream, .packet assocId len addr => some (.packetFromUniStream assocId len addr)
  | .uniStream, .dissociate assocId => some (.dissociate assocId)
  | .biStream, .connect addr => some (.connect addr)
  | .datagram, .packet assocId _ addr =>
    some (.packetFromDatagram (data.drop cmd.serializedLen) assocId addr)
  | _, _ => none

/-- What `dispatch` can do with a command that reached it, one case each. -/
inductive Dispatches (cell : UdpPacketFrom) (src : Source) (data : Bytes) :
    Command → UdpPacketFrom → Dispatched → Prop where
  /-- A packet of the relay mode, which it may fix. -/
  | packet (assocId : UInt32) (len : UInt16) (addr : Address) (mode : UdpPacketSource)
      (task : RelayTask) (hmode : src.mode = some mode) (hcell : cell = none ∨ cell = some mode)
      (htask : src.relayTask data (.packet assocId len addr) = some task) :
      Dispatches cell src data (.packet assocId len addr) (some mode) (.start task)
  /-- A packet of the other mode. -/
  | otherMode (assocId : UInt32) (len : UInt16) (addr : Address) (mode mode' : UdpPacketSource)
      (hmode : src.mode = some mode) (hcell : cell = some mode') (hne : mode' ≠ mode) :
      Dispatches cell src data (.packet assocId len addr) cell (.returned (.error .badCommand))
  /-- Another command with a relay task. -/
  | other (cmd : Command) (task : RelayTask)
      (hcmd : ∀ assocId len addr, cmd ≠ .packet assocId len addr)
      (htask : src.relayTask data cmd = some task) :
      Dispatches cell src data cmd cell (.start task)
  /-- A heartbeat. -/
  | heartbeat (hsrc : src = .uniStream) :
      Dispatches cell src data .heartbeat cell (.returned (.ok ()))
  /-- A command that is not allowed on its channel. -/
  | notAllowed (cmd : Command) (htask : src.relayTask data cmd = none)
      (hcmd : ¬ (src = .uniStream ∧ cmd = .heartbeat)) :
      Dispatches cell src data cmd cell (.returned (.error .badCommand))

/-- **What `dispatch` does**, given that the bytes carry the command and that an `Authenticate` on a
unidirectional stream does not get here. -/
theorem dispatch_cases {token : List Digest} {cell cell' : UdpPacketFrom} {src : Source}
    {data : Bytes} {cmd : Command} {res : Dispatched} (hcarries : Carries data cmd)
    (hawait : Pc.ofCommand token src cmd = .await cmd)
    (h : dispatch cell src data cmd = (cell', res)) :
    Dispatches cell src data cmd cell' res := by
  cases src with
  | uniStream =>
    cases cmd with
    -- `unreachable!()` is: such a command does not wait at the barrier
    | authenticate digest =>
      simp only [Pc.ofCommand] at hawait
      split at hawait <;> cases hawait
    | packet assocId len addr =>
      simp only [dispatch, dispatchUniStream, UdpPacketFrom.uniStream] at h
      rcases UdpPacketFrom.claim_cases .uniStream cell with ⟨hcell, hcl⟩ | ⟨m, hcell, hne, hcl⟩
      · rw [hcl] at h
        cases h
        exact .packet assocId len addr _ _ rfl hcell rfl
      · rw [hcl] at h
        cases h
        exact .otherMode assocId len addr _ m rfl hcell hne
    | dissociate assocId =>
      cases h
      exact .other _ _ (by simp) rfl
    | heartbeat =>
      cases h
      exact .heartbeat rfl
    | response _ | connect _ =>
      cases h
      exact .notAllowed _ rfl (by simp)
  | biStream =>
    cases cmd with
    | connect addr =>
      cases h
      exact .other _ _ (by simp) rfl
    | authenticate _ | packet _ _ _ | dissociate _ | heartbeat | response _ =>
      cases h
      exact .notAllowed _ rfl (by simp)
  | datagram =>
    cases cmd with
    | packet assocId len addr =>
      simp only [dispatch, dispatchDatagram, UdpPacketFrom.datagram] at h
      rcases UdpPacketFrom.claim_cases .datagram cell with ⟨hcell, hcl⟩ | ⟨m, hcell, hne, hcl⟩
      · -- the header is within the datagram, so the slice is in range
        rw [hcl] at h
        simp only [if_pos hcarries.serializedLen_le] at h
        cases h
        exact .packet assocId len addr _ _ rfl hcell rfl
      · rw [hcl] at h
        cases h
        exact .otherMode assocId len addr _ m rfl hcell hne
    | authenticate _ | connect _ | dissociate _ | heartbeat | response _ =>
      cases h
      exact .notAllowed _ rfl (by simp)

/-! ## What holds of a handler where it stands -/

/-- A relay task is at this place of its function. -/
def RelayTask.Runs : RelayTask → Relay → Prop
  | .connect _, .connect _ => True
  | .packetFromUniStream assocId len addr, .readPayload assocId' len' addr' =>
    assocId' = assocId ∧ len' = len ∧ addr' = addr
  | .packetFromUniStream assocId len addr, .send call =>
    call.packet.assocId = assocId ∧ call.packet.addr = addr ∧
      call.packet.pkt.length = len.toNat
  | .packetFromDatagram pkt assocId addr, .send call => call.packet = ⟨assocId, pkt, addr⟩
  | .dissociate assocId, .dissociate assocId' => assocId' = assocId
  | _, _ => False

/-- Only packets are sent, to the session of their association. -/
theorem Source.relayTask_send {src : Source} {data : Bytes} {cmd : Command} {task : RelayTask}
    {call : SendCall} (htask : src.relayTask data cmd = some task)
    (hruns : task.Runs (.send call)) : ∃ len addr, cmd = .packet call.packet.assocId len addr := by
  unfold Source.relayTask at htask
  split at htask
  · cases htask
    obtain ⟨rfl, -⟩ := hruns
    exact ⟨_, _, rfl⟩
  · cases htask
    exact hruns.elim
  · cases htask
    exact hruns.elim
  · cases htask
    rw [show call.packet = _ from hruns]
    exact ⟨_, _, rfl⟩
  · cases htask

/-- Why a handler fails: for each error, the documented reason is there. -/
def FailsWith (token : List Digest) (c : Connection) (src : Source) (recv : RecvStream) :
    DispatchError → Prop
  | .io _ => recv.status = .failed ∨ ∃ err, Command.readFrom recv.data = .error (.io err) ∧
      (err.kind = .unexpectedEof → recv.status ≠ .receiving)
  | .authenticationFailed =>
    src = .uniStream ∧ ∃ digest, digest ∉ token ∧ Carries recv.data (.authenticate digest)
  | .authenticationTimeout => ∃ cmd, Carries recv.data cmd ∧
      Pc.ofCommand token src cmd = .await cmd ∧ c.isAuthenticated.isConnectionClosed.check = true
  | .badCommand => ∃ cmd, Carries recv.data cmd ∧ Pc.ofCommand token src cmd = .await cmd ∧
      c.isAuthenticated.isAuthenticated = true ∧
      (src.relayTask recv.data cmd = none ∧ ¬ (src = .uniStream ∧ cmd = .heartbeat) ∨
        ∃ assocId len addr m, cmd = .packet assocId len addr ∧ c.udpPacketFrom = some m ∧
          src.mode ≠ some m)

/-- The relay mode is the one of the channel, if the command is a packet. -/
def ModeFits (c : Connection) (src : Source) (cmd : Command) : Prop :=
  ∀ assocId len addr, cmd = .packet assocId len addr →
    ∃ m, src.mode = some m ∧ c.udpPacketFrom = some m

/-- What the item of a handler and the connection are when the handler stands at a place. -/
def Pc.Sound (token : List Digest) (c : Connection) (src : Source) (recv : RecvStream) : Pc → Prop
  | .read => True
  | .setAuthenticated =>
    src = .uniStream ∧ ∃ digest ∈ token, Carries recv.data (.authenticate digest)
  | .wakeAuthenticated => c.isAuthenticated.isAuthenticated = true ∧
    src = .uniStream ∧ ∃ digest ∈ token, Carries recv.data (.authenticate digest)
  | .closeFailed | .wakeFailed =>
    src = .uniStream ∧ ∃ digest, digest ∉ token ∧ Carries recv.data (.authenticate digest)
  | .await cmd | .parked cmd => Carries recv.data cmd ∧ Pc.ofCommand token src cmd = .await cmd
  | .dispatch cmd => Carries recv.data cmd ∧ Pc.ofCommand token src cmd = .await cmd ∧
    c.isAuthenticated.isAuthenticated = true
  | .relay r => ∃ cmd task, Carries recv.data cmd ∧ src.relayTask recv.data cmd = some task ∧
    task.Runs r ∧ c.isAuthenticated.isAuthenticated = true ∧ ModeFits c src cmd
  | .done => ∃ cmd, Carries recv.data cmd ∧ c.isAuthenticated.isAuthenticated = true ∧
    ((∃ task, src.relayTask recv.data cmd = some task ∧ ModeFits c src cmd) ∨
      src = .uniStream ∧ (cmd = .heartbeat ∨ ∃ digest ∈ token, cmd = .authenticate digest))
  | .fail err | .failed err => FailsWith token c src recv err
  | .panicked => False

/-- **What holds of a handler where it stands.** -/
def Task.Sound (token : List Digest) (c : Connection) (t : Task) : Prop :=
  (t.source = .datagram → t.recv.status = .finished) ∧ t.pc.Sound token c t.source t.recv

section Sound

variable {token : List Digest} {c c' : Connection} {src : Source} {recv recv' : RecvStream}

/-- What a connection never takes back keeps the reasons of a failure. -/
theorem FailsWith.mono (hext : c.Extends c') {err : DispatchError}
    (h : FailsWith token c src recv err) : FailsWith token c' src recv err := by
  cases err with
  | io e => exact h
  | authenticationFailed => exact h
  | authenticationTimeout =>
    obtain ⟨cmd, hc, ha, hclosed⟩ := h
    exact ⟨cmd, hc, ha, hext.closed hclosed⟩
  | badCommand =>
    obtain ⟨cmd, hc, ha, hflag, hbad⟩ := h
    refine ⟨cmd, hc, ha, hext.flag hflag, hbad.imp_right ?_⟩
    rintro ⟨assocId, len, addr, m, hcmd, hm, hne⟩
    exact ⟨assocId, len, addr, m, hcmd, hext.mode hm, hne⟩

/-- A relay mode that fits stays. -/
theorem ModeFits.mono (hext : c.Extends c') {cmd : Command} (h : ModeFits c src cmd) :
    ModeFits c' src cmd := by
  intro assocId len addr hcmd
  obtain ⟨m, hsrc, hm⟩ := h assocId len addr hcmd
  exact ⟨m, hsrc, hext.mode hm⟩

/-- A step of another task keeps what holds of a handler. -/
theorem Pc.Sound.mono (hext : c.Extends c') {pc : Pc} (h : pc.Sound token c src recv) :
    pc.Sound token c' src recv := by
  cases pc with
  | read => exact h
  | setAuthenticated => exact h
  | wakeAuthenticated => exact ⟨hext.flag h.1, h.2⟩
  | closeFailed => exact h
  | wakeFailed => exact h
  | await cmd => exact h
  | parked cmd => exact h
  | dispatch cmd => exact ⟨h.1, h.2.1, hext.flag h.2.2⟩
  | relay r =>
    obtain ⟨cmd, task, hc, htask, hruns, hflag, hm⟩ := h
    exact ⟨cmd, task, hc, htask, hruns, hext.flag hflag, hm.mono hext⟩
  | done =>
    obtain ⟨cmd, hc, hflag, hok⟩ := h
    refine ⟨cmd, hc, hext.flag hflag, hok.imp_left ?_⟩
    rintro ⟨task, htask, hm⟩
    exact ⟨task, htask, hm.mono hext⟩
  | fail err => exact FailsWith.mono hext h
  | failed err => exact FailsWith.mono hext h
  | panicked => exact h

/-- What an event does to a stream: it was receiving, and at most more bytes are there. -/
theorem RecvStream.on_cases {ev : StreamEvent} (h : recv.on ev = some recv') :
    recv.status = .receiving ∧ recv'.pos = recv.pos ∧ ∃ x, recv'.data = recv.data ++ x := by
  unfold RecvStream.on at h
  split at h
  · rename_i hst
    split at h
    · rename_i bytes
      cases h
      exact ⟨hst, rfl, bytes, rfl⟩
    · cases h
      exact ⟨hst, rfl, [], (List.append_nil _).symm⟩
    · cases h
      exact ⟨hst, rfl, [], (List.append_nil _).symm⟩
  · cases h

/-- Only the payload of a datagram depends on the bytes behind the header. -/
theorem Source.relayTask_append (hsrc : src ≠ .datagram) (data x : Bytes) (cmd : Command) :
    src.relayTask (data ++ x) cmd = src.relayTask data cmd := by
  cases src with
  | uniStream => cases cmd <;> rfl
  | biStream => cases cmd <;> rfl
  | datagram => exact absurd rfl hsrc

/-- More bytes keep the reasons of a failure. -/
theorem FailsWith.on {ev : StreamEvent} (hsrc : src ≠ .datagram) (hon : recv.on ev = some recv')
    {err : DispatchError} (h : FailsWith token c src recv err) :
    FailsWith token c src recv' err := by
  obtain ⟨hst, -, x, hx⟩ := RecvStream.on_cases hon
  cases err with
  | io e =>
    rcases h with hfailed | ⟨e', he', heof⟩
    · rw [hst] at hfailed
      cases hfailed
    -- the stream was still receiving, so the decoder did not run out of input: its error is final
    · have hne : ¬ Reader.IsEof (.io e') := fun h => heof h hst
      exact Or.inr ⟨e', hx ▸ Command.final_readFrom.error he' hne x, fun h => absurd h hne⟩
  | authenticationFailed =>
    obtain ⟨hsrc', digest, hd, hc⟩ := h
    exact ⟨hsrc', digest, hd, hx ▸ hc.append x⟩
  | authenticationTimeout =>
    obtain ⟨cmd, hc, ha, hclosed⟩ := h
    exact ⟨cmd, hx ▸ hc.append x, ha, hclosed⟩
  | badCommand =>
    obtain ⟨cmd, hc, ha, hflag, hbad⟩ := h
    refine ⟨cmd, hx ▸ hc.append x, ha, hflag, ?_⟩
    rwa [hx, Source.relayTask_append hsrc]

/-- More bytes keep what holds of a handler. -/
theorem Pc.Sound.on {ev : StreamEvent} (hsrc : src ≠ .datagram) (hon : recv.on ev = some recv')
    {pc : Pc} (h : pc.Sound token c src recv) : pc.Sound token c src recv' := by
  obtain ⟨hst, -, x, hx⟩ := RecvStream.on_cases hon
  cases pc with
  | read => exact h
  | setAuthenticated =>
    obtain ⟨hs, digest, hd, hc⟩ := h
    exact ⟨hs, digest, hd, hx ▸ hc.append x⟩
  | wakeAuthenticated =>
    obtain ⟨hflag, hs, digest, hd, hc⟩ := h
    exact ⟨hflag, hs, digest, hd, hx ▸ hc.append x⟩
  | closeFailed =>
    obtain ⟨hs, digest, hd, hc⟩ := h
    exact ⟨hs, digest, hd, hx ▸ hc.append x⟩
  | wakeFailed =>
    obtain ⟨hs, digest, hd, hc⟩ := h
    exact ⟨hs, digest, hd, hx ▸ hc.append x⟩
  | await cmd => exact ⟨hx ▸ h.1.append x, h.2⟩
  | parked cmd => exact ⟨hx ▸ h.1.append x, h.2⟩
  | dispatch cmd => exact ⟨hx ▸ h.1.append x, h.2⟩
  | relay r =>
    obtain ⟨cmd, task, hc, htask, hrest⟩ := h
    exact ⟨cmd, task, hx ▸ hc.append x, by rw [hx, Source.relayTask_append hsrc, htask], hrest⟩
  | done =>
    obtain ⟨cmd, hc, hflag, hok⟩ := h
    refine ⟨cmd, hx ▸ hc.append x, hflag, ?_⟩
    rwa [hx, Source.relayTask_append hsrc]
  | fail err => exact FailsWith.on hsrc hon h
  | failed err => exact FailsWith.on hsrc hon h
  | panicked => exact h

/-- What holds of a handler that has just decoded its command. -/
theorem Pc.sound_ofCommand {cmd : Command} (hc : Carries recv.data cmd) :
    (Pc.ofCommand token src cmd).Sound token c src recv := by
  rcases Pc.ofCommand_cases token src cmd with h | ⟨hsrc, digest, rfl, ⟨hd, h⟩ | ⟨hd, h⟩⟩
  · rw [h]
    exact ⟨hc, h⟩
  · rw [h]
    exact ⟨hsrc, digest, hd, hc⟩
  · rw [h]
    exact ⟨hsrc, digest, hd, hc⟩

/-- What holds of a handler that has just polled the barrier. -/
theorem Pc.sound_ofPoll {cmd : Command} (task : TaskId) (hc : Carries recv.data cmd)
    (hawait : Pc.ofCommand token src cmd = .await cmd) :
    (Pc.ofPoll cmd (c.poll task).2).Sound token (c.poll task).1 src recv := by
  obtain ⟨hflag, hclosed⟩ := c.poll_flags task
  rcases c.poll_cases task with ⟨hcl, hres, -⟩ | ⟨-, hfl, hres, -⟩ | ⟨-, -, hres, -⟩
  · rw [hres]
    exact ⟨cmd, hc, hawait, hclosed ▸ hcl⟩
  · rw [hres]
    exact ⟨hc, hawait, hflag ▸ hfl⟩
  · rw [hres]
    exact ⟨hc, hawait⟩

/-- A relay task begins at its beginning. -/
theorem RelayTask.runs_entry (task : RelayTask) : task.Runs task.entry := by
  cases task with
  | connect addr => trivial
  | packetFromUniStream assocId len addr => exact ⟨rfl, rfl, rfl⟩
  | packetFromDatagram pkt assocId addr => exact rfl
  | dissociate assocId => exact rfl

/-- What holds of a handler that has just dispatched its command. -/
theorem Pc.sound_ofDispatched {cmd : Command} {cell : UdpPacketFrom} {res : Dispatched}
    (hc : Carries recv.data cmd) (hawait : Pc.ofCommand token src cmd = .await cmd)
    (hflag : c.isAuthenticated.isAuthenticated = true)
    (hres : Server.dispatch c.udpPacketFrom src recv.data cmd = (cell, res)) (events : List Event) :
    (Pc.ofDispatched res).Sound token ({ c with udpPacketFrom := cell }.emit events) src recv := by
  cases dispatch_cases hc hawait hres with
  | packet assocId len addr m task hm hcell htask =>
    exact ⟨_, task, hc, htask, task.runs_entry, hflag, fun _ _ _ _ => ⟨m, hm, rfl⟩⟩
  | otherMode assocId len addr m m' hm hcell hne =>
    refine ⟨_, hc, hawait, hflag, Or.inr ⟨assocId, len, addr, m', rfl, hcell, ?_⟩⟩
    rw [hm]
    exact fun h => hne (Option.some.inj h).symm
  | other cmd task hcmd htask =>
    exact ⟨cmd, task, hc, htask, task.runs_entry, hflag,
      fun assocId len addr h => absurd h (hcmd assocId len addr)⟩
  | heartbeat hsrc => exact ⟨_, hc, hflag, Or.inr ⟨hsrc, Or.inl rfl⟩⟩
  | notAllowed cmd htask hcmd => exact ⟨cmd, hc, hawait, hflag, Or.inl ⟨htask, hcmd⟩⟩

/-- A relay task only reads on in its stream. -/
theorem RelayStep.stream_eq {u u' : Udp} {i : Nat} {r : Relay} {events : List Event}
    {r' : Option Relay} (h : RelayStep u i recv r u' events recv' r') :
    recv'.data = recv.data ∧ recv'.status = recv.status := by
  cases h with
  | payload assocId len addr hlen => exact ⟨rfl, rfl⟩
  | noPayload assocId len addr hst => exact ⟨rfl, rfl⟩
  | send call bindOk u' n hstep => exact ⟨rfl, rfl⟩
  | dissociate assocId => exact ⟨rfl, rfl⟩
  | connect pc outcome events recv' pc' hstep => exact (connectStep_cases hstep).stream_eq

/-- A relay task goes from one place of its function to another. -/
theorem RelayStep.runs {u u' : Udp} {i : Nat} {r r' : Relay} {events : List Event}
    (h : RelayStep u i recv r u' events recv' (some r')) {task : RelayTask} (hr : task.Runs r) :
    task.Runs r' := by
  -- the index `some r'` is made a variable for the case split
  generalize hn : some r' = n at h
  cases h with
  | payload assocId len addr hlen =>
    cases hn
    cases task with
    | packetFromUniStream assocId' len' addr' =>
      obtain ⟨rfl, rfl, rfl⟩ := hr
      exact ⟨rfl, rfl, by simpa [SendCall.packet] using hlen⟩
    | connect addr' => exact hr.elim
    | packetFromDatagram pkt assocId' addr' => exact hr.elim
    | dissociate assocId' => exact hr.elim
  | send call bindOk u' n hstep =>
    cases n with
    | returned ok => cases hn
    | call call' =>
      cases hn
      -- the call keeps its packet to its end
      have hp : call'.packet = call.packet := packet_of_sendStep (sendStep_cases hstep)
      cases task with
      | packetFromUniStream assocId len addr =>
        simp only [RelayTask.Runs, hp]
        exact hr
      | packetFromDatagram pkt assocId addr => exact hp.trans hr
      | connect addr => exact hr.elim
      | dissociate assocId => exact hr.elim
  | connect pc outcome events recv' pc' hstep =>
    cases pc' with
    | none => cases hn
    | some pc' =>
      cases hn
      cases task with
      | connect addr => trivial
      | packetFromUniStream assocId len addr => exact hr.elim
      | packetFromDatagram pkt assocId addr => exact hr.elim
      | dissociate assocId => exact hr.elim
  | noPayload assocId len addr hst => cases hn
  | dissociate assocId => cases hn

/-- What holds of a handler after a step of its relay task. -/
theorem Pc.sound_ofRelay {u : Udp} {i : Nat} {r : Relay} {events : List Event}
    {r' : Option Relay} (h : (Pc.relay r).Sound token c src recv)
    (hstep : RelayStep c.udpSessions i recv r u events recv' r') :
    (Pc.ofRelay r').Sound token ({ c with udpSessions := u }.emit events) src recv' := by
  obtain ⟨cmd, task, hc, htask, hruns, hflag, hm⟩ := h
  obtain ⟨hdata, -⟩ := hstep.stream_eq
  rw [← hdata] at hc htask
  cases r' with
  | none => exact ⟨cmd, hc, hflag, Or.inl ⟨task, htask, hm⟩⟩
  | some r' => exact ⟨cmd, task, hc, htask, hstep.runs hruns, hflag, hm⟩

end Sound

/-- A handler only reads on in its stream. -/
theorem TaskStep.stream_eq {token : List Digest} {c c' : Connection} {i : Nat} {t t' : Task}
    (h : TaskStep token c i t c' t') :
    t'.source = t.source ∧ t'.recv.data = t.recv.data ∧ t'.recv.status = t.recv.status := by
  cases h with
  | relay r u events recv r' hpc hstep => exact ⟨rfl, hstep.stream_eq⟩
  | readFails err hpc hst => exact ⟨rfl, rfl, rfl⟩
  | decodes cmd rest hpc hread => exact ⟨rfl, rfl, rfl⟩
  | undecodable err hpc hread hst => exact ⟨rfl, rfl, rfl⟩
  | decoderPanics hpc hread => exact ⟨rfl, rfl, rfl⟩
  | setAuthenticated hpc => exact ⟨rfl, rfl, rfl⟩
  | wakeAuthenticated hpc => exact ⟨rfl, rfl, rfl⟩
  | closeFailed hpc => exact ⟨rfl, rfl, rfl⟩
  | wakeFailed hpc => exact ⟨rfl, rfl, rfl⟩
  | poll cmd hpc => exact ⟨rfl, rfl, rfl⟩
  | dispatch cmd hpc cell res hres => exact ⟨rfl, rfl, rfl⟩
  | fail err hpc => exact ⟨rfl, rfl, rfl⟩

/-- A step of a handler keeps what holds of it. -/
theorem TaskStep.sound {token : List Digest} {c c' : Connection} {i : Nat} {t t' : Task}
    (h : TaskStep token c i t c' t') (hs : t.Sound token c) : t'.Sound token c' := by
  obtain ⟨hdg, hpcs⟩ := hs
  cases h with
  | readFails err hpc hst => exact ⟨hdg, Or.inl hst⟩
  | decodes cmd rest hpc hread => exact ⟨hdg, Pc.sound_ofCommand ⟨rest, hread⟩⟩
  | undecodable err hpc hread hst => exact ⟨hdg, Or.inr ⟨err, hread, hst⟩⟩
  | decoderPanics hpc hread => exact absurd hread (Command.noPanic_readFrom _)
  | setAuthenticated hpc =>
    rw [hpc] at hpcs
    exact ⟨hdg, rfl, hpcs⟩
  | wakeAuthenticated hpc =>
    rw [hpc] at hpcs
    obtain ⟨hflag, hsrc, digest, hd, hc⟩ := hpcs
    exact ⟨hdg, _, hc, hflag, Or.inr ⟨hsrc, Or.inr ⟨digest, hd, rfl⟩⟩⟩
  | closeFailed hpc =>
    rw [hpc] at hpcs
    exact ⟨hdg, hpcs⟩
  | wakeFailed hpc =>
    rw [hpc] at hpcs
    exact ⟨hdg, hpcs⟩
  | poll cmd hpc =>
    have hawait : Carries t.recv.data cmd ∧ Pc.ofCommand token t.source cmd = .await cmd := by
      rcases hpc with hpc | ⟨hpc, -⟩ <;> rw [hpc] at hpcs <;> exact hpcs
    exact ⟨hdg, Pc.sound_ofPoll _ hawait.1 hawait.2⟩
  | dispatch cmd hpc cell res hres =>
    rw [hpc] at hpcs
    exact ⟨hdg, Pc.sound_ofDispatched hpcs.1 hpcs.2.1 hpcs.2.2 hres _⟩
  | relay r u events recv r' hpc hstep =>
    rw [hpc] at hpcs
    exact ⟨fun hsrc => hstep.stream_eq.2.trans (hdg hsrc), Pc.sound_ofRelay hpcs hstep⟩
  | fail err hpc =>
    rw [hpc] at hpcs
    exact ⟨hdg, hpcs.mono ⟨id, id, id, id⟩⟩

namespace Established

variable {cfg : Config} {s s' : Established} {a : Action}

/-- What holds of every handler is kept by every step. -/
theorem Step.sound (h : Step cfg s a s')
    (hs : All (fun _ t => t.Sound cfg.token s.conn) s.tasks) :
    All (fun _ t => t.Sound cfg.token s'.conn) s'.tasks := by
  intro j t' hj
  rcases h.task_cases hj with ⟨hj, -⟩ | ⟨-, hfresh⟩ | ⟨-, t, -, hj, hstep⟩ |
    ⟨ev, t, recv, -, hj₀, hon, rfl⟩
  · obtain ⟨hdg, hpcs⟩ := hs j t' hj
    exact ⟨hdg, hpcs.mono h.extends⟩
  · refine ⟨hfresh.2.2.1, ?_⟩
    rw [hfresh.1]
    trivial
  · exact hstep.sound (hs j t hj)
  · obtain ⟨hdg, hpcs⟩ := hs j t hj₀
    -- a datagram is finished from the start and gets nothing more
    have hsrc : t.source ≠ .datagram := by
      intro hsrc
      have hst := (RecvStream.on_cases hon).1
      rw [hdg hsrc] at hst
      cases hst
    exact ⟨fun h => absurd h hsrc, (hpcs.on hsrc hon).mono h.extends⟩

/-- The handlers after a step that accepts nothing are those before it: each is left alone or makes
a step, and keeps what it has of its item, or something happens on its stream. -/
theorem Step.tasks_of_not_accept (h : Step cfg s a s')
    (hnot : ∀ st, a = .handle st → st.isAccept = false) :
    s'.tasks.length = s.tasks.length ∧
      ∀ (i : Nat) (t' : Task), s'.tasks[i]? = some t' →
        ∃ t, s.tasks[i]? = some t ∧ t'.source = t.source ∧
          (t'.recv.data = t.recv.data ∧ t'.recv.status = t.recv.status ∧
              (t'.pc = t.pc ∨ TaskStep cfg.token s.conn i t s'.conn t') ∨
            ∃ ev, a = .stream i ev ∧ t.recv.on ev = some t'.recv ∧ t'.pc = t.pc) := by
  have hlen : s'.tasks.length = s.tasks.length := by
    rcases h.tasks_cases with ⟨heq, -⟩ | ⟨st, t, hst, haccept, -⟩ |
      ⟨i, outcome, t, t', -, -, -, heq⟩ | ⟨i, ev, t, recv, -, -, -, rfl⟩
    · rw [heq]
    · rw [hnot st hst] at haccept
      cases haccept
    · rw [heq, List.length_set]
    · exact List.length_set
  refine ⟨hlen, fun i t' hi => ?_⟩
  rcases h.task_cases hi with ⟨hi₀, -⟩ | ⟨hnew, -⟩ | ⟨-, t, -, hi₀, htask⟩ |
    ⟨ev, t, recv, rfl, hi₀, hon, rfl⟩
  · exact ⟨t', hi₀, rfl, Or.inl ⟨rfl, rfl, Or.inl rfl⟩⟩
  · have hlt := (List.getElem?_eq_some_iff.mp hi).1
    omega
  · obtain ⟨hsrc, hdata, hst⟩ := htask.stream_eq
    exact ⟨t, hi₀, hsrc, Or.inl ⟨hdata, hst, Or.inr htask⟩⟩
  · exact ⟨t, hi₀, rfl, Or.inr ⟨ev, rfl, hon, rfl⟩⟩

/-- **Every handler is where its item puts it**, in every reachable state. -/
theorem sound_of_reachable {C : Established → Action → Prop}
    (h : (connectionSystem cfg).ReachableBy C s) :
    All (fun _ t => t.Sound cfg.token s.conn) s.tasks :=
  h.invariant (I := fun s => All (fun _ t => t.Sound cfg.token s.conn) s.tasks) All.nil
    fun _ _ _ _ hs _ hstep => (step_cases hstep).sound hs

end Established

end Tuic.Server
