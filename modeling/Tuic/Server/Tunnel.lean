import Tuic.Server.Streams

/-! # The tunnel of a `Connect`

What the handler of a `Connect` has sent to its target and to the client, where it stands
(`Task.Tunnels`): nothing before the response; the response, and it is the one for the outcome of
the connection attempts; and from then on the bytes behind the header of the item, in order, to the
target, and the bytes of the target, in order, behind the response, up to what the copy loop has
read and still holds. `Tunnels.step` carries this through every step of a connection.

What the targets send is an input of the steps (`fromTarget`), and so are the addresses a name
resolves to. -/

namespace Tuic.Server

open ByteCodec Transition

/-! ## Handlers in `connect` -/

/-- A handler in `connect` goes on with it. -/
theorem Task.step_connect {token : List Digest} {c c' : Connection} {i : Nat} {t t' : Task}
    {pc : ConnectPc} {outcome : Outcome} (hpc : t.pc = .relay (.connect pc))
    (h : t.step token c i outcome = some (c', t')) :
    ∃ events recv pc', ConnectStep i t.recv pc outcome events recv pc' ∧
      c'.log = events.reverse ++ c.log ∧
      t' = { t with recv := recv, pc := .ofRelay (pc'.map .connect) } := by
  simp only [Task.step, hpc, relayStep] at h
  cases hstep : connectStep i t.recv pc outcome with
  | none =>
    rw [hstep] at h
    cases h
  | some res =>
    obtain ⟨events, recv, pc'⟩ := res
    rw [hstep] at h
    refine ⟨events, recv, pc', connectStep_cases hstep, ?_⟩
    cases pc' with
    | none =>
      cases h
      exact ⟨rfl, rfl⟩
    | some pc' =>
      cases h
      exact ⟨rfl, rfl⟩

/-- What a handler that is not in `connect` records is nothing on its stream and nothing to a
target. -/
theorem TaskStep.relays_nothing {token : List Digest} {c c' : Connection} {i : Nat} {t t' : Task}
    (h : TaskStep token c i t c' t') (hpc : ∀ pc, t.pc ≠ .relay (.connect pc)) :
    ∃ events : List Event, c'.log = events.reverse ++ c.log ∧
      ∀ e ∈ events, Event.toPeerOn (.biStream i) e = [] ∧ e.toTargetOf i = [] := by
  rcases h.log_cases with ⟨pc, _, _, _, _, hconnect, -⟩ | ⟨events, hlog, hev⟩
  · exact absurd hconnect (hpc pc)
  · refine ⟨events, hlog, fun e he => ?_⟩
    cases hev e he <;> exact ⟨rfl, rfl⟩

/-- A handler gets into `connect` from a `Connect` that is dispatched. -/
theorem TaskStep.enters_connect {token : List Digest} {c c' : Connection} {i : Nat} {t t' : Task}
    (h : TaskStep token c i t c' t') (hs : t.Sound token c) {pc : ConnectPc}
    (hpc' : t'.pc = .relay (.connect pc)) (hpc : ∀ pc, t.pc ≠ .relay (.connect pc)) :
    ∃ addr, t.pc = .dispatch (.connect addr) ∧ pc = .resolve addr ∧ t'.recv = t.recv := by
  obtain ⟨-, hpcs⟩ := hs
  cases h with
  | dispatch cmd hd cell res hres =>
    rw [hd] at hpcs
    obtain ⟨hc, hawait, -⟩ := hpcs
    -- of the relay tasks, only that of a `Connect` begins there
    have hentry : ∀ task, t.source.relayTask t.recv.data cmd = some task →
        task.entry = .connect pc → ∃ addr, cmd = .connect addr ∧ pc = .resolve addr := by
      intro task htask hentry
      unfold Source.relayTask at htask
      split at htask <;> cases htask <;> cases hentry
      exact ⟨_, rfl, rfl⟩
    cases dispatch_cases hc hawait hres with
    | packet assocId len addr m task hm hcell htask =>
      obtain ⟨addr', hcmd, -⟩ := hentry task htask (Pc.relay.inj hpc')
      cases hcmd
    | other cmd task hcmd htask =>
      obtain ⟨addr, rfl, hresolve⟩ := hentry task htask (Pc.relay.inj hpc')
      exact ⟨addr, hd, hresolve, rfl⟩
    | otherMode assocId len addr m m' hm hcell hne => cases hpc'
    | heartbeat hsrc => cases hpc'
    | notAllowed cmd htask hcmd => cases hpc'
  | relay r u events recv r' hr hstep =>
    cases hstep with
    | connect pc₀ outcome events recv' pc' hstep => exact absurd hr (hpc pc₀)
    | send call bindOk u' n hstep => cases n <;> cases hpc'
    | payload assocId len addr hlen => cases hpc'
    | noPayload assocId len addr hst => cases hpc'
    | dissociate assocId => cases hpc'
  | decodes cmd rest hr hread =>
    rcases Pc.ofCommand_cases token t.source cmd with h | ⟨-, digest, -, ⟨-, h⟩ | ⟨-, h⟩⟩ <;>
      cases h.symm.trans hpc'
  | poll cmd hr =>
    rcases c.poll_cases (.handler i) with ⟨-, hres, -⟩ | ⟨-, -, hres, -⟩ | ⟨-, -, hres, -⟩ <;>
      simp [hres, Pc.ofPoll] at hpc'
  | readFails err hr hst => cases hpc'
  | undecodable err hr hread hst => cases hpc'
  | decoderPanics hr hread => cases hpc'
  | setAuthenticated hr => cases hpc'
  | wakeAuthenticated hr => cases hpc'
  | closeFailed hr => cases hpc'
  | wakeFailed hr => cases hpc'
  | fail err hr => cases hpc'

/-! ## What the handler of a `Connect` has sent -/

/-- Handler `i` has sent nothing to a target and nothing on its stream. -/
def Silent (log : List Event) (i : Nat) : Prop :=
  toTarget i log = [] ∧ written (.biStream i) log = []

/-- Handler `i` has a TCP connection to one of the addresses that an address resolves to. -/
def Connected (resolves : Address → SocketAddr → Prop) (log : List Event) (i : Nat)
    (addr : Address) : Prop :=
  ∃ target, resolves addr target ∧ .tcpConnect i target true ∈ log

/-- **What a handler has relayed**, wherever it stands: to the target, bytes of its item behind the
header of a `Connect`; to the client, at most a refusal, or, with a TCP connection, the response and
bytes of the target. -/
structure Relayed (resolves : Address → SocketAddr → Prop) (log : List Event) (i : Nat)
    (data fromTarget : Bytes) : Prop where
  /-- To the target. -/
  toTarget : toTarget i log ≠ [] → ∃ addr, Carries data (.connect addr) ∧
    toTarget i log <+: data.drop (Command.connect addr).serializedLen
  /-- To the client. -/
  written : written (.biStream i) log <+: (Command.response false).writeToBuf ∨
    ∃ addr, Carries data (.connect addr) ∧ Connected resolves log i addr ∧
      written (.biStream i) log <+: (Command.response true).writeToBuf ++ fromTarget

/-- What `connect` has relayed, where it stands. -/
def ConnectPc.Tunnels (resolves : Address → SocketAddr → Prop) (log : List Event) (i : Nat)
    (recv : RecvStream) (fromTarget : Bytes) (addr : Address) : ConnectPc → Prop
  | .resolve addr' => addr' = addr ∧ recv.pos = (Command.connect addr).serializedLen ∧
      Silent log i ∧ fromTarget = []
  | .attempt addrs => (∀ x ∈ addrs, resolves addr x) ∧
      recv.pos = (Command.connect addr).serializedLen ∧ Silent log i ∧ fromTarget = []
  | .respond isSucceeded => (isSucceeded = true → Connected resolves log i addr) ∧
      recv.pos = (Command.connect addr).serializedLen ∧ Silent log i ∧ fromTarget = []
  | .tunnel up down => Connected resolves log i addr ∧
      (Command.connect addr).serializedLen ≤ recv.pos ∧ recv.pos ≤ recv.data.length ∧
      toTarget i log ++ up = (recv.data.take recv.pos).drop (Command.connect addr).serializedLen ∧
      written (.biStream i) log ++ down = (Command.response true).writeToBuf ++ fromTarget
  | .finish => toTarget i log = [] ∧ fromTarget = [] ∧
      written (.biStream i) log = (Command.response false).writeToBuf

/-- What a step of `connect` reads from the target. -/
def ConnectPc.fromTarget : ConnectPc → Outcome → Bytes
  | .tunnel _ _, .readTarget data => data
  | _, _ => []

/-- What a handler has relayed, where it stands. -/
def Task.Tunnels (resolves : Address → SocketAddr → Prop) (log : List Event) (i : Nat)
    (fromTarget : Bytes) (t : Task) : Prop :=
  match t.pc with
  | .relay (.connect pc) => ∃ addr, Carries t.recv.data (.connect addr) ∧
      pc.Tunnels resolves log i t.recv fromTarget addr
  | .done => Relayed resolves log i t.recv.data fromTarget
  | _ => Silent log i ∧ fromTarget = []

section Tunnels

variable {resolves : Address → SocketAddr → Prop} {log events : List Event} {i : Nat}
  {data fromTarget : Bytes} {recv recv' : RecvStream} {addr : Address} {pc : ConnectPc}

/-- A connection that was made stays in the log. -/
theorem Connected.append (h : Connected resolves log i addr) (events : List Event) :
    Connected resolves (events ++ log) i addr := by
  obtain ⟨target, hres, hmem⟩ := h
  exact ⟨target, hres, List.mem_append_right _ hmem⟩

/-- Events that put nothing on a stream and send nothing to a target keep a handler silent. -/
theorem Silent.quiet (h : Silent log i)
    (hquiet : ∀ e ∈ events, Event.toPeerOn (.biStream i) e = [] ∧ e.toTargetOf i = []) :
    Silent (events.reverse ++ log) i := by
  refine ⟨?_, ?_⟩
  · rw [toTarget_append, h.1, List.nil_append, List.flatMap_eq_nil_iff]
    exact fun e he => (hquiet e he).2
  · rw [written_append, h.2, List.nil_append, List.flatMap_eq_nil_iff]
    exact fun e he => (hquiet e he).1

/-- A silent handler has relayed nothing. -/
theorem Silent.relayed (h : Silent log i) : Relayed resolves log i data fromTarget :=
  ⟨fun hne => absurd h.1 hne, Or.inl (h.2 ▸ List.nil_prefix)⟩

/-- What `connect` has relayed is what a handler may have relayed. -/
theorem ConnectPc.Tunnels.relayed (h : pc.Tunnels resolves log i recv fromTarget addr)
    (hc : Carries recv.data (.connect addr)) : Relayed resolves log i recv.data fromTarget := by
  cases pc with
  | resolve addr' => exact h.2.2.1.relayed
  | attempt addrs => exact h.2.2.1.relayed
  | respond isSucceeded => exact h.2.2.1.relayed
  | tunnel up down =>
    obtain ⟨hconn, -, -, htarget, hwritten⟩ := h
    refine ⟨fun _ => ⟨addr, hc, ?_⟩, Or.inr ⟨addr, hc, hconn, ⟨down, hwritten⟩⟩⟩
    exact List.IsPrefix.trans ⟨up, htarget⟩ ((List.take_prefix _ _).drop _)
  | finish =>
    obtain ⟨htarget, -, hwritten⟩ := h
    refine ⟨fun hne => absurd htarget hne, Or.inl ?_⟩
    rw [hwritten]

/-- What any handler has relayed. -/
theorem Task.Tunnels.relayed {t : Task} (h : t.Tunnels resolves log i fromTarget) :
    Relayed resolves log i t.recv.data fromTarget := by
  unfold Task.Tunnels at h
  split at h
  · obtain ⟨addr, hc, h⟩ := h
    exact h.relayed hc
  · exact h
  · exact h.1.relayed

/-- A silent handler that records something else is silent, and has relayed nothing. -/
theorem Silent.quiet_relayed (h : Silent log i)
    (hquiet : ∀ e ∈ events, Event.toPeerOn (.biStream i) e = [] ∧ e.toTargetOf i = []) :
    Relayed resolves (events.reverse ++ log) i data fromTarget :=
  (h.quiet hquiet).relayed

/-- A silent handler that writes to its stream has sent that and nothing else. -/
theorem Silent.writes (h : Silent log i) (data : Bytes) :
    toTarget i ([.toPeer (.biStream i) data].reverse ++ log) = [] ∧
      written (.biStream i) ([.toPeer (.biStream i) data].reverse ++ log) = data := by
  rw [toTarget_append, written_append, h.1, h.2]
  simp [Event.toPeerOn, Event.toTargetOf]

namespace ConnectPc.Tunnels

/-- The response is written: the tunnel is open with nothing in it, or the stream is about to be
finished. -/
theorem responds {isSucceeded : Bool}
    (h : (ConnectPc.respond isSucceeded).Tunnels resolves log i recv fromTarget addr)
    (hc : Carries recv.data (.connect addr)) :
    (if isSucceeded then ConnectPc.tunnel [] [] else .finish).Tunnels resolves
      ([.toPeer (.biStream i) (Command.response isSucceeded).writeToBuf].reverse ++ log) i recv
      fromTarget addr := by
  obtain ⟨hconn, hpos, hsilent, rfl⟩ := h
  obtain ⟨htarget, hwritten⟩ := hsilent.writes (Command.response isSucceeded).writeToBuf
  cases isSucceeded with
  | true =>
    refine ⟨(hconn rfl).append _, Nat.le_of_eq hpos.symm, ?_, ?_, ?_⟩
    · rw [hpos]
      exact hc.serializedLen_le
    -- nothing behind the header has been read yet
    · rw [htarget, hpos, List.drop_take_self, List.append_nil]
    · rw [hwritten]
  | false => exact ⟨htarget, rfl, hwritten⟩

/-- The stream fails under the response. -/
theorem cut {isSucceeded : Bool}
    (h : (ConnectPc.respond isSucceeded).Tunnels resolves log i recv fromTarget addr)
    (hc : Carries recv.data (.connect addr)) (n : Nat) :
    Relayed resolves
      ([.toPeer (.biStream i) ((Command.response isSucceeded).writeToBuf.take n)].reverse ++ log) i
      recv.data fromTarget := by
  obtain ⟨hconn, -, hsilent, -⟩ := h
  obtain ⟨htarget, hwritten⟩ := hsilent.writes ((Command.response isSucceeded).writeToBuf.take n)
  refine ⟨fun hne => absurd htarget hne, ?_⟩
  rw [hwritten]
  cases isSucceeded with
  | true =>
    refine Or.inr ⟨addr, hc, (hconn rfl).append _, ?_⟩
    exact (List.take_prefix _ _).trans (List.prefix_append _ _)
  | false => exact Or.inl (List.take_prefix _ _)

variable {up down : Bytes}
  (h : (ConnectPc.tunnel up down).Tunnels resolves log i recv fromTarget addr)

include h

/-- The copy loop reads bytes of the client. -/
theorem readStream {n : Nat} (hn : n ≤ recv.unread.length) :
    (ConnectPc.tunnel (up ++ recv.unread.take n) down).Tunnels resolves log i (recv.advance n)
      fromTarget addr := by
  obtain ⟨hconn, hle, hpos, htarget, hwritten⟩ := h
  rw [RecvStream.unread, List.length_drop] at hn
  refine ⟨hconn, Nat.le_add_right_of_le hle, ?_, ?_, hwritten⟩
  · show recv.pos + n ≤ recv.data.length
    omega
  · show _ = (recv.data.take (recv.pos + n)).drop _
    rw [← List.append_assoc, htarget, take_add_drop hle hpos, RecvStream.unread]

/-- The copy loop writes bytes to the target. -/
theorem writeTarget (n : Nat) :
    (ConnectPc.tunnel (up.drop n) down).Tunnels resolves ([.toTarget i (up.take n)].reverse ++ log)
      i recv fromTarget addr := by
  obtain ⟨hconn, hle, hpos, htarget, hwritten⟩ := h
  refine ⟨hconn.append _, hle, hpos, ?_, ?_⟩
  · rw [toTarget_append, ← htarget]
    simp [Event.toTargetOf]
  · rw [written_append, ← hwritten]
    simp [Event.toPeerOn]

/-- The copy loop reads bytes of the target. -/
theorem readTarget (data : Bytes) :
    (ConnectPc.tunnel up (down ++ data)).Tunnels resolves log i recv (fromTarget ++ data) addr := by
  obtain ⟨hconn, hle, hpos, htarget, hwritten⟩ := h
  refine ⟨hconn, hle, hpos, htarget, ?_⟩
  rw [← List.append_assoc, hwritten, List.append_assoc]

/-- The copy loop writes bytes to the client. -/
theorem writeStream (n : Nat) :
    (ConnectPc.tunnel up (down.drop n)).Tunnels resolves
      ([.toPeer (.biStream i) (down.take n)].reverse ++ log) i recv fromTarget addr := by
  obtain ⟨hconn, hle, hpos, htarget, hwritten⟩ := h
  refine ⟨hconn.append _, hle, hpos, ?_, ?_⟩
  · rw [toTarget_append, ← htarget]
    simp [Event.toTargetOf]
  · rw [written_append, ← hwritten]
    simp [Event.toPeerOn]

omit h

end ConnectPc.Tunnels

/-- **A step of `connect`** relays as the place says at which it leaves the handler. -/
theorem Task.Tunnels.connect {t : Task} (h : t.Tunnels resolves log i fromTarget)
    (hpc : t.pc = .relay (.connect pc)) {outcome : Outcome} {pc' : Option ConnectPc}
    (hsock : ∀ x, resolves (.socketAddress x) x)
    (hres : ∀ domain port addrs, pc = .resolve (.domainAddress domain port) →
      outcome = .resolved addrs → ∀ x ∈ addrs, resolves (.domainAddress domain port) x)
    (hstep : ConnectStep i t.recv pc outcome events recv' pc') :
    ({ t with recv := recv', pc := .ofRelay (pc'.map .connect) } : Task).Tunnels resolves
      (events.reverse ++ log) i (fromTarget ++ pc.fromTarget outcome) := by
  unfold Task.Tunnels at h
  rw [hpc] at h
  obtain ⟨addr, hc, h⟩ := h
  cases hstep with
  | known addr' outcome =>
    obtain ⟨rfl, hpos, hsilent, rfl⟩ := h
    refine ⟨_, hc, fun x hx => ?_, hpos, hsilent, rfl⟩
    rw [List.mem_singleton.mp hx]
    exact hsock _
  | resolved domain port addrs =>
    obtain ⟨rfl, hpos, hsilent, rfl⟩ := h
    refine ⟨_, hc, hres domain port addrs rfl rfl, hpos, hsilent.quiet ?_, rfl⟩
    simp [Event.toPeerOn, Event.toTargetOf]
  | unresolved domain port err =>
    refine h.2.2.1.quiet_relayed ?_
    simp [Event.toPeerOn, Event.toTargetOf]
  | exhausted outcome =>
    obtain ⟨-, hpos, hsilent, rfl⟩ := h
    refine ⟨addr, hc, fun hsucceeded => ?_, hpos, hsilent, rfl⟩
    cases hsucceeded
  | connected addr' addrs =>
    obtain ⟨haddrs, hpos, hsilent, rfl⟩ := h
    refine ⟨addr, hc, fun _ => ⟨addr', haddrs addr' List.mem_cons_self, List.mem_cons_self⟩, hpos,
      hsilent.quiet ?_, rfl⟩
    simp [Event.toPeerOn, Event.toTargetOf]
  | refused addr' addrs err =>
    obtain ⟨haddrs, hpos, hsilent, rfl⟩ := h
    refine ⟨addr, hc, fun x hx => haddrs x (List.mem_cons_of_mem _ hx), hpos, hsilent.quiet ?_, rfl⟩
    simp [Event.toPeerOn, Event.toTargetOf]
  | responds isSucceeded =>
    have hresponds := ConnectPc.Tunnels.responds h hc
    rw [← List.append_nil fromTarget] at hresponds
    exact ⟨addr, hc, hresponds⟩
  | cut isSucceeded n =>
    have hcut := ConnectPc.Tunnels.cut h hc n
    rw [← List.append_nil fromTarget] at hcut
    exact hcut
  | readStream up down n hn =>
    have hread := ConnectPc.Tunnels.readStream h hn
    rw [← List.append_nil fromTarget] at hread
    exact ⟨addr, hc, hread⟩
  | writeTarget up down n hn =>
    have hwrite := ConnectPc.Tunnels.writeTarget h n
    rw [← List.append_nil fromTarget] at hwrite
    exact ⟨addr, hc, hwrite⟩
  | readTarget up down data => exact ⟨addr, hc, ConnectPc.Tunnels.readTarget h data⟩
  | writeStream up down n hn =>
    have hwrite := ConnectPc.Tunnels.writeStream h n
    rw [← List.append_nil fromTarget] at hwrite
    exact ⟨addr, hc, hwrite⟩
  | ends up down outcome hdata =>
    have hnil : (ConnectPc.tunnel up down).fromTarget outcome = [] := by
      cases outcome with
      | readTarget data => exact absurd rfl (hdata data)
      | _ => rfl
    rw [hnil, List.append_nil]
    exact ConnectPc.Tunnels.relayed h hc
  | finish outcome events hevents =>
    have hquiet : events.flatMap (Event.toPeerOn (.biStream i)) = [] ∧
        events.flatMap (Event.toTargetOf i) = [] := by
      rcases hevents with rfl | rfl <;> exact ⟨rfl, rfl⟩
    obtain ⟨htarget, rfl, hwritten⟩ := h
    refine ⟨fun hne => absurd ?_ hne, Or.inl ?_⟩
    · rw [toTarget_append, htarget, hquiet.2]
      rfl
    · rw [written_append, hwritten, hquiet.1, List.append_nil]

/-- The events of others change nothing of what a handler has relayed. -/
theorem Task.Tunnels.other {t : Task} (h : t.Tunnels resolves log i fromTarget)
    (hevents : ∀ e ∈ events, e.owner ≠ .handler i) :
    t.Tunnels resolves (events.reverse ++ log) i fromTarget := by
  have htarget := toTarget_of_owner i log hevents
  have hwritten := written_of_owner (.biStream i) log hevents
  have hsilent : Silent log i → Silent (events.reverse ++ log) i :=
    fun hs => ⟨htarget.trans hs.1, hwritten.trans hs.2⟩
  unfold Task.Tunnels at h ⊢
  split at h
  · rename_i pc hpc
    obtain ⟨addr, hc, h⟩ := h
    refine ⟨addr, hc, ?_⟩
    cases pc with
    | resolve addr' => exact ⟨h.1, h.2.1, hsilent h.2.2.1, h.2.2.2⟩
    | attempt addrs => exact ⟨h.1, h.2.1, hsilent h.2.2.1, h.2.2.2⟩
    | respond isSucceeded =>
      exact ⟨fun hs => (h.1 hs).append _, h.2.1, hsilent h.2.2.1, h.2.2.2⟩
    | tunnel up down =>
      obtain ⟨hconn, hle, hpos, ht, hw⟩ := h
      exact ⟨hconn.append _, hle, hpos, htarget ▸ ht, hwritten ▸ hw⟩
    | finish => exact ⟨htarget.trans h.1, h.2.1, hwritten.trans h.2.2⟩
  · refine ⟨?_, ?_⟩
    · rw [htarget]
      exact h.toTarget
    · rw [hwritten]
      refine h.written.imp_right ?_
      rintro ⟨addr, hc, hconn, hw⟩
      exact ⟨addr, hc, hconn.append _, hw⟩
  · exact ⟨hsilent h.1, h.2⟩

/-- More bytes of its stream change nothing of what a handler has relayed. -/
theorem Task.Tunnels.on {t : Task} (h : t.Tunnels resolves log i fromTarget) {ev : StreamEvent}
    (hon : t.recv.on ev = some recv) :
    ({ t with recv := recv } : Task).Tunnels resolves log i fromTarget := by
  obtain ⟨-, hpos, x, hx⟩ := RecvStream.on_cases hon
  unfold Task.Tunnels at h ⊢
  split at h
  · rename_i pc hpc
    simp only [hpc]
    obtain ⟨addr, hc, h⟩ := h
    refine ⟨addr, hx ▸ hc.append x, ?_⟩
    cases pc with
    | resolve addr' => exact ⟨h.1, hpos.trans h.2.1, h.2.2⟩
    | attempt addrs => exact ⟨h.1, hpos.trans h.2.1, h.2.2⟩
    | respond isSucceeded => exact ⟨h.1, hpos.trans h.2.1, h.2.2⟩
    | tunnel up down =>
      obtain ⟨hconn, hle, hlen, ht, hw⟩ := h
      refine ⟨hconn, hpos ▸ hle, ?_, ?_, hw⟩
      · rw [hpos, hx, List.length_append]
        exact Nat.le_add_right_of_le hlen
      · rw [hpos, hx, List.take_append_of_le_length hlen]
        exact ht
    | finish => exact h
  · rename_i hpc
    simp only [hpc]
    refine ⟨fun hne => ?_, h.written.imp_right ?_⟩
    · obtain ⟨addr, hc, hprefix⟩ := h.toTarget hne
      refine ⟨addr, hx ▸ hc.append x, hprefix.trans ?_⟩
      rw [hx, List.drop_append_of_le_length hc.serializedLen_le]
      exact List.prefix_append _ _
    · rintro ⟨addr, hc, hconn, hw⟩
      exact ⟨addr, hx ▸ hc.append x, hconn, hw⟩
  · exact h

end Tunnels

/-! ## All handlers of a connection -/

namespace Established

/-- What a step of a connection reads from the target of handler `i`. -/
def fromTarget (s : Established) (a : Action) (i : Nat) : Bytes :=
  match a, s.tasks[i]?.map Task.pc with
  | .task j outcome, some (.relay (.connect pc)) => if j = i then pc.fromTarget outcome else []
  | _, _ => []

/-- The name resolution of a step answers as `resolves` says. -/
def ResolvesBy (resolves : Address → SocketAddr → Prop) (s : Established) (a : Action) : Prop :=
  ∀ (i : Nat) (t : Task) (domain : String) (port : UInt16) (addrs : List SocketAddr),
    a = .task i (.resolved addrs) → s.tasks[i]? = some t →
    t.pc = .relay (.connect (.resolve (.domainAddress domain port))) →
    ∀ x ∈ addrs, resolves (.domainAddress domain port) x

/-- What all handlers have relayed, given what their targets have sent. -/
structure Tunnels (resolves : Address → SocketAddr → Prop) (s : Established) (sent : Nat → Bytes) :
    Prop where
  /-- Every handler, where it stands. -/
  handlers : All (fun i t => t.Tunnels resolves s.conn.log i (sent i)) s.tasks
  /-- There are no others. -/
  silent : ∀ i, s.tasks.length ≤ i → Silent s.conn.log i ∧ sent i = []

variable {resolves : Address → SocketAddr → Prop} {cfg : Config} {s s' : Established} {a : Action}
  {sent : Nat → Bytes}

/-- Only a step of its own reads from the target of a handler. -/
theorem fromTarget_of_owner {i : Nat} (h : a.owner ≠ .handler i) : s.fromTarget a i = [] := by
  unfold fromTarget
  split
  · rename_i j outcome pc
    exact if_neg fun hj => h (congrArg Owner.handler hj)
  · rfl

/-- A handler that makes a step relays as the place says that it gets to. -/
theorem tunnels_task {i : Nat} {outcome : Outcome} {t t' : Task} {conn : Connection}
    (h : t.Tunnels resolves s.conn.log i (sent i)) (hs : t.Sound cfg.token s.conn)
    (hp : t.Placed) (hsock : ∀ x, resolves (.socketAddress x) x)
    (hres : s.ResolvesBy resolves (.task i outcome)) (hi : s.tasks[i]? = some t)
    (hstep : t.step cfg.token s.conn i outcome = some (conn, t')) :
    t'.Tunnels resolves conn.log i (sent i ++ s.fromTarget (.task i outcome) i) := by
  by_cases hconn : ∃ pc, t.pc = .relay (.connect pc)
  · obtain ⟨pc, hpc⟩ := hconn
    obtain ⟨events, recv, pc', hconnect, hlog, rfl⟩ := Task.step_connect hpc hstep
    have hfrom : s.fromTarget (.task i outcome) i = pc.fromTarget outcome := by
      simp only [fromTarget, hi, Option.map_some, hpc, if_true]
    rw [hlog, hfrom]
    refine h.connect hpc hsock (fun domain port addrs hresolve hout => ?_) hconnect
    exact hres i t domain port addrs (congrArg _ hout) hi (hresolve ▸ hpc)
  · have hnot : ∀ pc, t.pc ≠ .relay (.connect pc) := fun pc hpc => hconn ⟨pc, hpc⟩
    have htask := taskStep_cases hstep
    obtain ⟨events, hlog, hquiet⟩ := htask.relays_nothing hnot
    have hfrom : s.fromTarget (.task i outcome) i = [] := by
      unfold fromTarget
      split
      · rename_i pc _ hmap
        rw [hi] at hmap
        exact absurd (Option.some.inj hmap) (hnot pc)
      · rfl
    -- it has relayed nothing yet
    have hsilent : Silent conn.log i ∧ sent i ++ s.fromTarget (.task i outcome) i = [] := by
      have hbefore : Silent s.conn.log i ∧ sent i = [] := by
        unfold Task.Tunnels at h
        split at h
        · rename_i pc hpc
          exact absurd hpc (hnot pc)
        · rename_i hpc
          unfold Task.step at hstep
          rw [hpc] at hstep
          cases hstep
        · exact h
      rw [hlog, hfrom, hbefore.2]
      exact ⟨hbefore.1.quiet hquiet, rfl⟩
    unfold Task.Tunnels
    split
    · rename_i pc hpc
      -- it has just dispatched its `Connect`
      obtain ⟨addr, hd, rfl, hrecv⟩ := htask.enters_connect hs hpc hnot
      unfold Task.Placed at hp
      obtain ⟨-, hpcs⟩ := hs
      rw [hd] at hp hpcs
      rw [hrecv]
      exact ⟨addr, hpcs.1, rfl, hp, hsilent⟩
    · exact hsilent.1.relayed
    · exact hsilent

/-- **Every step keeps what the handlers have relayed to what their places say.** -/
theorem Tunnels.step (h : s.Tunnels resolves sent)
    (hr : (connectionSystem cfg).Reachable s) (hsock : ∀ x, resolves (.socketAddress x) x)
    (hres : s.ResolvesBy resolves a) (hstep : (connectionSystem cfg).step s a = some s') :
    s'.Tunnels resolves fun i => sent i ++ s.fromTarget a i := by
  have hs := step_cases hstep
  obtain ⟨events, hlog, howner⟩ := hs.events
  -- what the other tasks do leaves a handler alone
  have hother : ∀ i, a.owner ≠ .handler i →
      (∀ e ∈ events, e.owner ≠ .handler i) ∧ sent i ++ s.fromTarget a i = sent i := by
    intro i hi
    refine ⟨fun e he heq => ?_, by rw [fromTarget_of_owner hi, List.append_nil]⟩
    rcases howner e he with hown | hown
    · exact hi (hown.symm.trans heq)
    · cases hown.symm.trans heq
  have hsilent : ∀ i, s.tasks.length ≤ i →
      Silent s'.conn.log i ∧ sent i ++ s.fromTarget a i = [] := by
    intro i hi
    have hne : a.owner ≠ .handler i := by
      intro hown
      cases hs with
      | task j outcome t t' conn hj htask =>
        cases hown
        have hlt := (List.getElem?_eq_some_iff.mp hj).1
        omega
      | _ => cases hown
    obtain ⟨hevents, hsent⟩ := hother i hne
    obtain ⟨⟨htarget, hwritten⟩, hnil⟩ := h.silent i hi
    rw [hsent, hlog]
    refine ⟨⟨?_, ?_⟩, hnil⟩
    · rw [toTarget_of_owner i _ hevents, htarget]
    · rw [written_of_owner (.biStream i) _ hevents, hwritten]
  refine ⟨fun i t' hi => ?_, fun i hi => hsilent i ?_⟩
  · have hkeep : ∀ t : Task, t.Tunnels resolves s.conn.log i (sent i) → a.owner ≠ .handler i →
        t.Tunnels resolves s'.conn.log i (sent i ++ s.fromTarget a i) := by
      intro t ht hown
      obtain ⟨hevents, hsent⟩ := hother i hown
      rw [hsent, hlog]
      exact ht.other hevents
    rcases hs.task_cases hi with ⟨hi, hnot⟩ | ⟨rfl, hfresh⟩ | ⟨outcome, t, rfl, hi₀, -⟩ |
      ⟨ev, t, recv, rfl, hi₀, hon, rfl⟩
    · refine hkeep t' (h.handlers i t' hi) fun hown => ?_
      cases a with
      | task j outcome =>
        cases hown
        exact hnot outcome rfl
      | _ => cases hown
    · show t'.Tunnels resolves s'.conn.log _ _
      unfold Task.Tunnels
      rw [hfresh.1]
      exact hsilent _ (Nat.le_refl _)
    · obtain ⟨t₀, conn, t₁, hi₁, hcomp, rfl⟩ := exists_of_step_task hstep
      cases hi₀.symm.trans hi₁
      cases hi.symm.trans (getElem?_set_of_some hi₀)
      exact tunnels_task (h.handlers i t hi₀) (sound_of_reachable hr i t hi₀)
        (placed_of_reachable hr i t hi₀) hsock hres hi₀ hcomp
    · exact hkeep _ ((h.handlers i t hi₀).on hon) Owner.noConfusion
  · have hlen : s.tasks.length ≤ s'.tasks.length := by
      rcases hs.tasks_cases with ⟨heq, -⟩ | ⟨st, t, -, -, -, rfl⟩ |
        ⟨j, outcome, t, t', -, -, -, heq⟩ | ⟨j, ev, t, recv, -, -, -, rfl⟩
      · rw [heq]
      · exact List.length_append.symm ▸ Nat.le_add_right _ _
      · rw [heq, List.length_set]
      · exact List.length_set.ge
    exact Nat.le_trans hlen hi

end Established

end Tuic.Server
