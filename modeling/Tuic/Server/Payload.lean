import Tuic.Server.Handlers

/-! # The payload of a packet

What the two receive paths of the server make of a packet. `process_datagram` slices the header off
the datagram and hands on all that follows it; `process_uni_stream` reads as many bytes as the
length field of the header says. Each path is followed on a fresh connection whose client is
authenticated, from its first step to its call of `UdpSessionMap::send`, or to its return without
one (`handed`).

`handed_datagram` and `handed_uniStream` say what that is for every item that starts with the header
of a packet; they agree exactly when the length field tells the truth. -/

namespace Tuic.Server

open ByteCodec

/-- A fresh connection, of a client that has authenticated. -/
def Connection.authenticated : Connection := Connection.new.setAuthenticated

/-- What a handler has come to: its call of `UdpSessionMap::send`, with the packet it hands over, or
its return without one. There is no result while it is under way to either. -/
def Task.settled (t : Task) : Option (Option Packet) :=
  match t.call with
  | some call => some (some call.packet)
  | none => if t.returned then some none else none

/-- Follow a handler for at most `n` steps to its call, or to its return. -/
def Task.handed (token : List Digest) : Nat → Connection → Task → Option (Option Packet)
  | 0, _, t => t.settled
  | n + 1, c, t =>
    t.settled.or ((t.step token c 0 .ok).bind fun (c', t') => handed token n c' t')

/-- What the handler of an item hands over, with `n` steps to do it in. The whole of the item is
there: a datagram, or all bytes of a finished stream. -/
def handed (token : List Digest) (n : Nat) (src : Source) (f : Bytes) : Option (Option Packet) :=
  Task.handed token n .authenticated (.new src ⟨f, 0, .finished⟩)

/-! ## From the header to the relay task -/

/-- A handler that is in no call and has not returned goes on with its next step. -/
theorem Task.handed_of_step {token : List Digest} {n : Nat} {c c' : Connection} {t t' : Task}
    (hunder : t.settled = none) (hstep : t.step token c 0 .ok = some (c', t')) :
    Task.handed token (n + 1) c t = Task.handed token n c' t' := by
  rw [Task.handed, hunder, hstep]
  rfl

/-- More steps do not change what a handler has come to. -/
theorem Task.handed_of_settled {token : List Digest} {n : Nat} {c : Connection} {t : Task}
    {r : Option Packet} (h : t.settled = some r) : Task.handed token n c t = some r := by
  cases n with
  | zero => exact h
  | succ n =>
    rw [Task.handed, h]
    rfl

/-- A packet waits at the barrier, whatever it came in on. -/
theorem Pc.ofCommand_packet (token : List Digest) (src : Source) (assocId : UInt32) (len : UInt16)
    (addr : Address) :
    Pc.ofCommand token src (.packet assocId len addr) = .await (.packet assocId len addr) := by
  cases src <;> rfl

/-- The barrier of an open connection lets the commands of an authenticated client pass. -/
theorem Task.step_await {token : List Digest} {c : Connection} {i : Nat} {src : Source}
    {recv : RecvStream} {cmd : Command} (outcome : Outcome)
    (hopen : c.isAuthenticated.isConnectionClosed.check = false)
    (hflag : c.isAuthenticated.isAuthenticated = true) :
    (⟨src, recv, .await cmd⟩ : Task).step token c i outcome =
      some ((c.poll (.handler i)).1, ⟨src, recv, .dispatch cmd⟩) := by
  have hres : (c.poll (.handler i)).2 = some true := by
    rcases c.poll_cases (.handler i) with ⟨hclosed, -⟩ | ⟨-, -, hres, -⟩ | ⟨-, hunset, -⟩
    · rw [hopen] at hclosed
      cases hclosed
    · exact hres
    · rw [hflag] at hunset
      cases hunset
  show some (_, (⟨src, recv, .ofPoll cmd (c.poll (.handler i)).2⟩ : Task)) = _
  rw [hres]
  rfl

/-- A handler past the barrier whose `match` starts a relay task is at the beginning of it. -/
theorem Task.step_start {token : List Digest} {c : Connection} {i : Nat} {src : Source}
    {recv : RecvStream} {cmd : Command} {cell : UdpPacketFrom} {task : RelayTask}
    (outcome : Outcome)
    (hres : Server.dispatch c.udpPacketFrom src recv.data cmd = (cell, .start task)) :
    (⟨src, recv, .dispatch cmd⟩ : Task).step token c i outcome =
      some ({ c with udpPacketFrom := cell }.emit [.started i task],
        ⟨src, recv, .relay task.entry⟩) := by
  simp only [Task.step, hres]
  rfl

/-- A handler in a relay task goes on with it. -/
theorem Task.step_relay {token : List Digest} {c : Connection} {i : Nat} {src : Source}
    {recv recv' : RecvStream} {r : Relay} {outcome : Outcome} {u : Udp} {events : List Event}
    {r' : Option Relay}
    (h : relayStep c.udpSessions i recv r outcome = some (u, events, recv', r')) :
    (⟨src, recv, .relay r⟩ : Task).step token c i outcome =
      some ({ c with udpSessions := u }.emit events, ⟨src, recv', .ofRelay r'⟩) := by
  simp only [Task.step, h]

section Packet

variable {token : List Digest} {f rest : Bytes} {assocId : UInt32} {len : UInt16}
  {addr : Address}

/-- **The way to the relay task**: the handler of a packet decodes the header, passes the barrier of
an authenticated connection, and starts the relay task of its channel. -/
theorem handed_eq_relay (token : List Digest) (src : Source)
    (hf : Command.readFrom f = .ok (.packet assocId len addr, rest)) {m : UdpPacketSource}
    (hm : src.mode = some m) {task : RelayTask}
    (htask : src.relayTask f (.packet assocId len addr) = some task) (n : Nat) :
    ∃ c, handed token (n + 3) src f = Task.handed token n c
      ⟨src, ⟨f, (Command.packet assocId len addr).serializedLen, .finished⟩,
        .relay task.entry⟩ := by
  have hpos : f.length - rest.length = (Command.packet assocId len addr).serializedLen := by
    have hlen := (Command.serializedLen_of_readFrom hf).1
    omega
  -- the header is decoded, and the handler goes to the barrier
  have hread : (Task.new src ⟨f, 0, .finished⟩).step token .authenticated 0 .ok =
      some (Connection.authenticated.emit [.decoded 0 src (.packet assocId len addr)],
        ⟨src, ⟨f, (Command.packet assocId len addr).serializedLen, .finished⟩,
          .await (.packet assocId len addr)⟩) := by
    simp only [Task.step, Task.new, Task.readCommand, hf, Pc.ofCommand_packet, RecvStream.advance,
      hpos, Nat.zero_add]
  -- it is the first packet, so its claim of the relay mode succeeds
  have hdispatch : Server.dispatch none src f (.packet assocId len addr) =
      (some m, .start task) := by
    generalize hres : Server.dispatch none src f (.packet assocId len addr) = res
    obtain ⟨cell, res⟩ := res
    cases dispatch_cases ⟨rest, hf⟩ (Pc.ofCommand_packet token src assocId len addr) hres with
    | packet _ _ _ m' task' hm' _ htask' =>
      rw [hm] at hm'
      rw [htask] at htask'
      cases hm'
      cases htask'
      rfl
    | otherMode _ _ _ _ _ _ hcell _ => cases hcell
    | other _ _ hcmd _ => exact absurd rfl (hcmd assocId len addr)
    | notAllowed _ hnone _ =>
      rw [htask] at hnone
      cases hnone
  rw [handed, Task.handed_of_step rfl hread,
    Task.handed_of_step rfl (Task.step_await .ok rfl rfl)]
  exact ⟨_, Task.handed_of_step rfl (Task.step_start .ok hdispatch)⟩

/-- **What a datagram hands over**: all that follows the header, whatever the length field says. -/
theorem handed_datagram (hf : Command.readFrom f = .ok (.packet assocId len addr, rest)) (n : Nat) :
    handed token (n + 4) .datagram f = some (some ⟨assocId, rest, addr⟩) := by
  obtain ⟨-, hrest⟩ := Command.serializedLen_of_readFrom hf
  obtain ⟨c, hc⟩ := handed_eq_relay token .datagram hf rfl rfl (n + 1)
  rw [hc]
  refine Task.handed_of_settled ?_
  show some (some (Packet.mk assocId (f.drop _) addr)) = _
  rw [hrest]

/-- **What a stream hands over**: as many bytes after the header as the length field says, or
nothing when fewer follow. -/
theorem handed_uniStream (hf : Command.readFrom f = .ok (.packet assocId len addr, rest))
    (n : Nat) :
    handed token (n + 4) .uniStream f =
      some (if len.toNat ≤ rest.length then some ⟨assocId, rest.take len.toNat, addr⟩
        else none) := by
  obtain ⟨-, hrest⟩ := Command.serializedLen_of_readFrom hf
  obtain ⟨c, hc⟩ := handed_eq_relay token .uniStream hf rfl rfl (n + 1)
  rw [hc]
  generalize hrecv : (⟨f, (Command.packet assocId len addr).serializedLen, .finished⟩ :
      RecvStream) = recv
  have hunread : recv.unread = rest := by
    rw [← hrecv]
    exact hrest
  have hend : recv.status ≠ .receiving := by
    rw [← hrecv]
    exact StreamStatus.noConfusion
  rw [RelayTask.entry]
  -- `read_exact` finds the bytes there, or the end of the stream
  by_cases hlen : len.toNat ≤ rest.length
  · have hread : relayStep c.udpSessions 0 recv (.readPayload assocId len addr) .ok =
        some (c.udpSessions, [], recv.advance len.toNat,
          some (.send (.lookup ⟨assocId, rest.take len.toNat, addr⟩))) := by
      rw [relayStep, hunread, if_pos hlen]
    rw [if_pos hlen, Task.handed_of_step rfl (Task.step_relay hread)]
    exact Task.handed_of_settled rfl
  · have hread : relayStep c.udpSessions 0 recv (.readPayload assocId len addr) .ok =
        some (c.udpSessions, [], recv, none) := by
      rw [relayStep, hunread, if_neg hlen, if_neg hend]
    rw [if_neg hlen, Task.handed_of_step rfl (Task.step_relay hread)]
    exact Task.handed_of_settled rfl

end Packet

/-! ## The two paths compared -/

/-- The two receive paths hand the same to `send`: the bytes the length field of the header stands
for, when they are there, and nothing otherwise. -/
def PathsAgree (token : List Digest) (n : Nat) (f : Bytes) (assocId : UInt32) (len : UInt16)
    (addr : Address) (rest : Bytes) : Prop :=
  handed token n .datagram f = handed token n .uniStream f ∧
    handed token n .uniStream f =
      some (if len.toNat ≤ rest.length then some ⟨assocId, rest.take len.toNat, addr⟩ else none)

/-- **When the two paths agree.** For every item that starts with the header of a packet, both
handlers come to their call or their return within four steps, and they agree exactly when the
length field is the number of bytes that follow the header: the datagram path does not look at
the field. -/
theorem pathsAgree_iff (token : List Digest) (f : Bytes) (assocId : UInt32) (len : UInt16)
    (addr : Address) (rest : Bytes)
    (hf : Command.readFrom f = .ok (.packet assocId len addr, rest)) (n : Nat) :
    PathsAgree token (n + 4) f assocId len addr rest ↔ rest.length = len.toNat := by
  rw [PathsAgree, handed_datagram hf, handed_uniStream hf, and_iff_left rfl]
  by_cases hlen : len.toNat ≤ rest.length
  · rw [if_pos hlen]
    constructor
    · intro h
      -- the payloads are equal, and one of them has the length of the field
      have hrest : rest = rest.take len.toNat := by simpa using h
      have htake : (rest.take len.toNat).length = len.toNat := by simpa using hlen
      rw [hrest, htake]
    · intro h
      rw [← h, List.take_length]
  · rw [if_neg hlen]
    constructor
    · intro h
      cases h
    · intro h
      omega

/-- The condition is met by the frames the client sends, here one with two bytes of payload. -/
theorem pathsAgree_iff_two :
    Command.readFrom [4, 2, 0, 0, 0, 7, 0, 2, 1, 127, 0, 0, 1, 0, 53, 1, 2] =
        .ok (.packet 7 2 (.socketAddress (.v4 ⟨127, 0, 0, 1⟩ 53)), [1, 2]) ∧
      PathsAgree [] 4 [4, 2, 0, 0, 0, 7, 0, 2, 1, 127, 0, 0, 1, 0, 53, 1, 2] 7 2
        (.socketAddress (.v4 ⟨127, 0, 0, 1⟩ 53)) [1, 2] :=
  ⟨by decide, (pathsAgree_iff [] _ 7 2 _ [1, 2] (by decide) 0).mpr rfl⟩

/-- A datagram with three bytes behind a header that announces two is relayed with all three. -/
theorem not_pathsAgree_three :
    Command.readFrom [4, 2, 0, 0, 0, 7, 0, 2, 1, 127, 0, 0, 1, 0, 53, 1, 2, 3] =
        .ok (.packet 7 2 (.socketAddress (.v4 ⟨127, 0, 0, 1⟩ 53)), [1, 2, 3]) ∧
      ¬ PathsAgree [] 4 [4, 2, 0, 0, 0, 7, 0, 2, 1, 127, 0, 0, 1, 0, 53, 1, 2, 3] 7 2
        (.socketAddress (.v4 ⟨127, 0, 0, 1⟩ 53)) [1, 2, 3] := by
  refine ⟨by decide, fun h => ?_⟩
  have hdatagram : handed [] 4 .datagram [4, 2, 0, 0, 0, 7, 0, 2, 1, 127, 0, 0, 1, 0, 53, 1, 2, 3] =
      some (some ⟨7, [1, 2, 3], .socketAddress (.v4 ⟨127, 0, 0, 1⟩ 53)⟩) := by decide
  have huni : handed [] 4 .uniStream [4, 2, 0, 0, 0, 7, 0, 2, 1, 127, 0, 0, 1, 0, 53, 1, 2, 3] =
      some (some ⟨7, [1, 2], .socketAddress (.v4 ⟨127, 0, 0, 1⟩ 53)⟩) := by decide
  rw [PathsAgree, hdatagram, huni] at h
  cases h.1

end Tuic.Server
