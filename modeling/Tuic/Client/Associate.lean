import Tuic.Protocol.RoundTrip
import Tuic.Transition.Pool
import Mathlib.Data.List.AList

/-! # The client's side of an association

`client/src/relay/request.rs` and `client/src/relay/task.rs`, as far as they send. An `Associate`
request enters its association into the session table, hands every packet of the application to a
task of its own, and when the application is gone takes the association out of the table and sends
one `Dissociate`. `Connection::new` starts with a task that sends the `Authenticate`, and the
heartbeat task sends `Heartbeat` commands.

A sending task opens a stream, writes its buffers one after the other and finishes the stream, or
hands the whole to QUIC as a datagram. What it has written so far is all the peer can have
received (`Send.Wf`). -/

namespace Tuic

open ByteCodec Transition

namespace Client

/-- How packets are relayed. -/
inductive UdpRelayMode where
  /-- In datagrams. -/
  | native
  /-- On unidirectional streams. -/
  | quic
  deriving DecidableEq, Repr

/-- What a command is sent on. -/
inductive Channel where
  /-- A unidirectional stream. -/
  | uniStream
  /-- A datagram. -/
  | datagram
  deriving DecidableEq, Repr

/-! ## Sending tasks -/

/-- What a sending task is for. The addresses of packets come from SOCKS5 requests, in which a
domain has at most 255 bytes. -/
inductive Frame where
  /-- `send_packet` -/
  | packet (mode : UdpRelayMode) (assocId : UInt32) (pkt : Bytes) (addr : Address)
      (fits : addr.Fits)
  /-- `send_dissociate` -/
  | dissociate (assocId : UInt32)
  /-- `send_token` -/
  | token (tokenDigest : List.Vector UInt8 32)
  /-- `send_heartbeat` -/
  | heartbeat

namespace Frame

/-- The command a task sends. -/
def cmd : Frame → Command
  | .packet _ assocId pkt addr _ => .packet assocId (UInt16.ofNat pkt.length) addr
  | .dissociate assocId => .dissociate assocId
  | .token tokenDigest => .authenticate tokenDigest
  | .heartbeat => .heartbeat

/-- What it is sent on. -/
def channel : Frame → Channel
  | .packet .native _ _ _ _ => .datagram
  | _ => .uniStream

/-- The buffers a task hands to QUIC, one after the other. -/
def bufs (f : Frame) : List Bytes :=
  match f with
  | .packet .native _ pkt _ _ => [f.cmd.writeToBuf ++ pkt]
  -- `write_to` and `write_all` are two writes, so the header may arrive without the payload
  | .packet .quic _ pkt _ _ => [f.cmd.writeToBuf, pkt]
  | _ => [f.cmd.writeToBuf]

/-- All bytes a task sends. -/
def bytes (f : Frame) : Bytes := f.bufs.flatten

/-- The association of a packet. -/
def packetId : Frame → Option UInt32
  | .packet _ assocId _ _ _ => some assocId
  | _ => none

/-- The association of a `Dissociate`. -/
def dissociateId : Frame → Option UInt32
  | .dissociate assocId => some assocId
  | _ => none

/-- Every command that is sent fits its encoding. -/
theorem cmd_fits (f : Frame) : f.cmd.Fits := by
  cases f with
  | packet mode assocId pkt addr fits => exact fits
  | dissociate assocId => trivial
  | token tokenDigest => trivial
  | heartbeat => trivial

/-- The bytes of a frame begin with its command. -/
theorem cmd_prefix_bytes (f : Frame) : f.cmd.writeToBuf <+: f.bytes := by
  cases f with
  | packet mode assocId pkt addr fits =>
    cases mode with
    | native => exact ⟨pkt, by simp [bytes, bufs]⟩
    | quic => exact ⟨pkt, by simp [bytes, bufs]⟩
  | dissociate assocId => exact ⟨[], by simp [bytes, bufs]⟩
  | token tokenDigest => exact ⟨[], by simp [bytes, bufs]⟩
  | heartbeat => exact ⟨[], by simp [bytes, bufs]⟩

/-- No frame is empty. -/
theorem bytes_ne_nil (f : Frame) : f.bytes ≠ [] := by
  obtain ⟨rest, hrest⟩ := f.cmd_prefix_bytes
  rw [← hrest]
  cases hcmd : f.cmd <;> simp [Command.writeToBuf]

end Frame

/-- Where a sending task stands. -/
inductive SendPc where
  /-- Before its stream is open, or before the datagram is handed over. -/
  | start
  /-- Before these buffers are written and the stream is finished. -/
  | write (bufs : List Bytes)
  /-- Returned, without an error or with one. -/
  | returned (isOk : Bool)
  deriving DecidableEq

/-- How an operation of a sending task ends. -/
inductive SendOutcome where
  /-- It succeeds. -/
  | ok
  /-- It fails; a write may have got `n` bytes through. -/
  | fail (n : Nat)
  deriving DecidableEq

/-- A sending task, with what it has sent. -/
structure Send where
  /-- What it is for. -/
  frame : Frame
  /-- Where it stands. -/
  pc : SendPc
  /-- The bytes it has written so far. -/
  sent : Bytes

namespace Send

/-- A new sending task. -/
def new (f : Frame) : Send := ⟨f, .start, []⟩

/-- One step of a sending task. An operation on a stream fails when the connection is closed, or
when the peer has stopped the stream, which it can do once something of it has arrived; a datagram
may be refused at any time, as too large. -/
def step (closed : Bool) (snd : Send) (outcome : SendOutcome) : Option Send :=
  match snd.pc, snd.frame.channel, outcome with
  | .start, .datagram, .ok => some { snd with pc := .returned true, sent := snd.frame.bytes }
  | .start, .datagram, .fail _ => some { snd with pc := .returned false }
  | .start, .uniStream, .ok => some { snd with pc := .write snd.frame.bufs }
  | .start, .uniStream, .fail _ =>
    if closed then some { snd with pc := .returned false } else none
  | .write (buf :: bufs), _, .ok =>
    some { snd with pc := .write bufs, sent := snd.sent ++ buf }
  | .write (buf :: _), _, .fail n =>
    if closed ∨ snd.sent ++ buf.take n ≠ [] then
      some { snd with pc := .returned false, sent := snd.sent ++ buf.take n }
    else none
  | .write [], _, .ok => some { snd with pc := .returned true }
  | .write [], _, .fail _ => some { snd with pc := .returned false }
  | .returned _, _, _ => none

/-- What a sending task has sent, where it stands. -/
structure Wf (closed : Bool) (snd : Send) : Prop where
  /-- What it has sent and what it has still to write are its frame. -/
  sent : match snd.pc with
    | .start => snd.sent = []
    | .write bufs => snd.sent ++ bufs.flatten = snd.frame.bytes
    | .returned _ => snd.sent <+: snd.frame.bytes
  /-- A stream on which nothing is sent fails only when the connection is closed. -/
  failed : snd.pc = .returned false → snd.sent = [] → snd.frame.channel = .uniStream → closed = true

variable {closed : Bool} {snd snd' : Send} {outcome : SendOutcome}

/-- What was sent is the beginning of the frame. -/
theorem Wf.begins (h : snd.Wf closed) : snd.sent <+: snd.frame.bytes := by
  have hsent := h.sent
  split at hsent
  · rw [hsent]
    exact List.nil_prefix
  · exact ⟨_, hsent⟩
  · exact hsent

/-- A step of a sending task keeps its frame and what holds of it, and takes back nothing of what
was sent. -/
theorem Wf.step (hw : snd.Wf closed) (h : snd.step closed outcome = some snd') :
    snd'.Wf closed ∧ snd'.frame = snd.frame ∧ snd.sent <+: snd'.sent := by
  have hsent := hw.sent
  unfold Send.step at h
  split at h
  · rename_i hpc hch
    cases h
    rw [hpc] at hsent
    exact ⟨⟨List.prefix_refl _, by simp⟩, rfl, by simp [show snd.sent = [] from hsent]⟩
  · rename_i hpc hch
    cases h
    refine ⟨⟨hw.begins, fun _ _ huni => ?_⟩, rfl, List.prefix_refl _⟩
    rw [hch] at huni
    cases huni
  · rename_i hpc hch
    cases h
    rw [hpc] at hsent
    refine ⟨⟨?_, by simp⟩, rfl, List.prefix_refl _⟩
    show snd.sent ++ _ = _
    rw [show snd.sent = [] from hsent]
    rfl
  · split at h
    · rename_i hclosed
      cases h
      exact ⟨⟨hw.begins, fun _ _ _ => hclosed⟩, rfl, List.prefix_refl _⟩
    · cases h
  · rename_i buf bufs hpc
    cases h
    rw [hpc] at hsent
    refine ⟨⟨?_, by simp⟩, rfl, List.prefix_append _ _⟩
    show (snd.sent ++ buf) ++ bufs.flatten = _
    rw [List.append_assoc]
    exact hsent
  · rename_i buf bufs n hpc
    split at h
    · rename_i hfails
      cases h
      rw [hpc] at hsent
      refine ⟨⟨?_, fun _ hnil _ => hfails.resolve_right fun hne => hne hnil⟩, rfl,
        List.prefix_append _ _⟩
      show snd.sent ++ buf.take n <+: snd.frame.bytes
      -- a write that fails got a beginning of its buffer through
      have htake : buf.take n <+: buf ++ bufs.flatten :=
        List.IsPrefix.trans (buf.take_prefix n) (List.prefix_append _ _)
      rw [← show snd.sent ++ (buf ++ bufs.flatten) = snd.frame.bytes from hsent]
      exact (List.prefix_append_right_inj _).mpr htake
    · cases h
  · cases h
    exact ⟨⟨hw.begins, by simp⟩, rfl, List.prefix_refl _⟩
  · rename_i n hpc
    cases h
    rw [hpc] at hsent
    refine ⟨⟨hw.begins, fun _ hnil _ => ?_⟩, rfl, List.prefix_refl _⟩
    -- everything was written before the stream is finished, so something was sent
    have hbytes : snd.sent = snd.frame.bytes := by simpa using hsent
    exact absurd (hbytes.symm.trans hnil) snd.frame.bytes_ne_nil
  · cases h

/-- A new sending task has sent nothing. -/
theorem Wf.new (f : Frame) (closed : Bool) : (Send.new f).Wf closed :=
  ⟨rfl, fun h => by cases h⟩

/-- Nothing of the frame was sent, and nothing will be. -/
def Refused (snd : Send) : Prop := snd.pc = .returned false ∧ snd.sent = []

instance (snd : Send) : Decidable snd.Refused := inferInstanceAs (Decidable (_ ∧ _))

/-- A task that has sent nothing for good makes no step. -/
theorem not_refused_of_step (h : snd.step closed outcome = some snd') : ¬ snd.Refused := by
  rintro ⟨hpc, -⟩
  unfold Send.step at h
  rw [hpc] at h
  cases h

end Send

/-! ## Associations -/

/-- Where the task of an `Associate` request stands. -/
inductive AssociatePc where
  /-- Before the association is entered into the session table. -/
  | insert
  /-- Waiting for a packet of the application. -/
  | recv
  /-- The application is gone; before the association is taken out of the session table. -/
  | remove
  /-- In `handle_dissociate`, which is a sending task here. -/
  | dissociate
  deriving DecidableEq, Repr

/-- The task of an `Associate` request. -/
structure Association where
  /-- The id that was drawn for it. -/
  assocId : UInt32
  /-- Where it stands. -/
  pc : AssociatePc
  deriving DecidableEq, Repr

/-- A client connection, as far as it sends. -/
structure Connection where
  /-- How packets are relayed. -/
  udpRelayMode : UdpRelayMode
  /-- The session table: the association whose application gets the packets that come back. -/
  udpSessions : AList fun _ : UInt32 => Nat
  /-- The tasks of `Associate` requests, each named by its index. -/
  assocs : List Association
  /-- The sending tasks, each named by its index. -/
  sends : List Send
  /-- The connection is closed, as this side sees it. -/
  closed : Bool

/-- What the task of an `Associate` request does next. -/
inductive AssociateStep where
  /-- It goes on. -/
  | go
  /-- It gets a packet of the application, or finds the application gone. -/
  | recv (msg : Option (Bytes × Address))

/-- A step of a client connection. -/
inductive Action where
  /-- An `Associate` request gets the connection; any id may be drawn for it. -/
  | request (assocId : UInt32)
  /-- Of the task of an `Associate` request. -/
  | associate (a : Nat) (st : AssociateStep)
  /-- The heartbeat task sends a heartbeat. -/
  | heartbeat
  /-- Of a sending task. -/
  | send (k : Nat) (outcome : SendOutcome)
  /-- The connection is closed. -/
  | close

namespace Connection

/-- `Connection::new` -/
def new (mode : UdpRelayMode) (tokenDigest : List.Vector UInt8 32) : Connection :=
  ⟨mode, ∅, [], [.new (.token tokenDigest)], false⟩

/-- Spawn a sending task. -/
def spawn (c : Connection) (f : Frame) : Connection := { c with sends := c.sends ++ [.new f] }

/-- The task of request `a` goes on at `pc`. -/
def goto (c : Connection) (a : Nat) (assoc : Association) (pc : AssociatePc) : Connection :=
  { c with assocs := c.assocs.set a { assoc with pc := pc } }

/-- One step of the `Associate` branch of `process_request`. -/
def processRequest (c : Connection) (a : Nat) (assoc : Association) :
    AssociateStep → Option Connection := fun st =>
  match assoc.pc, st with
  | .insert, .go =>
    some { c.goto a assoc .recv with udpSessions := c.udpSessions.insert assoc.assocId a }
  | .recv, .recv (some (pkt, addr)) =>
    -- an address that does not fit is not one of a SOCKS5 request
    if fits : addr.Fits then
      some (c.spawn (.packet c.udpRelayMode assoc.assocId pkt addr fits))
    else none
  | .recv, .recv none => some (c.goto a assoc .remove)
  -- the packets handed over before may still be on their way
  | .remove, .go =>
    let c' := { c.goto a assoc .dissociate with udpSessions := c.udpSessions.erase assoc.assocId }
    some (c'.spawn (.dissociate assoc.assocId))
  | _, _ => none

/-- One step of a client connection. Whether anything is active is not kept track of here, so a
heartbeat may be sent at any time. -/
def step (c : Connection) : Action → Option Connection
  | .request assocId => some { c with assocs := c.assocs ++ [⟨assocId, .insert⟩] }
  | .associate a st =>
    match c.assocs[a]? with
    | none => none
    | some assoc => c.processRequest a assoc st
  | .heartbeat => some (c.spawn .heartbeat)
  | .send k outcome =>
    match c.sends[k]? with
    | none => none
    | some snd =>
      match snd.step c.closed outcome with
      | some snd' => some { c with sends := c.sends.set k snd' }
      | none => none
  | .close => some { c with closed := true }

/-- The steps of a client connection, one case each. -/
inductive Step (c : Connection) : Action → Connection → Prop where
  /-- A request comes in. -/
  | request (assocId : UInt32) :
      Step c (.request assocId) { c with assocs := c.assocs ++ [⟨assocId, .insert⟩] }
  /-- The association is entered into the session table. -/
  | insert (a : Nat) (assoc : Association) (ha : c.assocs[a]? = some assoc)
      (hpc : assoc.pc = .insert) :
      Step c (.associate a .go)
        { c.goto a assoc .recv with udpSessions := c.udpSessions.insert assoc.assocId a }
  /-- A packet is handed to a task of its own. -/
  | packet (a : Nat) (assoc : Association) (pkt : Bytes) (addr : Address) (fits : addr.Fits)
      (ha : c.assocs[a]? = some assoc) (hpc : assoc.pc = .recv) :
      Step c (.associate a (.recv (some (pkt, addr))))
        (c.spawn (.packet c.udpRelayMode assoc.assocId pkt addr fits))
  /-- The application is gone. -/
  | gone (a : Nat) (assoc : Association) (ha : c.assocs[a]? = some assoc) (hpc : assoc.pc = .recv) :
      Step c (.associate a (.recv none)) (c.goto a assoc .remove)
  /-- The association is taken out of the session table, and its `Dissociate` is to be sent. -/
  | dissociate (a : Nat) (assoc : Association) (ha : c.assocs[a]? = some assoc)
      (hpc : assoc.pc = .remove) :
      Step c (.associate a .go)
        ({ c.goto a assoc .dissociate with
          udpSessions := c.udpSessions.erase assoc.assocId }.spawn (.dissociate assoc.assocId))
  /-- A heartbeat is to be sent. -/
  | heartbeat : Step c .heartbeat (c.spawn .heartbeat)
  /-- A sending task makes a step. -/
  | send (k : Nat) (outcome : SendOutcome) (snd snd' : Send) (hk : c.sends[k]? = some snd)
      (hstep : snd.step c.closed outcome = some snd') :
      Step c (.send k outcome) { c with sends := c.sends.set k snd' }
  /-- The connection is closed. -/
  | close : Step c .close { c with closed := true }

variable {c c' : Connection} {a : Action}

/-- Every step of a client connection is one of these. -/
theorem step_cases (h : c.step a = some c') : c.Step a c' := by
  cases a with
  | request assocId =>
    cases h
    exact .request assocId
  | associate a st =>
    simp only [step] at h
    split at h
    · cases h
    rename_i assoc ha
    unfold processRequest at h
    split at h
    · rename_i hpc
      cases h
      exact .insert a assoc ha hpc
    · rename_i pkt addr hpc
      split at h
      · rename_i fits
        cases h
        exact .packet a assoc pkt addr fits ha hpc
      · cases h
    · rename_i hpc
      cases h
      exact .gone a assoc ha hpc
    · rename_i hpc
      cases h
      exact .dissociate a assoc ha hpc
    · cases h
  | heartbeat =>
    cases h
    exact .heartbeat
  | send k outcome =>
    simp only [step] at h
    split at h
    · cases h
    rename_i snd hk
    split at h
    · rename_i snd' hstep
      cases h
      exact .send k outcome snd snd' hk hstep
    · cases h
  | close =>
    cases h
    exact .close

/-! ## What a step of a client connection does -/

/-- A sending task was there before and made a step at most, or has just been spawned; a packet is
spawned by the task of a request that waits for packets. -/
theorem Step.send_cases (h : c.Step a c') {k : Nat} {snd' : Send}
    (hk : c'.sends[k]? = some snd') :
    (∃ snd, c.sends[k]? = some snd ∧
      (snd' = snd ∨ ∃ outcome, snd.step c.closed outcome = some snd')) ∨
    ∃ f, k = c.sends.length ∧ snd' = .new f ∧
      ∀ assocId, f.packetId = some assocId →
        ∃ (b : Nat) (assoc : Association), c'.assocs[b]? = some assoc ∧ assoc.assocId = assocId ∧
          assoc.pc = .recv := by
  -- a spawned task comes last
  have hspawn : ∀ {sends : List Send} {f : Frame}, (sends ++ [Send.new f])[k]? = some snd' →
      sends[k]? = some snd' ∨ k = sends.length ∧ snd' = .new f := by
    intro sends f hk
    rcases getElem?_append_singleton_cases hk with ⟨hk, hnew⟩ | hk
    · exact Or.inr ⟨hk, hnew⟩
    · exact Or.inl hk
  cases h with
  | packet b assoc pkt addr fits ha hpc =>
    rcases hspawn hk with hold | ⟨hlen, rfl⟩
    · exact Or.inl ⟨snd', hold, Or.inl rfl⟩
    · refine Or.inr ⟨_, hlen, rfl, fun assocId hid => ⟨b, assoc, ha, ?_, hpc⟩⟩
      cases hid
      rfl
  | dissociate b assoc ha hpc =>
    rcases hspawn hk with hold | ⟨hlen, rfl⟩
    · exact Or.inl ⟨snd', hold, Or.inl rfl⟩
    · exact Or.inr ⟨_, hlen, rfl, fun _ hid => by cases hid⟩
  | heartbeat =>
    rcases hspawn hk with hold | ⟨hlen, rfl⟩
    · exact Or.inl ⟨snd', hold, Or.inl rfl⟩
    · exact Or.inr ⟨_, hlen, rfl, fun _ hid => by cases hid⟩
  | send j outcome snd snd'' hj hstep =>
    rcases getElem?_set_cases hk with ⟨rfl, rfl⟩ | ⟨-, hk⟩
    · exact Or.inl ⟨snd, hj, Or.inr ⟨outcome, hstep⟩⟩
    · exact Or.inl ⟨snd', hk, Or.inl rfl⟩
  | request assocId => exact Or.inl ⟨snd', hk, Or.inl rfl⟩
  | insert b assoc ha hpc => exact Or.inl ⟨snd', hk, Or.inl rfl⟩
  | gone b assoc ha hpc => exact Or.inl ⟨snd', hk, Or.inl rfl⟩
  | close => exact Or.inl ⟨snd', hk, Or.inl rfl⟩

/-- A sending task is still there after a step, which it made or not. -/
theorem Step.send_keep (h : c.Step a c') {k : Nat} {snd : Send} (hk : c.sends[k]? = some snd) :
    ∃ snd', c'.sends[k]? = some snd' ∧
      (snd' = snd ∨ ∃ outcome, snd.step c.closed outcome = some snd') := by
  have hlt := (List.getElem?_eq_some_iff.mp hk).1
  have hspawn : ∀ f, (c.sends ++ [Send.new f])[k]? = some snd := fun f => by
    rw [List.getElem?_append_left hlt, hk]
  cases h with
  | packet b assoc pkt addr fits ha hpc => exact ⟨snd, hspawn _, Or.inl rfl⟩
  | dissociate b assoc ha hpc => exact ⟨snd, hspawn _, Or.inl rfl⟩
  | heartbeat => exact ⟨snd, hspawn _, Or.inl rfl⟩
  | send j outcome snd₀ snd' hj hstep =>
    by_cases hjk : j = k
    · subst hjk
      rw [hk] at hj
      cases hj
      exact ⟨snd', List.getElem?_set_self hlt, Or.inr ⟨outcome, hstep⟩⟩
    · exact ⟨snd, (List.getElem?_set_ne hjk).trans hk, Or.inl rfl⟩
  | request assocId => exact ⟨snd, hk, Or.inl rfl⟩
  | insert b assoc ha hpc => exact ⟨snd, hk, Or.inl rfl⟩
  | gone b assoc ha hpc => exact ⟨snd, hk, Or.inl rfl⟩
  | close => exact ⟨snd, hk, Or.inl rfl⟩

/-- A closed connection stays closed. -/
theorem Step.closed (h : c.Step a c') (hc : c.closed = true) : c'.closed = true := by
  cases h with
  | close => rfl
  | _ => exact hc

/-- What holds of the sending tasks is kept by every step. -/
theorem Step.wf (h : c.Step a c') (hw : All (fun _ snd => snd.Wf c.closed) c.sends) :
    All (fun _ snd => snd.Wf c'.closed) c'.sends := by
  intro k snd' hk
  rcases h.send_cases hk with ⟨snd, hk₀, heq | ⟨outcome, hstep⟩⟩ | ⟨f, -, rfl, -⟩
  · have hsnd := hw k snd hk₀
    exact heq ▸ ⟨hsnd.sent, fun hpc hnil hch => h.closed (hsnd.failed hpc hnil hch)⟩
  · obtain ⟨hsnd, -⟩ := (hw k snd hk₀).step hstep
    exact ⟨hsnd.sent, fun hpc hnil hch => h.closed (hsnd.failed hpc hnil hch)⟩
  · exact .new f _

/-- An association with this id has not come to its `Dissociate`. -/
def Active (c : Connection) (assocId : UInt32) : Prop :=
  ∃ (a : Nat) (assoc : Association),
    c.assocs[a]? = some assoc ∧ assoc.assocId = assocId ∧ assoc.pc ≠ .dissociate

/-- An active association stays active until it comes to its `Dissociate`. -/
theorem Step.active (h : c.Step a c') {assocId : UInt32} (hact : c.Active assocId) :
    c'.Active assocId ∨ c'.sends[c.sends.length]? = some (.new (.dissociate assocId)) := by
  obtain ⟨b, assoc, hb, hid, hpc⟩ := hact
  have hlt := (List.getElem?_eq_some_iff.mp hb).1
  -- wherever a request goes on but for its end, the association stays active
  have hgoto : ∀ {b' : Nat} {assoc' : Association} {pc : AssociatePc}, pc ≠ .dissociate →
      c.assocs[b']? = some assoc' →
      ∃ assoc'', (c.assocs.set b' { assoc' with pc := pc })[b]? = some assoc'' ∧
        assoc''.assocId = assocId ∧ assoc''.pc ≠ .dissociate := by
    intro b' assoc' pc hne hb'
    by_cases hbb : b' = b
    · subst hbb
      rw [hb] at hb'
      cases hb'
      exact ⟨_, List.getElem?_set_self hlt, hid, hne⟩
    · exact ⟨assoc, (List.getElem?_set_ne hbb).trans hb, hid, hpc⟩
  cases h with
  | request assocId' =>
    exact Or.inl ⟨b, assoc, (List.getElem?_append_left hlt).trans hb, hid, hpc⟩
  | insert b' assoc' hb' hpc' => exact Or.inl ⟨b, hgoto (by decide) hb'⟩
  | gone b' assoc' hb' hpc' => exact Or.inl ⟨b, hgoto (by decide) hb'⟩
  | dissociate b' assoc' hb' hpc' =>
    by_cases hbb : b' = b
    · subst hbb
      rw [hb] at hb'
      cases hb'
      exact Or.inr (hid ▸ List.getElem?_concat_length)
    · exact Or.inl ⟨b, assoc, (List.getElem?_set_ne hbb).trans hb, hid, hpc⟩
  | packet b' assoc' pkt addr fits hb' hpc' => exact Or.inl ⟨b, assoc, hb, hid, hpc⟩
  | heartbeat => exact Or.inl ⟨b, assoc, hb, hid, hpc⟩
  | send k outcome snd snd' hk hstep => exact Or.inl ⟨b, assoc, hb, hid, hpc⟩
  | close => exact Or.inl ⟨b, assoc, hb, hid, hpc⟩

end Connection

end Client

end Tuic
