import Tuic.Protocol.Final
import Tuic.Client.Associate
import Tuic.Server.Connection

/-! # Packets that come back to the client

`client/src/relay/incoming.rs` and `handle_packet_from` of `client/src/relay/task.rs`. Every
datagram or unidirectional stream from the server gets a task of its own, which reads the header of
a packet and its payload, looks the association up in the session table, and puts the packet into
the receive channel of the association.

The two ways to read a packet differ in how they find the payload: a datagram is sliced, which
panics when the length field of the header is past the end of it, and a stream is read. -/

namespace Tuic.Client

open ByteCodec Reader Transition

/-- The receiving half of a stream, or a datagram; the same on both sides. -/
abbrev RecvStream := Server.RecvStream

/-- A packet for an association: the association, the payload, and where it is from. -/
abbrev Received := UInt32 × Bytes × Address

/-! ## Reading a packet -/

/-- `parse_header` of `process_incoming_datagram`. -/
def parseDatagram (pkt : Bytes) : Except Failure Received :=
  match Command.readFrom pkt with
  | .error e => .error e
  | .ok (cmd, _) =>
    let cmdLen := cmd.serializedLen
    match cmd with
    | .packet assocId len addr =>
      -- `pkt.slice(cmd_len..cmd_len + len)` panics when it ends past the datagram
      if cmdLen + len.toNat ≤ pkt.length then
        .ok (assocId, (pkt.drop cmdLen).take len.toNat, addr)
      else .error .panic
    | .response _ | .authenticate _ | .connect _ | .dissociate _ | .heartbeat =>
      .error (.io ⟨.invalidData, "[relay] [connection] Unexpected incoming datagram"⟩)

/-- `parse_header` of `process_incoming_uni_stream`. -/
def parseUniStream : Reader Received := do
  let cmd ← Command.readFrom
  match cmd with
  | .packet assocId len addr =>
    let buf ← readExact len.toNat
    return (assocId, buf, addr)
  | .response _ | .authenticate _ | .connect _ | .dissociate _ | .heartbeat =>
    throw (.io ⟨.invalidData, "[relay] [connection] Unexpected incoming uni stream"⟩)

/-- What is read of a stream does not depend on the bytes that are still to come. -/
theorem final_parseUniStream : Final parseUniStream := by
  refine Command.final_readFrom.bind fun cmd => ?_
  cases cmd with
  | packet assocId len addr => exact (Final.readExact _).bind fun _ => Final.pure _
  | response b => exact Final.throw _
  | authenticate digest => exact Final.throw _
  | connect addr => exact Final.throw _
  | dissociate assocId => exact Final.throw _
  | heartbeat => exact Final.throw _

section Packet

variable {assocId : UInt32} {len : UInt16} {addr : Address} {pkt rest : Bytes}

/-- Where the header of a packet is decoded, the payload is sliced out of what is left. -/
theorem parseDatagram_of_readFrom {data : Bytes}
    (h : Command.readFrom data = .ok (.packet assocId len addr, rest)) :
    parseDatagram data =
      if len.toNat ≤ rest.length then .ok (assocId, rest.take len.toNat, addr)
      else .error .panic := by
  obtain ⟨-, hdata⟩ := Command.readFrom_eq_ok.mp h
  have hlen := congrArg List.length hdata
  rw [List.length_append, Command.length_writeToBuf] at hlen
  have hdrop : data.drop (Command.packet assocId len addr).serializedLen = rest := by
    rw [hdata, ← Command.length_writeToBuf, List.drop_left]
  unfold parseDatagram
  rw [h]
  simp only [hdrop, hlen, Nat.add_le_add_iff_left]

/-- **A packet in a datagram**: the header of the packet, and then as many bytes as it says. -/
theorem parseDatagram_packet (hfits : addr.Fits) (hlen : len.toNat ≤ pkt.length) :
    parseDatagram ((Command.packet assocId len addr).writeToBuf ++ pkt) =
      .ok (assocId, pkt.take len.toNat, addr.onWire) := by
  have hread : Command.readFrom ((Command.packet assocId len addr).writeToBuf ++ pkt) =
      .ok (.packet assocId len addr.onWire, pkt) :=
    Command.readFrom_of_eq_append (.packet assocId len addr) hfits rfl
  rw [parseDatagram_of_readFrom hread, if_pos hlen]

/-- **A packet on a stream**: the same. -/
theorem parseUniStream_packet (hfits : addr.Fits) (hlen : pkt.length = len.toNat) :
    parseUniStream ((Command.packet assocId len addr).writeToBuf ++ (pkt ++ rest)) =
      .ok ((assocId, pkt, addr.onWire), rest) := by
  have hread : Command.readFrom ((Command.packet assocId len addr).writeToBuf ++ (pkt ++ rest)) =
      _ := Command.readFrom_of_eq_append (.packet assocId len addr) hfits rfl
  unfold parseUniStream
  rw [bind_of_ok hread]
  exact bind_eq_ok.mpr ⟨pkt, rest, readExact_eq_ok.mpr ⟨rfl, hlen⟩, rfl⟩

end Packet

/-! ## The tasks -/

/-- Where the task of an incoming packet stands. -/
inductive IncomingPc where
  /-- In `parse_header`. -/
  | parse
  /-- `handle_packet_from`, before the session table is asked for the association. -/
  | get (r : Received)
  /-- A sender of the channel of association `a` is at hand; waiting for room in it. -/
  | send (a : Nat) (pkt : Bytes) (addr : Address)
  /-- Returned. -/
  | done
  /-- `parse_header` failed; the error is logged. -/
  | failed (err : IoError)
  /-- Panicked. -/
  | panicked
  deriving DecidableEq

/-- The task of a datagram or a unidirectional stream of the server. -/
structure Incoming where
  /-- What it came in on. -/
  channel : Channel
  /-- Its bytes. -/
  recv : RecvStream
  /-- Where the task stands. -/
  pc : IncomingPc

/-- The receive channel of an association, with room for one packet. -/
structure Inbox where
  /-- The packet in it, if there is one. -/
  queue : List (Bytes × Address)
  /-- Whether the application still listens. -/
  isOpen : Bool

/-- `parse_header` on the bytes that have arrived. -/
def Incoming.parse (t : Incoming) : Except Failure Received :=
  match t.channel with
  | .datagram => parseDatagram t.recv.data
  | .uniStream => (parseUniStream t.recv.data).map Prod.fst

/-- The tasks of incoming packets, the receive channels of the associations, and everything that was
put into these. -/
structure Receiving where
  /-- The tasks, each named by its index. -/
  tasks : List Incoming
  /-- The receive channel of each association. -/
  inbox : Nat → Inbox
  /-- What was put into the receive channels: the association, the payload, and where it is from. -/
  delivered : List (Nat × Bytes × Address)

/-- A step of the receiving side. -/
inductive ReceiveAction where
  /-- The task of an incoming packet goes on. -/
  | task (j : Nat)
  /-- The stream of an incoming packet fails under the task. -/
  | fail (j : Nat) (err : IoError)
  /-- An application takes a packet out of the channel of its association. -/
  | take (a : Nat)
  /-- An application hangs up. -/
  | hangUp (a : Nat)

namespace Receiving

/-- Nothing has come in. -/
def new : Receiving := ⟨[], fun _ => ⟨[], true⟩, []⟩

/-- A datagram or a stream comes in. -/
def spawn (r : Receiving) (t : Incoming) : Receiving := { r with tasks := r.tasks ++ [t] }

/-- A task goes on at `pc`. -/
def goto (r : Receiving) (j : Nat) (t : Incoming) (pc : IncomingPc) : Receiving :=
  { r with tasks := r.tasks.set j { t with pc := pc } }

/-- A packet is put into the receive channel of association `a`. -/
def push (r : Receiving) (a : Nat) (pkt : Bytes) (addr : Address) : Receiving :=
  { r with
    inbox := Function.update r.inbox a
      ⟨(r.inbox a).queue ++ [(pkt, addr)], (r.inbox a).isOpen⟩
    delivered := r.delivered ++ [(a, pkt, addr)] }

/-- One step of the task of an incoming packet, given the session table. -/
def processIncoming (r : Receiving) (udpSessions : AList fun _ : UInt32 => Nat) (j : Nat)
    (t : Incoming) : Option Receiving :=
  match t.pc with
  | .parse =>
    match t.parse with
    | .ok res => some (r.goto j t (.get res))
    | .error (.io err) =>
      if err.kind = .unexpectedEof ∧ t.recv.status = .receiving then none
      else some (r.goto j t (.failed err))
    | .error .panic => some (r.goto j t .panicked)
  | .get (assocId, pkt, addr) =>
    match udpSessions.lookup assocId with
    | some a => some (r.goto j t (.send a pkt addr))
    -- "No corresponding UDP relay session found"
    | none => some (r.goto j t .done)
  | .send a pkt addr =>
    if (r.inbox a).isOpen then
      if (r.inbox a).queue.length < 1 then some ((r.goto j t .done).push a pkt addr) else none
    -- the result of the channel send is dropped
    else some (r.goto j t .done)
  | .done | .failed _ | .panicked => none

/-- One step of the receiving side, given the session table. -/
def step (r : Receiving) (udpSessions : AList fun _ : UInt32 => Nat) :
    ReceiveAction → Option Receiving
  | .task j =>
    match r.tasks[j]? with
    | none => none
    | some t => r.processIncoming udpSessions j t
  | .fail j err =>
    match r.tasks[j]? with
    | none => none
    | some t =>
      if t.pc = .parse ∧ t.recv.status = .failed then some (r.goto j t (.failed err)) else none
  | .take a =>
    some { r with inbox := Function.update r.inbox a ⟨(r.inbox a).queue.tail, (r.inbox a).isOpen⟩ }
  | .hangUp a => some { r with inbox := Function.update r.inbox a ⟨[], false⟩ }

/-- The steps of the receiving side, one case each. -/
inductive Step (r : Receiving) (udpSessions : AList fun _ : UInt32 => Nat) :
    Receiving → Prop where
  /-- A packet is read. -/
  | parses (j : Nat) (t : Incoming) (res : Received) (hj : r.tasks[j]? = some t)
      (hpc : t.pc = .parse) (hparse : t.parse = .ok res) :
      Step r udpSessions (r.goto j t (.get res))
  /-- No packet can be read. -/
  | unreadable (j : Nat) (t : Incoming) (err : IoError) (hj : r.tasks[j]? = some t)
      (hpc : t.pc = .parse)
      (hparse : t.recv.status = .failed ∨ t.parse = .error (.io err) ∧
        (err.kind = .unexpectedEof → t.recv.status ≠ .receiving)) :
      Step r udpSessions (r.goto j t (.failed err))
  /-- Reading a packet panics. -/
  | panics (j : Nat) (t : Incoming) (hj : r.tasks[j]? = some t) (hpc : t.pc = .parse)
      (hparse : t.parse = .error .panic) : Step r udpSessions (r.goto j t .panicked)
  /-- The association is in the session table. -/
  | found (j : Nat) (t : Incoming) (assocId : UInt32) (a : Nat) (pkt : Bytes) (addr : Address)
      (hj : r.tasks[j]? = some t) (hpc : t.pc = .get (assocId, pkt, addr))
      (ha : udpSessions.lookup assocId = some a) :
      Step r udpSessions (r.goto j t (.send a pkt addr))
  /-- The packet is put into the receive channel. -/
  | delivers (j : Nat) (t : Incoming) (a : Nat) (pkt : Bytes) (addr : Address)
      (hj : r.tasks[j]? = some t) (hpc : t.pc = .send a pkt addr) :
      Step r udpSessions ((r.goto j t .done).push a pkt addr)
  /-- The packet is dropped: there is no such association, or nobody listens. -/
  | drops (j : Nat) (t : Incoming) (hj : r.tasks[j]? = some t)
      (hpc : (∃ res, t.pc = .get res) ∨ ∃ a pkt addr, t.pc = .send a pkt addr) :
      Step r udpSessions (r.goto j t .done)
  /-- An application does something with the channel of its association. -/
  | application (inbox : Nat → Inbox) : Step r udpSessions { r with inbox := inbox }

variable {r r' : Receiving} {udpSessions : AList fun _ : UInt32 => Nat} {a : ReceiveAction}

/-- Every step of the receiving side is one of these. -/
theorem step_cases (h : r.step udpSessions a = some r') : r.Step udpSessions r' := by
  cases a with
  | task j =>
    simp only [step] at h
    split at h
    · cases h
    rename_i t hj
    unfold processIncoming at h
    split at h
    · rename_i hpc
      split at h
      · rename_i res hparse
        cases h
        exact .parses j t res hj hpc hparse
      · rename_i err hparse
        split at h
        · cases h
        · rename_i hst
          cases h
          exact .unreadable j t err hj hpc (Or.inr ⟨hparse, fun heof hrecv => hst ⟨heof, hrecv⟩⟩)
      · rename_i hparse
        cases h
        exact .panics j t hj hpc hparse
    · rename_i assocId pkt addr hpc
      split at h
      · rename_i a ha
        cases h
        exact .found j t assocId a pkt addr hj hpc ha
      · cases h
        exact .drops j t hj (Or.inl ⟨_, hpc⟩)
    · rename_i a pkt addr hpc
      split at h
      · split at h
        · cases h
          exact .delivers j t a pkt addr hj hpc
        · cases h
      · cases h
        exact .drops j t hj (Or.inr ⟨a, pkt, addr, hpc⟩)
    · cases h
    · cases h
    · cases h
  | fail j err =>
    simp only [step] at h
    split at h
    · cases h
    rename_i t hj
    split at h
    · rename_i hst
      cases h
      exact .unreadable j t err hj hst.1 (Or.inl hst.2)
    · cases h
  | take a =>
    cases h
    exact .application _
  | hangUp a =>
    cases h
    exact .application _

end Receiving

/-! ## Datagrams of any server -/

/-- The task of a datagram, which is there as a whole. -/
def Incoming.ofDatagram (pkt : Bytes) : Incoming := ⟨.datagram, ⟨pkt, 0, .finished⟩, .parse⟩

/-- The length field of a packet header is past the end of the datagram. -/
def Overlong (pkt : Bytes) : Prop :=
  ∃ assocId len addr rest, Command.readFrom pkt = .ok (.packet assocId len addr, rest) ∧
    rest.length < len.toNat

/-- `process_incoming_datagram` calls `handle_packet_from` with the association and the address of
the header and exactly the payload behind it, or logs an error. -/
def IncomingPc.Accounted (pkt : Bytes) (pc : IncomingPc) : Prop :=
  (∃ assocId len addr rest, Command.readFrom pkt = .ok (.packet assocId len addr, rest) ∧
    len.toNat ≤ rest.length ∧ pc = .get (assocId, rest.take len.toNat, addr)) ∨
  ∃ err, pc = .failed err

/-- A panic does not account for a datagram. -/
theorem IncomingPc.not_accounted_panicked (pkt : Bytes) : ¬ IncomingPc.panicked.Accounted pkt := by
  rintro (⟨_, _, _, _, -, -, hpc⟩ | ⟨_, hpc⟩) <;> cases hpc

/-- **What `parse_header` makes of a datagram**: it panics on an overlong packet, and otherwise
accounts for the datagram. -/
theorem parseDatagram_cases (pkt : Bytes) :
    (Overlong pkt ∧ parseDatagram pkt = .error .panic) ∨
    (¬ Overlong pkt ∧ ∃ res, parseDatagram pkt = .ok res ∧ (IncomingPc.get res).Accounted pkt) ∨
    (¬ Overlong pkt ∧ ∃ err, parseDatagram pkt = .error (.io err)) := by
  cases hread : Command.readFrom pkt with
  | error e =>
    have hshort : ¬ Overlong pkt := by
      rintro ⟨assocId, len, addr, rest, hok, -⟩
      rw [hread] at hok
      cases hok
    cases e with
    | io err => exact Or.inr (Or.inr ⟨hshort, err, by unfold parseDatagram; rw [hread]⟩)
    | panic => exact absurd hread (Command.noPanic_readFrom pkt)
  | ok res =>
    obtain ⟨cmd, rest⟩ := res
    -- an overlong packet is the packet that was decoded
    have hover : ∀ {assocId len addr rest'}, Command.readFrom pkt =
        .ok (.packet assocId len addr, rest') →
        cmd = .packet assocId len addr ∧ rest = rest' := by
      intro assocId len addr rest' hok
      rw [hread] at hok
      cases hok
      exact ⟨rfl, rfl⟩
    cases cmd with
    | packet assocId len addr =>
      have hparse := parseDatagram_of_readFrom hread
      by_cases hlen : len.toNat ≤ rest.length
      · rw [if_pos hlen] at hparse
        refine Or.inr (Or.inl ⟨?_, _, hparse, Or.inl ⟨_, _, _, _, hread, hlen, rfl⟩⟩)
        rintro ⟨assocId', len', addr', rest', hok, hlt⟩
        obtain ⟨hcmd, rfl⟩ := hover hok
        cases hcmd
        omega
      · rw [if_neg hlen] at hparse
        exact Or.inl ⟨⟨_, _, _, _, hread, by omega⟩, hparse⟩
    | _ =>
      refine Or.inr (Or.inr ⟨?_, _, by unfold parseDatagram; rw [hread]⟩)
      rintro ⟨assocId', len', addr', rest', hok, -⟩
      cases (hover hok).1

namespace Receiving

variable (r : Receiving) (udpSessions : AList fun _ : UInt32 => Nat) (pkt : Bytes)

/-- Where the task of a datagram stands after its first step. -/
def afterDatagram : Option IncomingPc :=
  ((r.spawn (.ofDatagram pkt)).step udpSessions (.task r.tasks.length)).bind fun r' =>
    r'.tasks[r.tasks.length]?.map Incoming.pc

/-- It is as `parse_header` says. -/
theorem afterDatagram_eq : r.afterDatagram udpSessions pkt =
    match parseDatagram pkt with
    | .ok res => some (.get res)
    | .error (.io err) => some (.failed err)
    | .error .panic => some .panicked := by
  have hj : (r.spawn (.ofDatagram pkt)).tasks[r.tasks.length]? = some (.ofDatagram pkt) :=
    List.getElem?_concat_length
  have hgoto : ∀ pc, ((r.spawn (.ofDatagram pkt)).goto r.tasks.length
      (.ofDatagram pkt) pc).tasks[r.tasks.length]?.map Incoming.pc = some pc := by
    intro pc
    rw [goto, getElem?_set_of_some hj]
    rfl
  have hparse : (Incoming.ofDatagram pkt).parse = parseDatagram pkt := rfl
  unfold afterDatagram step
  simp only [hj]
  unfold processIncoming
  simp only [Incoming.ofDatagram] at hparse hgoto ⊢
  rw [hparse]
  cases parseDatagram pkt with
  | ok res => exact hgoto _
  | error e =>
    cases e with
    | io err =>
      -- all of a datagram is there, so running out of it is an error as any other
      simp only [reduceCtorEq, and_false, if_false]
      exact hgoto _
    | panic => exact hgoto _

/-- **Which datagrams are accounted for**: the client takes the packet out of a datagram of the
server or drops the datagram, whatever its bytes are, unless it is an overlong packet. -/
theorem datagram_accounted_iff :
    (∃ pc, r.afterDatagram udpSessions pkt = some pc ∧ pc.Accounted pkt) ↔ ¬ Overlong pkt := by
  rw [afterDatagram_eq]
  rcases parseDatagram_cases pkt with ⟨hover, hparse⟩ | ⟨hover, res, hparse, hres⟩ |
      ⟨hover, err, hparse⟩
  · simp only [hparse]
    refine iff_of_false ?_ (not_not_intro hover)
    rintro ⟨pc, hpc, haccounted⟩
    cases hpc
    exact IncomingPc.not_accounted_panicked pkt haccounted
  · simp only [hparse]
    exact iff_of_true ⟨_, rfl, hres⟩ hover
  · simp only [hparse]
    exact iff_of_true ⟨_, rfl, Or.inr ⟨err, rfl⟩⟩ hover

/-- A header that announces one byte of payload, at the end of its datagram, panics. -/
theorem datagram_not_accounted :
    let pkt : Bytes := [4, 2, 0, 0, 0, 7, 0, 1, 1, 127, 0, 0, 1, 0, 53]
    new.afterDatagram ∅ pkt = some .panicked ∧
      ¬ ∃ pc, new.afterDatagram ∅ pkt = some pc ∧ pc.Accounted pkt := by
  intro pkt
  have hafter : new.afterDatagram ∅ pkt = some .panicked := by
    rw [afterDatagram_eq, show parseDatagram pkt = .error .panic by decide]
  refine ⟨hafter, ?_⟩
  rintro ⟨pc, hpc, haccounted⟩
  rw [hafter] at hpc
  cases hpc
  exact IncomingPc.not_accounted_panicked pkt haccounted

end Receiving

/-! ## The session table -/

/-- An association keeps its id. -/
theorem Connection.Step.assocId_eq {c c' : Connection} {b : Action} (h : c.Step b c') {a : Nat}
    {assoc : Association} (ha : c.assocs[a]? = some assoc) :
    ∃ assoc', c'.assocs[a]? = some assoc' ∧ assoc'.assocId = assoc.assocId := by
  have hlt := (List.getElem?_eq_some_iff.mp ha).1
  have hgoto : ∀ {b : Nat} {assoc₀ : Association} (pc : AssociatePc),
      c.assocs[b]? = some assoc₀ →
      ∃ assoc', (c.assocs.set b { assoc₀ with pc := pc })[a]? = some assoc' ∧
        assoc'.assocId = assoc.assocId := by
    intro b assoc₀ pc hb
    by_cases hba : b = a
    · subst hba
      rw [ha] at hb
      cases hb
      exact ⟨_, List.getElem?_set_self hlt, rfl⟩
    · exact ⟨assoc, (List.getElem?_set_ne hba).trans ha, rfl⟩
  cases h with
  | request assocId => exact ⟨assoc, (List.getElem?_append_left hlt).trans ha, rfl⟩
  | insert b assoc₀ hb hpc => exact hgoto _ hb
  | gone b assoc₀ hb hpc => exact hgoto _ hb
  | dissociate b assoc₀ hb hpc => exact hgoto _ hb
  | packet b assoc₀ pkt addr fits hb hpc => exact ⟨assoc, ha, rfl⟩
  | heartbeat => exact ⟨assoc, ha, rfl⟩
  | send k outcome snd snd' hk hstep => exact ⟨assoc, ha, rfl⟩
  | close => exact ⟨assoc, ha, rfl⟩

/-- The association has been entered into the session table, and has not ended. -/
def Association.isLive (assoc : Association) : Bool :=
  assoc.pc = .recv ∨ assoc.pc = .remove

namespace Connection

variable {c c' : Connection} {b : Action}

/-- Every entry of the session table is of a live association, under its id. -/
def EntriesLive (c : Connection) : Prop :=
  ∀ assocId a, c.udpSessions.lookup assocId = some a →
    ∃ assoc, c.assocs[a]? = some assoc ∧ assoc.assocId = assocId ∧ assoc.isLive = true

/-- The task of a live association that goes on and stays live keeps its entry. -/
theorem EntriesLive.goto (h : c.EntriesLive) {a : Nat} {assoc : Association} {pc : AssociatePc}
    (ha : c.assocs[a]? = some assoc) (hlive : assoc.isLive = true →
      (⟨assoc.assocId, pc⟩ : Association).isLive = true) {assocId : UInt32} {k : Nat}
    (hl : c.udpSessions.lookup assocId = some k) :
    ∃ other, (c.assocs.set a { assoc with pc := pc })[k]? = some other ∧
      other.assocId = assocId ∧ other.isLive = true := by
  obtain ⟨other, hk, hid, hother⟩ := h assocId k hl
  by_cases hak : a = k
  · subst hak
    cases ha.symm.trans hk
    exact ⟨_, getElem?_set_of_some ha, hid, hlive hother⟩
  · exact ⟨other, (List.getElem?_set_ne hak).trans hk, hid, hother⟩

/-- Every step keeps the entries to live associations. -/
theorem EntriesLive.step (h : c.EntriesLive) (hs : c.Step b c') : c'.EntriesLive := by
  cases hs with
  | request id =>
    intro assocId a hl
    obtain ⟨assoc, ha, hassoc⟩ := h assocId a hl
    exact ⟨assoc, getElem?_append_of_some ha, hassoc⟩
  | insert a assoc ha hpc =>
    intro assocId k hl
    have hl : (c.udpSessions.insert assoc.assocId a).lookup assocId = some k := hl
    by_cases hid : assocId = assoc.assocId
    · subst hid
      rw [AList.lookup_insert] at hl
      cases hl
      exact ⟨_, getElem?_set_of_some ha, rfl, rfl⟩
    · rw [AList.lookup_insert_ne hid] at hl
      exact h.goto ha (fun _ => rfl) hl
  | gone a assoc ha hpc => exact fun assocId k hl => h.goto ha (fun _ => rfl) hl
  | dissociate a assoc ha hpc =>
    intro assocId k hl
    have hl : (c.udpSessions.erase assoc.assocId).lookup assocId = some k := hl
    by_cases hid : assocId = assoc.assocId
    · rw [hid, AList.lookup_erase] at hl
      cases hl
    · -- the entry is of another association, since it is under another id
      rw [AList.lookup_erase_ne hid] at hl
      obtain ⟨other, hk, hother, hlive⟩ := h assocId k hl
      have hak : a ≠ k := by
        rintro rfl
        cases ha.symm.trans hk
        exact hid hother.symm
      exact ⟨other, (List.getElem?_set_ne hak).trans hk, hother, hlive⟩
  | packet a assoc pkt addr fits ha hpc => exact h
  | heartbeat => exact h
  | send k outcome snd snd' hk hstep => exact h
  | close => exact h

end Connection

end Tuic.Client
