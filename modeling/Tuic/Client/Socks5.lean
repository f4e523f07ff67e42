import Tuic.Client.Associate
import Tuic.Transition.System

/-! # The SOCKS5 side of an association

`client/src/socks5/associate.rs`: the handler of a SOCKS5 UDP association binds a socket, receives
the packets of the application on it and hands them to the relay. The buffer it receives into is
sized by `MAX_UDP_RELAY_PACKET_SIZE`, a limit shared by the whole client, which
`update_max_udp_relay_packet_size` of `client/src/relay/connection.rs` stores whenever a connection
is made or relays a packet.

The SOCKS5 packet and the relayed one have headers of different sizes. `UdpPacket.length_frame` says
that the difference is the same for every address, so that a packet that fits the buffer fits the
limit when it is relayed. The buffer size is a subtraction of unsigned integers, and `bufSize` is
`none` where it underflows. -/

namespace Tuic.Client.Socks5

open ByteCodec Transition

/-! ## Packets -/

/-- `UdpHeader` of `socks5_proto`: two reserved bytes, the fragment number and the address, in which
a domain is preceded by its length in one byte. -/
structure UdpHeader where
  /-- The fragment number. -/
  frag : UInt8
  /-- The target. -/
  address : Address
  /-- A domain has at most 255 bytes. -/
  fits : address.Fits

namespace UdpHeader

/-- The length of an address in a SOCKS5 header. -/
def addressLen : Address → Nat
  | .domainAddress domain _ => 1 + 1 + (asBytes domain).length + 2
  | .socketAddress (.v4 _ _) => 1 + 4 + 2
  | .socketAddress (.v6 _ _ _ _) => 1 + 16 + 2

/-- `UdpHeader::serialized_len` -/
def serializedLen (h : UdpHeader) : Nat := 2 + 1 + addressLen h.address

/-- `UdpHeader::max_serialized_len` -/
def maxSerializedLen : Nat := 2 + 1 + (1 + 1 + 255 + 2)

/-- No header is longer. -/
theorem serializedLen_le (h : UdpHeader) : h.serializedLen ≤ maxSerializedLen := by
  obtain ⟨frag, address, fits⟩ := h
  match address, fits with
  | .domainAddress domain port, fits =>
    have hdomain : (asBytes domain).length ≤ 255 := fits
    simp only [serializedLen, addressLen, maxSerializedLen]
    omega
  | .socketAddress (.v4 ip port), _ => simp [serializedLen, addressLen, maxSerializedLen]
  | .socketAddress (.v6 ip port flowinfo scopeId), _ =>
    simp [serializedLen, addressLen, maxSerializedLen]

/-- An address has the same length in the header of a relayed packet. -/
theorem serializedLen_address (addr : Address) : addr.serializedLen = addressLen addr := by
  cases addr with
  | domainAddress domain port =>
    simp only [Address.serializedLen, addressLen]
    omega
  | socketAddress addr => cases addr <;> rfl

end UdpHeader

/-- A UDP packet of a SOCKS5 application. -/
structure UdpPacket where
  /-- The header. -/
  header : UdpHeader
  /-- The payload. -/
  payload : Bytes

namespace UdpPacket

/-- The size of the whole packet. -/
def len (p : UdpPacket) : Nat := p.header.serializedLen + p.payload.length

/-- What `handle_packet_to` sends for it. -/
def frame (p : UdpPacket) (mode : UdpRelayMode) (assocId : UInt32) : Frame :=
  .packet mode assocId p.payload p.header.address p.header.fits

/-- What `AssociatedUdpSocket` makes of a packet with a buffer of `size` bytes: the excess is
discarded, and there is no packet when the header is not all there. -/
def received (p : UdpPacket) (size : Nat) : Option UdpPacket :=
  if p.header.serializedLen ≤ size then
    some { p with payload := p.payload.take (size - p.header.serializedLen) }
  else none

end UdpPacket

/-! ## The size of the buffer -/

/-- How much longer the header of a relayed packet can be than that of a SOCKS5 packet. -/
def headerSlack : Nat := Command.maxSerializedLen - UdpHeader.maxSerializedLen

/-- `buf_size`, or `none` when the subtraction underflows. -/
def bufSize (limit : Nat) : Option Nat :=
  if headerSlack ≤ limit then some (limit - headerSlack) else none

@[simp] theorem headerSlack_eq : headerSlack = 5 := rfl

theorem bufSize_eq_some {limit size : Nat} : bufSize limit = some size ↔ limit = size + 5 := by
  unfold bufSize
  rw [headerSlack_eq]
  split
  · rw [Option.some.injEq]
    omega
  · simp only [reduceCtorEq, false_iff]
    omega

namespace UdpPacket

/-- **The relayed packet is five bytes longer**, for every kind of address. -/
theorem length_frame (p : UdpPacket) (mode : UdpRelayMode) (assocId : UInt32) :
    (p.frame mode assocId).bytes.length = p.len + 5 := by
  have hbytes : (p.frame mode assocId).bytes =
      (p.frame mode assocId).cmd.writeToBuf ++ p.payload := by
    cases mode <;> simp [frame, Frame.bytes, Frame.bufs]
  rw [hbytes, List.length_append, Command.length_writeToBuf]
  simp only [frame, Frame.cmd, Command.serializedLen, UdpHeader.serializedLen_address, len,
    UdpHeader.serializedLen]
  omega

/-- **What fits the buffer fits the limit.** With the buffer size for a limit, every packet of an
application that is received whole is relayed in at most as many bytes as the limit says; and for
every address there is a packet that is relayed in exactly as many, if its header fits at all. -/
theorem frame_fits_limit (limit size : Nat) (h : bufSize limit = some size) (mode : UdpRelayMode)
    (assocId : UInt32) :
    (∀ p : UdpPacket, p.len ≤ size → (p.frame mode assocId).bytes.length ≤ limit) ∧
    ∀ header : UdpHeader, header.serializedLen ≤ size → ∃ p : UdpPacket, p.header = header ∧
      p.len = size ∧ (p.frame mode assocId).bytes.length = limit := by
  rw [bufSize_eq_some] at h
  constructor
  · intro p hp
    rw [length_frame]
    omega
  · intro header hheader
    have hlen : (⟨header, List.replicate (size - header.serializedLen) 0⟩ : UdpPacket).len =
        size := by
      simp only [len, List.length_replicate]
      omega
    refine ⟨_, rfl, hlen, ?_⟩
    rw [length_frame, hlen, h]

/-- The limit before any connection, and a packet to an IPv4 address. -/
theorem frame_fits_limit_1500 :
    bufSize 1500 = some 1495 ∧
      ∃ p : UdpPacket, p.header = ⟨0, .socketAddress (.v4 ⟨127, 0, 0, 1⟩ 53), trivial⟩ ∧
        p.len = 1495 ∧ (p.frame .native 7).bytes.length = 1500 :=
  ⟨rfl, (frame_fits_limit 1500 1495 rfl .native 7).2 _ (by decide)⟩

/-- Nothing is added to the payload. -/
theorem length_le_of_received {p q : UdpPacket} {size : Nat} (h : p.received size = some q) :
    q.payload.length ≤ p.payload.length := by
  unfold received at h
  split at h
  · cases h
    exact List.length_take_le' _ _
  · cases h

/-- What is left of a packet in a buffer fits it. -/
theorem len_le_of_received {p q : UdpPacket} {size : Nat} (h : p.received size = some q) :
    q.len ≤ size := by
  unfold received at h
  split at h
  · cases h
    simp only [len, List.length_take]
    omega
  · cases h

end UdpPacket

/-! ## The handler -/

/-- Where the handler of an association stands. -/
inductive HandlerPc where
  /-- `handle`, before its socket is bound. -/
  | bind
  /-- The request is handed to the relay; before the reply to the application. -/
  | reply
  /-- Before the first buffer size is computed. -/
  | newSocket
  /-- At the head of the first loop of `socks5_to_relay`. -/
  | firstSize
  /-- In `recv_from`, with a buffer of this size. -/
  | recvFrom (size : Nat)
  /-- Before a packet is handed to the relay, which is the first one or not. -/
  | send (isFirst : Bool) (p : UdpPacket)
  /-- Before the socket is connected to the sender of the first packet. -/
  | connect
  /-- At the head of the second loop. -/
  | nextSize
  /-- In `recv`, with a buffer of this size. -/
  | recv (size : Nat)
  /-- Returned. -/
  | returned
  /-- A subtraction underflowed. -/
  | underflowed

/-- The handler of an association, with what it has computed and handed over. -/
structure Handler where
  /-- Where it stands. -/
  pc : HandlerPc
  /-- The limits its buffer sizes were computed from, latest first. -/
  loads : List Nat
  /-- The packets it has handed to the relay, latest first. -/
  handed : List UdpPacket

/-- What a handler does next. -/
inductive HandlerStep where
  /-- The operation at hand succeeds. -/
  | go
  /-- A packet of the application arrives. -/
  | datagram (p : UdpPacket)
  /-- The operation at hand fails, or the application or the relay is gone. -/
  | ends

namespace Handler

/-- A new handler. -/
def new : Handler := ⟨.bind, [], []⟩

/-- The buffer size is computed, and set. -/
def compute (h : Handler) (limit : Nat) (next : Nat → HandlerPc) : Handler :=
  { h with
    loads := limit :: h.loads
    pc := match bufSize limit with
      | some size => next size
      | none => .underflowed }

/-- A packet arrives at a buffer of `size` bytes; what has no header is dropped by the socket, which
waits for the next datagram, and a fragment by the handler. -/
def receive (h : Handler) (size : Nat) (isFirst : Bool) (head : HandlerPc) (p : UdpPacket) :
    Handler :=
  match p.received size with
  | none => h
  | some q =>
    if q.header.frag = 0 then { h with pc := .send isFirst q }
    -- "socks5 UDP packet fragment is not supported"
    else { h with pc := head }

/-- One step of a handler, where the shared limit is `limit`. -/
def step (limit : Nat) (h : Handler) : HandlerStep → Option Handler := fun st =>
  match h.pc, st with
  | .returned, _ => none
  | .underflowed, _ => none
  | _, .ends => some { h with pc := .returned }
  | .bind, .go => some { h with pc := .reply }
  | .reply, .go => some { h with pc := .newSocket }
  | .newSocket, .go => some (h.compute limit fun _ => .firstSize)
  | .firstSize, .go => some (h.compute limit .recvFrom)
  | .recvFrom size, .datagram p => some (h.receive size true .firstSize p)
  | .send isFirst p, .go =>
    some { h with pc := if isFirst then .connect else .nextSize, handed := p :: h.handed }
  | .connect, .go => some { h with pc := .nextSize }
  | .nextSize, .go => some (h.compute limit .recv)
  | .recv size, .datagram p => some (h.receive size false .nextSize p)
  | _, _ => none

/-- The steps of a handler, as far as the limit and the packets go. -/
inductive Step (limit : Nat) (h : Handler) : Handler → Prop where
  /-- It goes on, to where it needs no buffer and has no packet. -/
  | go (pc : HandlerPc) (hsize : ∀ size, pc ≠ .recvFrom size ∧ pc ≠ .recv size)
      (hsend : ∀ isFirst p, pc ≠ .send isFirst p) (hpc : pc ≠ .underflowed) :
      Step limit h { h with pc := pc }
  /-- A buffer size is computed. -/
  | compute (next : Nat → HandlerPc)
      (hnext : (next = fun _ => .firstSize) ∨ next = .recvFrom ∨ next = .recv) :
      Step limit h (h.compute limit next)
  /-- A packet is received. -/
  | receives (size : Nat) (isFirst : Bool) (p q : UdpPacket)
      (hpc : h.pc = .recvFrom size ∨ h.pc = .recv size) (hq : p.received size = some q) :
      Step limit h { h with pc := .send isFirst q }
  /-- A datagram is dropped. -/
  | drops : Step limit h h
  /-- A packet is handed over. -/
  | hands (isFirst : Bool) (p : UdpPacket) (hpc : h.pc = .send isFirst p) :
      Step limit h
        { h with pc := if isFirst then .connect else .nextSize, handed := p :: h.handed }

variable {limit : Nat} {h h' : Handler} {st : HandlerStep}

/-- A packet that arrives is received, or there is nothing to hand over. -/
theorem Step.receive {size : Nat} {isFirst : Bool} {head : HandlerPc}
    (hpc : h.pc = .recvFrom size ∨ h.pc = .recv size)
    (hhead : head = .firstSize ∨ head = .nextSize) (p : UdpPacket) :
    h.Step limit (h.receive size isFirst head p) := by
  unfold Handler.receive
  split
  · exact .drops
  · rename_i q hq
    split
    · exact .receives size isFirst p q hpc hq
    · rcases hhead with rfl | rfl <;> exact .go _ (by simp) (by simp) (by simp)

/-- Every step of a handler is one of these. -/
theorem step_cases (hs : h.step limit st = some h') : h.Step limit h' := by
  unfold step at hs
  split at hs
  · cases hs
  · cases hs
  · cases hs
    exact .go _ (by simp) (by simp) (by simp)
  · cases hs
    exact .go _ (by simp) (by simp) (by simp)
  · cases hs
    exact .go _ (by simp) (by simp) (by simp)
  · cases hs
    exact .compute _ (Or.inl rfl)
  · cases hs
    exact .compute _ (Or.inr (Or.inl rfl))
  · rename_i size p hpc
    cases hs
    exact .receive (Or.inl hpc) (Or.inl rfl) p
  · rename_i isFirst p hpc
    cases hs
    exact .hands isFirst p hpc
  · cases hs
    exact .go _ (by simp) (by simp) (by simp)
  · cases hs
    exact .compute _ (Or.inr (Or.inr rfl))
  · rename_i size p hpc
    cases hs
    exact .receive (Or.inr hpc) (Or.inr rfl) p
  · cases hs

/-- **A handler and its buffers.** The packet it has received, and every packet it has handed over,
is relayed in at most as many bytes as a limit it has read. -/
structure Sized (h : Handler) : Prop where
  /-- The buffer has the size for a limit. -/
  buffer : ∀ size, h.pc = .recvFrom size ∨ h.pc = .recv size →
    ∃ limit ∈ h.loads, bufSize limit = some size
  /-- The packet at hand fits. -/
  sending : ∀ isFirst p, h.pc = .send isFirst p → ∃ limit ∈ h.loads, p.len + 5 ≤ limit
  /-- So did those before it. -/
  handed : ∀ p ∈ h.handed, ∃ limit ∈ h.loads, p.len + 5 ≤ limit

theorem Sized.new : Handler.new.Sized where
  buffer _ hpc := by rcases hpc with hpc | hpc <;> cases hpc
  sending _ _ hpc := by cases hpc
  handed _ hp := by cases hp

/-- A limit that was read before a computation was also read before the next. -/
theorem exists_mem_compute {P : Nat → Prop} {next : Nat → HandlerPc}
    (hex : ∃ v ∈ h.loads, P v) : ∃ v ∈ (h.compute limit next).loads, P v := by
  obtain ⟨v, hv, hP⟩ := hex
  exact ⟨v, List.mem_cons_of_mem _ hv, hP⟩

/-- Every step keeps the packets of a handler to its buffers. -/
theorem Sized.step (hw : h.Sized) (hs : h.Step limit h') : h'.Sized := by
  cases hs with
  | go pc hsize hsend hpc =>
    refine ⟨fun size hpc' => ?_, fun isFirst p hpc' => absurd hpc' (hsend isFirst p), hw.handed⟩
    rcases hpc' with hpc' | hpc'
    · exact absurd hpc' (hsize size).1
    · exact absurd hpc' (hsize size).2
  | compute next hnext =>
    -- the handler stands before the buffer, unless the computation underflows
    have hpc : (h.compute limit next).pc = match bufSize limit with
      | some size => next size
      | none => .underflowed := rfl
    refine ⟨fun size hpc' => ⟨limit, List.mem_cons_self, ?_⟩, fun isFirst p hpc' => ?_,
      fun p hp => exists_mem_compute (hw.handed p hp)⟩
    · rw [hpc] at hpc'
      cases hsize : bufSize limit with
      | none => simp [hsize] at hpc'
      | some size' =>
        rcases hnext with rfl | rfl | rfl <;> simp [hsize] at hpc' <;> rw [hpc']
    · rw [hpc] at hpc'
      cases hsize : bufSize limit with
      | none => simp [hsize] at hpc'
      | some size' => rcases hnext with rfl | rfl | rfl <;> simp [hsize] at hpc'
  | receives size isFirst p q hpc hq =>
    refine ⟨fun size' hpc' => ?_, fun isFirst' p' hpc' => ?_, hw.handed⟩
    · rcases hpc' with hpc' | hpc' <;> cases hpc'
    · obtain ⟨v, hv, hsize⟩ := hw.buffer size hpc
      have hle := UdpPacket.len_le_of_received hq
      rw [bufSize_eq_some] at hsize
      cases hpc'
      exact ⟨v, hv, by omega⟩
  | drops => exact hw
  | hands isFirst p hpc =>
    refine ⟨fun size hpc' => ?_, fun isFirst' p' hpc' => ?_, fun p' hp => ?_⟩
    · cases isFirst <;> rcases hpc' with hpc' | hpc' <;> cases hpc'
    · cases isFirst <;> cases hpc'
    · rcases List.mem_cons.mp hp with rfl | hp
      · exact hw.sending isFirst p' hpc
      · exact hw.handed p' hp

/-- Every buffer size of a handler was computed from a limit that is large enough. -/
structure Computed (h : Handler) : Prop where
  /-- The limits. -/
  loads : ∀ v ∈ h.loads, headerSlack ≤ v
  /-- So no subtraction underflowed. -/
  pc : h.pc ≠ .underflowed

/-- A step keeps to this when the limit is large enough. -/
theorem Computed.step (hw : h.Computed) (hlimit : headerSlack ≤ limit) (hs : h.Step limit h') :
    h'.Computed := by
  cases hs with
  | go pc hsize hsend hpc => exact ⟨hw.loads, hpc⟩
  | compute next hnext =>
    refine ⟨fun v hv => ?_, ?_⟩
    · rcases List.mem_cons.mp hv with rfl | hv
      · exact hlimit
      · exact hw.loads v hv
    · show (match bufSize limit with
        | some size => next size
        | none => .underflowed) ≠ _
      rw [bufSize, if_pos hlimit]
      rcases hnext with rfl | rfl | rfl <;> simp
  | receives size isFirst p q hpc hq => exact ⟨hw.loads, by simp⟩
  | drops => exact hw
  | hands isFirst p hpc => exact ⟨hw.loads, by cases isFirst <;> simp⟩

end Handler

/-! ## The shared limit -/

/-- What `update_max_udp_relay_packet_size` stores, where the connection reports the size of its
datagrams and the configuration has a default. -/
def updateMaxUdpRelayPacketSize (mode : UdpRelayMode) (defaultSize : Nat)
    (maxDatagramSize : Option Nat) : Nat :=
  match mode with
  | .native =>
    match maxDatagramSize with
    | some size => size
    -- "Failed to detect the max datagram size"
    | none => defaultSize
  | .quic => defaultSize

/-- The limit and the handlers. -/
structure Associates where
  /-- `MAX_UDP_RELAY_PACKET_SIZE` -/
  limit : Nat
  /-- The handlers, each named by its index. -/
  handlers : List Handler

/-- A step of the limit and the handlers. -/
inductive AssociatesAction where
  /-- A connection updates the limit, when it is made or relays a packet. -/
  | update (maxDatagramSize : Option Nat)
  /-- An application asks for an association. -/
  | accept
  /-- Of a handler. -/
  | handler (i : Nat) (st : HandlerStep)

/-- The handlers of all associations and the updates of the limit, in any interleaving, for a
configuration and any values the connections report. -/
def associatesSystem (mode : UdpRelayMode) (defaultSize : Nat) :
    System Associates AssociatesAction where
  init := ⟨1500, []⟩
  step s
    | .update maxDatagramSize =>
      some { s with limit := updateMaxUdpRelayPacketSize mode defaultSize maxDatagramSize }
    | .accept => some { s with handlers := s.handlers ++ [.new] }
    | .handler i st =>
      match s.handlers[i]? with
      | none => none
      | some h =>
        match h.step s.limit st with
        | some h' => some { s with handlers := s.handlers.set i h' }
        | none => none

/-- An update stores a limit from which a buffer size can be computed. -/
def AssociatesAction.enough (mode : UdpRelayMode) (defaultSize : Nat) : AssociatesAction → Bool
  | .update maxDatagramSize =>
    headerSlack ≤ updateMaxUdpRelayPacketSize mode defaultSize maxDatagramSize
  | .accept | .handler _ _ => true

namespace Associates

variable {mode : UdpRelayMode} {defaultSize : Nat} {s s' : Associates} {a : AssociatesAction}

/-- What a step does: it stores a limit, or makes a handler, or is one of a handler. -/
theorem step_cases (h : (associatesSystem mode defaultSize).step s a = some s') :
    (∃ reported, a = .update reported ∧
      s' = { s with limit := updateMaxUdpRelayPacketSize mode defaultSize reported }) ∨
    s' = { s with handlers := s.handlers ++ [.new] } ∨
    ∃ i hd hd', s.handlers[i]? = some hd ∧ hd.Step s.limit hd' ∧
      s' = { s with handlers := s.handlers.set i hd' } := by
  cases a with
  | update reported =>
    cases h
    exact Or.inl ⟨reported, rfl, rfl⟩
  | accept =>
    cases h
    exact Or.inr (Or.inl rfl)
  | handler i st =>
    simp only [associatesSystem] at h
    split at h
    · cases h
    rename_i hd hi
    split at h
    · rename_i hd' hstep
      cases h
      exact Or.inr (Or.inr ⟨i, hd, hd', hi, Handler.step_cases hstep, rfl⟩)
    · cases h

/-- **Every packet that is handed to the relay fits a limit**, in every run: the one its buffer was
sized by. -/
theorem sized_of_reachable {C : Associates → AssociatesAction → Prop}
    (h : (associatesSystem mode defaultSize).ReachableBy C s) :
    All (fun _ hd => hd.Sized) s.handlers := by
  refine h.invariant (I := fun s => All (fun _ hd => hd.Sized) s.handlers) All.nil ?_
  intro s a s' _ ih _ hstep
  rcases step_cases hstep with ⟨_, -, rfl⟩ | rfl | ⟨i, hd, hd', hi, hs, rfl⟩
  · exact ih
  · exact ih.spawn Handler.Sized.new fun _ _ _ hw => hw
  · exact ih.set ((ih i hd hi).step hs) fun _ _ _ _ hw => hw

/-- **The buffer sizes do not underflow** in a run in which every limit that is stored is at least
the difference of the headers: each of the three computations, in each handler, was made on such a
limit. -/
theorem computed_of_reachable (mode : UdpRelayMode) (defaultSize : Nat) (s : Associates)
    (h : (associatesSystem mode defaultSize).ReachableBy
      (fun _ a => a.enough mode defaultSize = true) s) :
    ∀ hd ∈ s.handlers, (∀ v ∈ hd.loads, headerSlack ≤ v) ∧ hd.pc ≠ .underflowed := by
  have hinv : headerSlack ≤ s.limit ∧ All (fun _ hd => hd.Computed) s.handlers := by
    refine h.invariant
      (I := fun s => headerSlack ≤ s.limit ∧ All (fun _ hd => hd.Computed) s.handlers)
      ⟨(by decide : headerSlack ≤ 1500), All.nil⟩ ?_
    rintro s a s' - ⟨hlimit, ih⟩ henough hstep
    rcases step_cases hstep with ⟨reported, rfl, rfl⟩ | rfl | ⟨i, hd, hd', hi, hs, rfl⟩
    · exact ⟨of_decide_eq_true henough, ih⟩
    · exact ⟨hlimit, ih.spawn ⟨nofun, nofun⟩ fun _ _ _ hw => hw⟩
    · exact ⟨hlimit, ih.set ((ih i hd hi).step hlimit hs) fun _ _ _ _ hw => hw⟩
  intro hd hmem
  obtain ⟨i, hi⟩ := List.mem_iff_getElem?.mp hmem
  have hcomputed := hinv.2 i hd hi
  exact ⟨hcomputed.loads, hcomputed.pc⟩

/-- A handler that has computed all three sizes, over a connection that reports 1200 bytes. -/
theorem computed_of_reachable_native :
    let p : UdpPacket := ⟨⟨0, .socketAddress (.v4 ⟨127, 0, 0, 1⟩ 53), trivial⟩, [1, 2]⟩
    ∃ s, (associatesSystem .native 1500).ReachableBy
        (fun _ a => a.enough .native 1500 = true) s ∧
      s.handlers = [⟨.recv 1195, [1200, 1200, 1200], [p]⟩] ∧
      ∀ hd ∈ s.handlers, (∀ v ∈ hd.loads, headerSlack ≤ v) ∧ hd.pc ≠ .underflowed := by
  intro p
  have hrun : (associatesSystem .native 1500).runBy (fun _ a => a.enough .native 1500)
      (associatesSystem .native 1500).init
      [.update (some 1200), .accept, .handler 0 .go, .handler 0 .go, .handler 0 .go,
        .handler 0 .go, .handler 0 (.datagram p), .handler 0 .go, .handler 0 .go,
        .handler 0 .go] = some ⟨1200, [⟨.recv 1195, [1200, 1200, 1200], [p]⟩]⟩ := rfl
  have hreach := System.ReachableBy.init.runBy hrun
  exact ⟨_, hreach, rfl, computed_of_reachable .native 1500 _ hreach⟩

/-- A configuration with limit zero underflows the first size of the first handler, and so does a
server whose datagrams have three bytes. -/
theorem computed_underflows :
    (∃ s, (associatesSystem .quic 0).Reachable s ∧
      s.handlers = [⟨.underflowed, [0], []⟩]) ∧
    ∃ s, (associatesSystem .native 1500).Reachable s ∧
      s.handlers = [⟨.underflowed, [3], []⟩] := by
  have hquic : (associatesSystem .quic 0).run (associatesSystem .quic 0).init
      [.update none, .accept, .handler 0 .go, .handler 0 .go, .handler 0 .go] =
      some ⟨0, [⟨.underflowed, [0], []⟩]⟩ := rfl
  have hnative : (associatesSystem .native 1500).run (associatesSystem .native 1500).init
      [.update (some 3), .accept, .handler 0 .go, .handler 0 .go, .handler 0 .go] =
      some ⟨3, [⟨.underflowed, [3], []⟩]⟩ := rfl
  exact ⟨⟨_, System.ReachableBy.init.run hquic, rfl⟩,
    ⟨_, System.ReachableBy.init.run hnative, rfl⟩⟩

end Associates

end Tuic.Client.Socks5
