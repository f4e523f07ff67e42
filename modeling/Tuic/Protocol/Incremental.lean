import Tuic.Codec.Pull
import Tuic.Protocol.Final

/-! # Decoding a command as it arrives

`Command::read_from` and `Address::read_from` are asynchronous: each of their reads is suspended
until its buffer is full. Here they are decoders that pull their input, with the same reads in the
same order (`Command.readFromStream`), and on an input that is all there they compute what
`Command.readFrom` does (`Command.run_readFromStream`). So a handler that decodes a header in
pieces gets what it would get from the whole, takes no byte behind the header, and waits exactly as
long as the header is not complete.

A header has at most `Command.maxSerializedLen` bytes, and that is also the most a decoder takes of
a stream, whatever arrives on it. -/

namespace Tuic

open ByteCodec ByteCodec.Reader

namespace Address

/-- The domain case of `readFromStream`. -/
def readDomainStream : Pull Address := do
  let len ← Pull.readU8
  let buf ← Pull.readExact (len.toNat + 2)
  -- `&buf[len..]` panics when `len` is past the end of `buf`
  if buf.length < len.toNat then Pull.fail .panic
  else do
    let port ← Pull.onCursor (buf.drop len.toNat) (unwrap readU16)
    match fromUtf8 (buf.take len.toNat) with
    | .ok addr => return .domainAddress addr port
    | .error err =>
      Pull.fail (.io ⟨.invalidData, "Invalid address encoding: " ++ err.message⟩)

/-- The IPv4 case of `readFromStream`. -/
def readIpv4Stream : Pull Address := do
  let buf ← Pull.readExact 6
  Pull.onCursor buf do
    let a ← unwrap readU8
    let b ← unwrap readU8
    let c ← unwrap readU8
    let d ← unwrap readU8
    let port ← unwrap readU16
    return .socketAddress (.v4 ⟨a, b, c, d⟩ port)

/-- The IPv6 case of `readFromStream`. -/
def readIpv6Stream : Pull Address := do
  let buf ← Pull.readExact 18
  Pull.onCursor buf do
    let a ← unwrap readU16
    let b ← unwrap readU16
    let c ← unwrap readU16
    let d ← unwrap readU16
    let e ← unwrap readU16
    let f ← unwrap readU16
    let g ← unwrap readU16
    let h ← unwrap readU16
    let port ← unwrap readU16
    return .socketAddress (.v6 ⟨a, b, c, d, e, f, g, h⟩ port 0 0)

/-- Decode an address from a stream. -/
def readFromStream : Pull Address := do
  let addrType ← Pull.readU8
  if addrType = typeDomain then readDomainStream
  else if addrType = typeIpv4 then readIpv4Stream
  else if addrType = typeIpv6 then readIpv6Stream
  else Pull.fail (.io ⟨.invalidInput, s!"Unsupported address type: {addrType}"⟩)

end Address

namespace Command

/-- The response case of `readFromStream`. -/
def readResponseStream : Pull Command := do
  let resp ← Pull.readU8
  if resp = responseSucceeded then return .response true
  else if resp = responseFailed then return .response false
  else Pull.fail (.io ⟨.invalidInput, s!"Invalid response code: {resp}"⟩)

/-- The packet case of `readFromStream`. -/
def readPacketStream : Pull Command := do
  let buf ← Pull.readExact 6
  let (assocId, len) ← Pull.onCursor buf do
    let assocId ← unwrap readU32
    let len ← unwrap readU16
    return (assocId, len)
  let addr ← Address.readFromStream
  return .packet assocId len addr

/-- The type-specific part of `readFromStream`. -/
def readOptStream (cmd : UInt8) : Pull Command :=
  if cmd = typeResponse then readResponseStream
  else if cmd = typeAuthenticate then do
    let digest ← Pull.readArray 32
    return .authenticate digest
  else if cmd = typeConnect then do
    let addr ← Address.readFromStream
    return .connect addr
  else if cmd = typePacket then readPacketStream
  else if cmd = typeDissociate then do
    let assocId ← Pull.readU32
    return .dissociate assocId
  else if cmd = typeHeartbeat then return .heartbeat
  else Pull.fail (.io ⟨.invalidInput, s!"Invalid command: {cmd}"⟩)

/-- Decode a command from a stream. -/
def readFromStream : Pull Command := do
  let ver ← Pull.readU8
  if ver ≠ tuicProtocolVersion then
    Pull.fail (.io ⟨.unsupported, s!"Unsupported TUIC version: {ver}"⟩)
  else do
    let cmd ← Pull.readU8
    readOptStream cmd

end Command

/-! ## On an input that is all there -/

namespace Address

theorem run_readDomainStream : readDomainStream.run = readDomain := by
  simp only [readDomainStream, readDomain, Pull.run_bind, Pull.run_readU8, Pull.run_readExact,
    Pull.run_ite, Pull.run_fail_eq_throw, Pull.run_onCursor]
  congr 1
  funext len
  congr 1
  funext buf
  congr 1
  congr 1
  funext port
  cases fromUtf8 (buf.take len.toNat) with
  | ok addr => rfl
  | error err => rfl

theorem run_readFromStream : readFromStream.run = readFrom := by
  simp only [readFromStream, readFrom, readIpv4Stream, readIpv4, readIpv6Stream, readIpv6,
    Pull.run_bind, Pull.run_readU8, Pull.run_readExact, Pull.run_ite, Pull.run_fail_eq_throw,
    Pull.run_onCursor, run_readDomainStream]

end Address

namespace Command

theorem run_readOptStream (cmd : UInt8) : (readOptStream cmd).run = readOpt cmd := by
  simp only [readOptStream, readOpt, readResponseStream, readResponse, readPacketStream, readPacket,
    Pull.run_bind, Pull.run_readU8, Pull.run_readExact, Pull.run_readArray, Pull.run_readU32,
    Pull.run_ite, Pull.run_fail_eq_throw, Pull.run_onCursor, Pull.run_pure,
    Address.run_readFromStream]

/-- **The decoder on a stream computes what the decoder does.** -/
theorem run_readFromStream : readFromStream.run = readFrom := by
  simp only [readFromStream, readFrom, Pull.run_bind, Pull.run_readU8, Pull.run_ite,
    Pull.run_fail_eq_throw, run_readOptStream]

end Command

/-! ## The end of a stream -/

/-- The cursor reads of an address unwrap every read. -/
theorem onlyPanics_readIpv4 : OnlyPanics (do
    let a ← unwrap readU8
    let b ← unwrap readU8
    let c ← unwrap readU8
    let d ← unwrap readU8
    let port ← unwrap readU16
    return Address.socketAddress (.v4 ⟨a, b, c, d⟩ port)) :=
  (OnlyPanics.unwrap _).bind fun _ => (OnlyPanics.unwrap _).bind fun _ =>
    (OnlyPanics.unwrap _).bind fun _ => (OnlyPanics.unwrap _).bind fun _ =>
    (OnlyPanics.unwrap _).bind fun _ => OnlyPanics.pure _

theorem onlyPanics_readIpv6 : OnlyPanics (do
    let a ← unwrap readU16
    let b ← unwrap readU16
    let c ← unwrap readU16
    let d ← unwrap readU16
    let e ← unwrap readU16
    let f ← unwrap readU16
    let g ← unwrap readU16
    let h ← unwrap readU16
    let port ← unwrap readU16
    return Address.socketAddress (.v6 ⟨a, b, c, d, e, f, g, h⟩ port 0 0)) :=
  (OnlyPanics.unwrap _).bind fun _ => (OnlyPanics.unwrap _).bind fun _ =>
    (OnlyPanics.unwrap _).bind fun _ => (OnlyPanics.unwrap _).bind fun _ =>
    (OnlyPanics.unwrap _).bind fun _ => (OnlyPanics.unwrap _).bind fun _ =>
    (OnlyPanics.unwrap _).bind fun _ => (OnlyPanics.unwrap _).bind fun _ =>
    (OnlyPanics.unwrap _).bind fun _ => OnlyPanics.pure _

/-- The address decoder reports no end of the input but that of the stream. -/
theorem Address.leavesEof_readFromStream : Address.readFromStream.LeavesEof := by
  refine Pull.LeavesEof.readU8.bind fun addrType => .ite ?_ (.ite ?_ (.ite ?_ ?_))
  · refine Pull.LeavesEof.readU8.bind fun len => (Pull.LeavesEof.readExact _).bind fun buf =>
      .ite id ?_
    refine (Pull.LeavesEof.onCursor (OnlyPanics.unwrap _) _).bind fun port => ?_
    cases fromUtf8 (buf.take len.toNat) with
    | ok addr => trivial
    | error err => exact nofun
  · exact (Pull.LeavesEof.readExact 6).bind fun buf => .onCursor onlyPanics_readIpv4 buf
  · exact (Pull.LeavesEof.readExact 18).bind fun buf => .onCursor onlyPanics_readIpv6 buf
  · exact nofun

/-- **The command decoder reports no end of the input** but that of the stream. -/
theorem Command.leavesEof_readFromStream : Command.readFromStream.LeavesEof := by
  refine Pull.LeavesEof.readU8.bind fun ver => .ite nofun
    (Pull.LeavesEof.readU8.bind fun cmd => ?_)
  refine .ite ?_ (.ite ?_ (.ite ?_ (.ite ?_ (.ite ?_ (.ite trivial nofun)))))
  · exact Pull.LeavesEof.readU8.bind fun resp => .ite trivial (.ite trivial nofun)
  · exact (Pull.LeavesEof.readArray 32).bind fun _ => trivial
  · exact Address.leavesEof_readFromStream.bind fun _ => trivial
  · have hcursor : OnlyPanics (do
        let assocId ← unwrap readU32
        let len ← unwrap readU16
        return (assocId, len)) :=
      (OnlyPanics.unwrap _).bind fun _ => (OnlyPanics.unwrap _).bind fun _ => OnlyPanics.pure _
    exact (Pull.LeavesEof.readExact 6).bind fun buf =>
      (Pull.LeavesEof.onCursor hcursor buf).bind fun _ =>
        Address.leavesEof_readFromStream.bind fun _ => trivial
  · exact Pull.LeavesEof.readU32.bind fun _ => trivial

/-! ## How much a decoder takes -/

/-- A domain is preceded by its length in one byte, and followed by a port. -/
theorem Address.within_readDomainStream : Address.readDomainStream.Within (1 + (255 + 2)) := by
  refine Pull.Within.readU8.bind fun len => ?_
  have hlen : len.toNat < 256 := len.toNat_lt
  have hbuf : ∀ buf : Bytes, (if buf.length < len.toNat then Pull.fail .panic
      else do
        let port ← Pull.onCursor (buf.drop len.toNat) (unwrap readU16)
        match fromUtf8 (buf.take len.toNat) with
        | .ok addr => return Address.domainAddress addr port
        | .error err =>
          Pull.fail (.io ⟨.invalidData, "Invalid address encoding: " ++ err.message⟩)).Within
        (0 + 0) := by
    intro buf
    refine .ite trivial ((Pull.Within.onCursor _ _).bind fun port => ?_)
    cases fromUtf8 (buf.take len.toNat) with
    | ok addr => trivial
    | error err => trivial
  exact ((Pull.Within.readExact (len.toNat + 2)).bind hbuf).mono (by omega)

/-- The address decoder takes at most the largest length of an address. -/
theorem Address.within_readFromStream :
    Address.readFromStream.Within Address.maxSerializedLen := by
  refine Pull.Within.readU8.bind (n := 1 + (255 + 2)) fun addrType => ?_
  refine .ite Address.within_readDomainStream (.ite ?_ (.ite ?_ trivial))
  · exact ((Pull.Within.readExact 6).bind fun buf => .onCursor buf _).mono (by omega)
  · exact ((Pull.Within.readExact 18).bind fun buf => .onCursor buf _).mono (by omega)

/-- **The command decoder takes at most the largest length of a header.** -/
theorem Command.within_readFromStream :
    Command.readFromStream.Within Command.maxSerializedLen := by
  have hmax : Command.maxSerializedLen = 1 + (1 + (6 + Address.maxSerializedLen)) := by decide
  rw [hmax]
  refine Pull.Within.readU8.bind fun ver => .ite trivial (Pull.Within.readU8.bind fun cmd => ?_)
  have haddr : ∀ f : Address → Command,
      (Address.readFromStream >>= fun addr => pure (f addr)).Within Address.maxSerializedLen :=
    fun f => Address.within_readFromStream.bind (n := 0) fun addr => Pull.within_pure (f addr) 0
  refine .ite ?_ (.ite ?_ (.ite ?_ (.ite ?_ (.ite ?_ (.ite trivial trivial)))))
  · refine Pull.Within.mono (m := 1 + 0) ?_ (by decide)
    exact Pull.Within.readU8.bind fun resp => .ite trivial (.ite trivial trivial)
  · refine Pull.Within.mono (m := 32 + 0) ?_ (by decide)
    exact (Pull.Within.readArray 32).bind fun _ => trivial
  · exact (haddr .connect).mono (by decide)
  · refine (Pull.Within.readExact 6).bind fun buf => ?_
    refine Pull.Within.mono (m := 0 + Address.maxSerializedLen) ?_ (by decide)
    exact (Pull.Within.onCursor buf _).bind fun (assocId, len) => haddr (.packet assocId len)
  · refine Pull.Within.mono (m := 4 + 0) ?_ (by decide)
    exact Pull.Within.readU32.bind fun _ => trivial

/-! ## A handler that decodes a header -/

namespace Command

/-- **Decoding in pieces.** However the bytes of a stream arrive and however much of them each read
gets, what the decoder of a handler has come to is what `readFrom` computes on all bytes that have
arrived, and what it has left on the stream is what `readFrom` leaves. When it cannot go on, it is
without a result exactly when `readFrom` runs out of input and the stream has not ended. -/
theorem decoding_eq_readFrom (d : Decoding Command)
    (h : (decodingSystem readFromStream).Reachable d) :
    (∀ r, d.outcome = some r → readFrom d.arrived = r.map fun cmd => (cmd, d.stream)) ∧
      (d.AtRest → (d.outcome = none ↔
        d.ended = false ∧ ∃ e, readFrom d.arrived = .error e ∧ IsEof e)) := by
  rw [← run_readFromStream]
  exact ⟨fun r hr => Decoding.run_of_outcome h hr,
    fun hrest => hrest.outcome_eq_none leavesEof_readFromStream h⟩

/-- A heartbeat that arrives in two pieces, with a byte of something else behind it. -/
theorem decoding_eq_readFrom_heartbeat :
    ∃ d, (decodingSystem readFromStream).Reachable d ∧ d.outcome = some (.ok .heartbeat) ∧
      d.stream = [9] ∧ readFrom d.arrived = .ok (.heartbeat, [9]) := by
  obtain ⟨d, hd, hout⟩ := (decodingSystem readFromStream).exists_reachable_of_run
    [.arrive [4], .poll 0, .poll 0, .arrive [4, 9], .poll 5, .poll 0]
    (fun d => (d.outcome.bind Except.toOption == some .heartbeat) && decide (d.stream = [9]))
    (by decide)
  simp only [Bool.and_eq_true, beq_iff_eq, decide_eq_true_eq] at hout
  obtain ⟨hout, hstream⟩ := hout
  have hok : d.outcome = some (.ok .heartbeat) := by
    obtain ⟨r, hr, hcmd⟩ := Option.bind_eq_some_iff.mp hout
    cases r with
    | ok cmd =>
      cases hcmd
      exact hr
    | error e => cases hcmd
  have hread := (decoding_eq_readFrom d hd).1 _ hok
  rw [hstream] at hread
  exact ⟨d, hd, hok, hstream, hread⟩

/-- With as many bytes as the largest header has, the decoder does not run out of input, and the
bytes behind them are left alone. -/
theorem readFrom_append_of_maxSerializedLen_le {b : Bytes} (h : maxSerializedLen ≤ b.length)
    (x : Bytes) : readFrom (b ++ x) = (readFrom b).map fun r => (r.1, r.2 ++ x) := by
  cases hb : readFrom b with
  | ok r => exact final_readFrom.ok hb x
  | error e =>
    have heof : ¬ IsEof e := by
      rw [← run_readFromStream] at hb
      exact within_readFromStream.not_isEof leavesEof_readFromStream h hb
    exact final_readFrom.error hb heof x

/-- **How far a decoder looks ahead.** In every run it has taken at most `max_serialized_len` bytes
of its stream. Once that many have arrived, it does not wait for more: when it cannot go on it has
returned or failed, and what it has come to does not depend on the bytes behind them. -/
theorem decoding_lookahead (d : Decoding Command)
    (h : (decodingSystem readFromStream).Reachable d) :
    d.taken.length ≤ maxSerializedLen ∧
      (maxSerializedLen ≤ d.arrived.length → d.AtRest → d.outcome ≠ none ∧
        ∀ x, (readFrom (d.arrived ++ x)).map Prod.fst = (readFrom d.arrived).map Prod.fst) := by
  refine ⟨(Decoding.bounded_of_reachable within_readFromStream h).taken, fun hlen hrest => ?_⟩
  refine ⟨hrest.outcome_ne_none within_readFromStream h hlen, fun x => ?_⟩
  rw [readFrom_append_of_maxSerializedLen_le hlen]
  cases readFrom d.arrived with
  | ok r => rfl
  | error e => rfl

/-- A heartbeat at the beginning of 267 bytes: two of them are taken. -/
theorem decoding_lookahead_heartbeat :
    ∃ d, (decodingSystem readFromStream).Reachable d ∧ d.arrived.length = maxSerializedLen ∧
      d.taken.length = 2 ∧ d.outcome ≠ none := by
  obtain ⟨d, hd, hout⟩ := (decodingSystem readFromStream).exists_reachable_of_run
    [.arrive (.replicate 267 4), .poll 0, .poll 0, .poll 0, .poll 0]
    (fun d => (match d.prog with | .ret _ => true | _ => false) &&
      decide (d.arrived.length = maxSerializedLen ∧ d.taken.length = 2)) (by decide +kernel)
  simp only [Bool.and_eq_true, decide_eq_true_eq] at hout
  obtain ⟨hret, hlen, htaken⟩ := hout
  have hrest : d.AtRest := by
    intro m
    cases hprog : d.prog with
    | ret cmd => simp only [Decoding.step, hprog]
    | fail e => simp [hprog] at hret
    | need eof n k => simp [hprog] at hret
  exact ⟨d, hd, hlen, htaken, ((decoding_lookahead d hd).2 hlen.ge hrest).1⟩

end Command

end Tuic
