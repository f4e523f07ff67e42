import Tuic.Protocol.Command

/-! # The codec: decoding and encoding undo each other

Everything about the codec follows from one statement each for `Address` and `Command`:
`readFrom b` returns `x` and leaves `rest` **exactly when** `b = x.writeToBuf ++ rest` and `x` is
`Canonical`, that is, a value the wire format can carry. Read from right to left it is "decode
undoes encode, with framing"; from left to right, "encode undoes decode". -/

namespace Tuic

open ByteCodec ByteCodec.Reader

/-! ## Addresses -/

namespace Address

/-- The addresses that decoding can return: the domain fits its length byte, and nothing is set
that the wire does not carry. -/
def Canonical (addr : Address) : Prop := addr.Fits ∧ addr.onWire = addr

/-- What is not on the wire does not change the bytes. -/
@[simp] theorem writeToBuf_onWire (addr : Address) : addr.onWire.writeToBuf = addr.writeToBuf := by
  match addr with
  | .domainAddress _ _ => rfl
  | .socketAddress (.v4 _ _) => rfl
  | .socketAddress (.v6 _ _ _ _) => rfl

/-- An address that fits is canonical once reduced to what is on the wire. -/
theorem canonical_onWire {addr : Address} (h : addr.Fits) : addr.onWire.Canonical := by
  match addr, h with
  | .domainAddress _ _, h => exact ⟨h, rfl⟩
  | .socketAddress (.v4 _ _), _ => exact ⟨trivial, rfl⟩
  | .socketAddress (.v6 _ _ _ _), _ => exact ⟨trivial, rfl⟩

/-- The bytes after the type byte of a domain address. -/
theorem readDomain_eq_ok {b rest : Bytes} {addr : Address} :
    readDomain b = .ok (addr, rest) ↔
      ∃ s port, addr = .domainAddress s port ∧ (asBytes s).length ≤ 255 ∧
        b = UInt8.ofNat (asBytes s).length :: (asBytes s ++ putU16 port) ++ rest := by
  simp only [readDomain, bind_eq_ok, readU8_eq_ok, readExact_eq_ok]
  constructor
  · rintro ⟨len, c, rfl, buf, d, ⟨rfl, hbuf⟩, h⟩
    -- the buffer is two bytes longer than the name, so the slice does not panic
    rw [if_neg (by omega)] at h
    simp only [bind_eq_ok, onCursor_eq_ok, unwrap_eq_ok, readU16_eq_ok] at h
    obtain ⟨port, e, ⟨⟨c, hport⟩, rfl⟩, h⟩ := h
    -- the port fills what the name leaves of the buffer, so nothing follows it there
    have hc : c = [] := by
      have hlen := congrArg List.length hport
      simp only [List.length_drop, List.length_append, length_putU16] at hlen
      exact List.length_eq_zero_iff.mp (by omega)
    rw [hc, List.append_nil] at hport
    cases hs : fromUtf8 (buf.take len.toNat) with
    | error e =>
      rw [hs] at h
      simp at h
    | ok s =>
      rw [hs] at h
      simp only [pure_eq_ok] at h
      obtain ⟨rfl, rfl⟩ := h
      have hname : buf.take len.toNat = asBytes s := fromUtf8_eq_ok.mp hs
      have hlen : (asBytes s).length = len.toNat := by
        rw [← hname, List.length_take]
        omega
      -- the length byte is that of the name that was read, so it is at most 255
      have hle : len.toNat < 256 := len.toNat_lt
      refine ⟨s, port, rfl, by omega, ?_⟩
      rw [hlen, UInt8.ofNat_toNat, ← hname, ← hport, List.take_append_drop]
      rfl
  · rintro ⟨s, port, rfl, hs, rfl⟩
    -- this is where a name of more than 255 bytes would be truncated
    have hlen : (UInt8.ofNat (asBytes s).length).toNat = (asBytes s).length := by
      simp only [UInt8.toNat_ofNat']
      omega
    refine ⟨_, _, rfl, asBytes s ++ putU16 port, rest, ⟨rfl, by simp [hlen]⟩, ?_⟩
    rw [if_neg (by simp [hlen]), hlen]
    have hport : (asBytes s ++ putU16 port).drop (asBytes s).length = putU16 port ++ [] := by simp
    have hname : (asBytes s ++ putU16 port).take (asBytes s).length = asBytes s := by simp
    rw [bind_of_ok (onCursor_eq_ok.mpr ⟨⟨[], unwrap_eq_ok.mpr (readU16_eq_ok.mpr hport)⟩, rfl⟩),
      hname, fromUtf8_eq_ok.mpr rfl]
    rfl

/-- The bytes after the type byte of an IPv4 address. -/
theorem readIpv4_eq_ok {b rest : Bytes} {addr : Address} :
    readIpv4 b = .ok (addr, rest) ↔
      ∃ ip port, addr = .socketAddress (.v4 ip port) ∧ b = ip.octets ++ putU16 port ++ rest := by
  simp only [readIpv4, bind_eq_ok, readExact_eq_ok, onCursor_eq_ok, unwrap_eq_ok, readU8_eq_ok,
    readU16_eq_ok, pure_eq_ok]
  constructor
  · rintro ⟨buf, d, ⟨rfl, hbuf⟩, ⟨e, x, _, rfl, y, _, rfl, z, _, rfl, w, _, rfl, port, c, rfl,
      rfl, rfl⟩, rfl⟩
    -- six bytes are four octets and a port: the cursor is at its end
    have hc : c = [] := by
      simp only [List.length_cons, List.length_append, length_putU16] at hbuf
      exact List.length_eq_zero_iff.mp (by omega)
    subst hc
    exact ⟨⟨x, y, z, w⟩, port, rfl, by simp [Ipv4Addr.octets]⟩
  · rintro ⟨ip, port, rfl, rfl⟩
    exact ⟨ip.octets ++ putU16 port, rest, ⟨rfl, by simp [Ipv4Addr.octets]⟩,
      ⟨[], ip.a, _, rfl, ip.b, _, rfl, ip.c, _, rfl, ip.d, _, rfl, port, [],
        (List.append_nil _).symm, rfl, rfl⟩, rfl⟩

/-- The bytes after the type byte of an IPv6 address. -/
theorem readIpv6_eq_ok {b rest : Bytes} {addr : Address} :
    readIpv6 b = .ok (addr, rest) ↔
      ∃ ip port, addr = .socketAddress (.v6 ip port 0 0) ∧
        b = ip.segments.flatMap putU16 ++ putU16 port ++ rest := by
  simp only [readIpv6, bind_eq_ok, readExact_eq_ok, onCursor_eq_ok, unwrap_eq_ok, readU16_eq_ok,
    pure_eq_ok]
  constructor
  · rintro ⟨buf, d, ⟨rfl, hbuf⟩, ⟨e, s1, _, rfl, s2, _, rfl, s3, _, rfl, s4, _, rfl, s5, _, rfl,
      s6, _, rfl, s7, _, rfl, s8, _, rfl, port, c, rfl, rfl, rfl⟩, rfl⟩
    -- eighteen bytes are eight segments and a port
    have hc : c = [] := by
      simp only [List.length_append, length_putU16] at hbuf
      exact List.length_eq_zero_iff.mp (by omega)
    subst hc
    exact ⟨⟨s1, s2, s3, s4, s5, s6, s7, s8⟩, port, rfl, by simp [Ipv6Addr.segments]⟩
  · rintro ⟨ip, port, rfl, rfl⟩
    refine ⟨ip.segments.flatMap putU16 ++ putU16 port, rest, ⟨rfl, by simp [Ipv6Addr.segments]⟩,
      ⟨[], ip.a, _, ?_, ip.b, _, rfl, ip.c, _, rfl, ip.d, _, rfl, ip.e, _, rfl, ip.f, _, rfl,
        ip.g, _, rfl, ip.h, _, rfl, port, [], rfl, rfl, rfl⟩, rfl⟩
    simp [Ipv6Addr.segments]

/-- **The address codec**: `readFrom` returns exactly the canonical addresses, each from its own
encoding, and reads nothing past it. -/
theorem readFrom_eq_ok {b rest : Bytes} {addr : Address} :
    readFrom b = .ok (addr, rest) ↔ addr.Canonical ∧ b = addr.writeToBuf ++ rest := by
  simp only [readFrom, bind_eq_ok, readU8_eq_ok]
  constructor
  · rintro ⟨ty, c, rfl, h⟩
    split_ifs at h with h1 h2 h3
    · obtain ⟨s, port, rfl, hs, rfl⟩ := readDomain_eq_ok.mp h
      exact ⟨⟨hs, rfl⟩, by rw [h1]; rfl⟩
    · obtain ⟨ip, port, rfl, rfl⟩ := readIpv4_eq_ok.mp h
      exact ⟨⟨trivial, rfl⟩, by rw [h2]; rfl⟩
    · obtain ⟨ip, port, rfl, rfl⟩ := readIpv6_eq_ok.mp h
      exact ⟨⟨trivial, rfl⟩, by rw [h3]; rfl⟩
    · simp at h
  · rintro ⟨⟨hfits, hwire⟩, rfl⟩
    cases addr with
    | domainAddress s port =>
      exact ⟨_, _, rfl, readDomain_eq_ok.mpr ⟨s, port, rfl, hfits, rfl⟩⟩
    | socketAddress addr =>
      cases addr with
      | v4 ip port => exact ⟨_, _, rfl, readIpv4_eq_ok.mpr ⟨ip, port, rfl, rfl⟩⟩
      | v6 ip port flow scope =>
        -- a canonical address has neither flow information nor scope id
        exact ⟨_, _, rfl, readIpv6_eq_ok.mpr ⟨ip, port, hwire.symm, rfl⟩⟩

/-- `serializedLen` is the number of bytes `writeToBuf` writes. -/
@[simp] theorem length_writeToBuf (addr : Address) :
    addr.writeToBuf.length = addr.serializedLen := by
  match addr with
  | .domainAddress s port =>
    simp only [writeToBuf, serializedLen, List.length_cons, List.length_append, length_putU16]
    omega
  | .socketAddress (.v4 ip port) => simp [writeToBuf, serializedLen, Ipv4Addr.octets]
  | .socketAddress (.v6 ip port _ _) => simp [writeToBuf, serializedLen, Ipv6Addr.segments]

/-! ### No panic -/

/-- The slice and the `unwrap` of the domain case never fail. -/
theorem noPanic_readDomain : NoPanic readDomain := by
  refine NoPanic.readU8.bind fun _ len c _ => ?_
  refine (NoPanic.readExact _).bind (fun _ buf d hbuf => ?_) c
  obtain ⟨-, hlen⟩ := readExact_eq_ok.mp hbuf
  rw [if_neg (by omega)]
  -- what the name leaves of the buffer is the two bytes of the port
  have hcur : NoPanic (onCursor (buf.drop len.toNat) (unwrap readU16)) := fun _ =>
    Fixed.readU16.unwrap.onCursor_ne_panic (by simp; omega)
  refine hcur.bind (fun _ port e _ => ?_) d
  cases fromUtf8 (buf.take len.toNat) with
  | ok s => exact NoPanic.pure _ e
  | error err => exact NoPanic.throw _ e

/-- The cursor reads of the IPv4 case never fail. -/
theorem noPanic_readIpv4 : NoPanic readIpv4 := by
  refine (NoPanic.readExact 6).bind fun _ buf d hbuf => ?_
  obtain ⟨-, hlen⟩ := readExact_eq_ok.mp hbuf
  exact Fixed.onCursor_ne_panic
    (Fixed.readU8.unwrap.bind fun _ => Fixed.readU8.unwrap.bind fun _ =>
      Fixed.readU8.unwrap.bind fun _ => Fixed.readU8.unwrap.bind fun _ =>
      Fixed.readU16.unwrap.bind fun _ => Fixed.pure _) hlen.ge

/-- The cursor reads of the IPv6 case never fail. -/
theorem noPanic_readIpv6 : NoPanic readIpv6 := by
  refine (NoPanic.readExact 18).bind fun _ buf d hbuf => ?_
  obtain ⟨-, hlen⟩ := readExact_eq_ok.mp hbuf
  exact Fixed.onCursor_ne_panic
    (Fixed.readU16.unwrap.bind fun _ => Fixed.readU16.unwrap.bind fun _ =>
      Fixed.readU16.unwrap.bind fun _ => Fixed.readU16.unwrap.bind fun _ =>
      Fixed.readU16.unwrap.bind fun _ => Fixed.readU16.unwrap.bind fun _ =>
      Fixed.readU16.unwrap.bind fun _ => Fixed.readU16.unwrap.bind fun _ =>
      Fixed.readU16.unwrap.bind fun _ => Fixed.pure _) hlen.ge

/-- The address decoder panics on no input. -/
theorem noPanic_readFrom : NoPanic readFrom := by
  refine NoPanic.readU8.bind fun _ ty c _ => ?_
  split_ifs
  · exact noPanic_readDomain c
  · exact noPanic_readIpv4 c
  · exact noPanic_readIpv6 c
  · exact NoPanic.throw _ c

end Address

/-! ## Commands -/

namespace Command

/-- The commands that decoding can return. -/
def Canonical : Command → Prop
  | .connect addr => addr.Canonical
  | .packet _ _ addr => addr.Canonical
  | _ => True

/-- What is not on the wire does not change the bytes. -/
@[simp] theorem writeToBuf_onWire (cmd : Command) : cmd.onWire.writeToBuf = cmd.writeToBuf := by
  cases cmd <;> simp [onWire, writeToBuf]

/-- A command that fits is canonical once reduced to what is on the wire. -/
theorem canonical_onWire {cmd : Command} (h : cmd.Fits) : cmd.onWire.Canonical := by
  cases cmd with
  | connect addr => exact Address.canonical_onWire h
  | packet id len addr => exact Address.canonical_onWire h
  | _ => trivial

/-- The bytes after the type byte of a response. -/
theorem readResponse_eq_ok {b rest : Bytes} {cmd : Command} :
    readResponse b = .ok (cmd, rest) ↔
      ∃ ok, cmd = .response ok ∧
        b = (if ok then responseSucceeded else responseFailed) :: rest := by
  simp only [readResponse, bind_eq_ok, readU8_eq_ok]
  constructor
  · rintro ⟨resp, c, rfl, h⟩
    split_ifs at h with h1 h2
    · obtain ⟨rfl, rfl⟩ := pure_eq_ok.mp h
      exact ⟨true, rfl, by rw [h1]; rfl⟩
    · obtain ⟨rfl, rfl⟩ := pure_eq_ok.mp h
      exact ⟨false, rfl, by rw [h2]; rfl⟩
    · simp at h
  · rintro ⟨ok, rfl, rfl⟩
    refine ⟨_, rest, rfl, ?_⟩
    cases ok <;> rfl

/-- The bytes after the type byte of a packet. -/
theorem readPacket_eq_ok {b rest : Bytes} {cmd : Command} :
    readPacket b = .ok (cmd, rest) ↔
      ∃ id len addr, cmd = .packet id len addr ∧ addr.Canonical ∧
        b = putU32 id ++ (putU16 len ++ addr.writeToBuf) ++ rest := by
  simp only [readPacket, bind_eq_ok, readExact_eq_ok, onCursor_eq_ok, unwrap_eq_ok, readU32_eq_ok,
    readU16_eq_ok, pure_eq_ok, Address.readFrom_eq_ok]
  constructor
  · rintro ⟨buf, d, ⟨rfl, hbuf⟩, p, e, ⟨⟨_, id, _, rfl, len, c, rfl, rfl, -⟩, rfl⟩, addr, f,
      ⟨haddr, rfl⟩, rfl, rfl⟩
    -- six bytes are an association id and a length
    have hc : c = [] := by
      simp only [List.length_append, length_putU32, length_putU16] at hbuf
      exact List.length_eq_zero_iff.mp (by omega)
    subst hc
    exact ⟨id, len, addr, rfl, haddr, by simp⟩
  · rintro ⟨id, len, addr, rfl, haddr, rfl⟩
    exact ⟨putU32 id ++ putU16 len, addr.writeToBuf ++ rest, ⟨by simp, by simp⟩, (id, len), _,
      ⟨⟨[], id, _, rfl, len, [], (List.append_nil _).symm, rfl, rfl⟩, rfl⟩, addr, rest,
      ⟨haddr, rfl⟩, rfl, rfl⟩

/-- The bytes from the type byte on, below a version byte. -/
theorem readOpt_eq_ok {ty : UInt8} {b rest : Bytes} {cmd : Command} :
    readOpt ty b = .ok (cmd, rest) ↔
      cmd.Canonical ∧ tuicProtocolVersion :: ty :: b = cmd.writeToBuf ++ rest := by
  constructor
  · intro h
    unfold readOpt at h
    split_ifs at h with h1 h2 h3 h4 h5 h6
    · obtain ⟨ok, rfl, rfl⟩ := readResponse_eq_ok.mp h
      exact ⟨trivial, by rw [h1]; rfl⟩
    · obtain ⟨digest, c, hd, hret⟩ := bind_eq_ok.mp h
      obtain ⟨rfl, rfl⟩ := pure_eq_ok.mp hret
      rw [readArray_eq_ok] at hd
      exact ⟨trivial, by rw [h2, hd]; rfl⟩
    · obtain ⟨addr, c, ha, hret⟩ := bind_eq_ok.mp h
      obtain ⟨rfl, rfl⟩ := pure_eq_ok.mp hret
      obtain ⟨hc, rfl⟩ := Address.readFrom_eq_ok.mp ha
      exact ⟨hc, by rw [h3]; rfl⟩
    · obtain ⟨id, len, addr, rfl, hc, rfl⟩ := readPacket_eq_ok.mp h
      exact ⟨hc, by rw [h4]; rfl⟩
    · obtain ⟨id, c, hid, hret⟩ := bind_eq_ok.mp h
      obtain ⟨rfl, rfl⟩ := pure_eq_ok.mp hret
      rw [readU32_eq_ok] at hid
      exact ⟨trivial, by rw [h5, hid]; rfl⟩
    · obtain ⟨rfl, rfl⟩ := pure_eq_ok.mp h
      exact ⟨trivial, by rw [h6]; rfl⟩
    · simp at h
  · rintro ⟨hcan, hb⟩
    -- the type byte of each encoding selects its own branch
    cases cmd with
    | response ok =>
      obtain ⟨-, rfl, rfl⟩ := List.cons.inj hb |>.imp_right List.cons.inj
      exact readResponse_eq_ok.mpr ⟨ok, rfl, rfl⟩
    | authenticate digest =>
      obtain ⟨-, rfl, rfl⟩ := List.cons.inj hb |>.imp_right List.cons.inj
      exact bind_eq_ok.mpr ⟨digest, rest, readArray_eq_ok.mpr rfl, rfl⟩
    | connect addr =>
      obtain ⟨-, rfl, rfl⟩ := List.cons.inj hb |>.imp_right List.cons.inj
      exact bind_eq_ok.mpr ⟨addr, rest, Address.readFrom_eq_ok.mpr ⟨hcan, rfl⟩, rfl⟩
    | packet id len addr =>
      obtain ⟨-, rfl, rfl⟩ := List.cons.inj hb |>.imp_right List.cons.inj
      exact readPacket_eq_ok.mpr ⟨id, len, addr, rfl, hcan, rfl⟩
    | dissociate id =>
      obtain ⟨-, rfl, rfl⟩ := List.cons.inj hb |>.imp_right List.cons.inj
      exact bind_eq_ok.mpr ⟨id, rest, readU32_eq_ok.mpr rfl, rfl⟩
    | heartbeat =>
      obtain ⟨-, rfl, rfl⟩ := List.cons.inj hb |>.imp_right List.cons.inj
      rfl

/-- **The command codec**: `readFrom` returns exactly the canonical commands, each from its own
encoding, and reads nothing past it. -/
theorem readFrom_eq_ok {b rest : Bytes} {cmd : Command} :
    readFrom b = .ok (cmd, rest) ↔ cmd.Canonical ∧ b = cmd.writeToBuf ++ rest := by
  simp only [readFrom, bind_eq_ok, readU8_eq_ok]
  constructor
  · rintro ⟨ver, c, rfl, h⟩
    split_ifs at h with hver
    · simp at h
    obtain ⟨ty, d, hty, hopt⟩ := bind_eq_ok.mp h
    rw [readU8_eq_ok] at hty
    rw [not_not] at hver
    rw [hver, hty]
    exact readOpt_eq_ok.mp hopt
  · rintro ⟨hcan, rfl⟩
    -- every encoding starts with the version and a type byte
    have hhead : ∃ ty c, cmd.writeToBuf ++ rest = tuicProtocolVersion :: ty :: c := by
      cases cmd <;> exact ⟨_, _, rfl⟩
    obtain ⟨ty, c, hb⟩ := hhead
    refine ⟨tuicProtocolVersion, ty :: c, hb, ?_⟩
    rw [if_neg (not_not.mpr rfl)]
    exact bind_eq_ok.mpr ⟨ty, c, rfl, readOpt_eq_ok.mpr ⟨hcan, hb.symm⟩⟩

/-- `serializedLen` is the number of bytes `writeToBuf` writes. -/
@[simp] theorem length_writeToBuf (cmd : Command) :
    cmd.writeToBuf.length = cmd.serializedLen := by
  cases cmd with
  | packet id len addr =>
    simp only [writeToBuf, serializedLen, List.length_cons, List.length_append, length_putU32,
      length_putU16, Address.length_writeToBuf]
    omega
  | connect addr =>
    simp only [writeToBuf, serializedLen, List.length_cons, Address.length_writeToBuf]
    omega
  | _ => simp [writeToBuf, serializedLen]

/-- The command decoder panics on no input. -/
theorem noPanic_readFrom : NoPanic readFrom := by
  refine NoPanic.readU8.bind fun _ ver c _ => ?_
  split_ifs
  · exact NoPanic.throw _ c
  refine NoPanic.readU8.bind (fun _ ty d _ => ?_) c
  unfold readOpt
  split_ifs
  · refine NoPanic.readU8.bind (fun _ resp e _ => ?_) d
    split_ifs
    exacts [NoPanic.pure _ e, NoPanic.pure _ e, NoPanic.throw _ e]
  · exact (NoPanic.readArray 32).bind (fun _ _ e _ => NoPanic.pure _ e) d
  · exact Address.noPanic_readFrom.bind (fun _ _ e _ => NoPanic.pure _ e) d
  · refine (NoPanic.readExact 6).bind (fun _ buf e hbuf => ?_) d
    obtain ⟨-, hlen⟩ := readExact_eq_ok.mp hbuf
    have hcur : NoPanic (onCursor buf do
        let assocId ← unwrap readU32
        let len ← unwrap readU16
        return (assocId, len)) := fun _ =>
      (Fixed.readU32.unwrap.bind fun _ => Fixed.readU16.unwrap.bind fun _ =>
        Fixed.pure _).onCursor_ne_panic hlen.ge
    exact hcur.bind (fun _ _ f _ => Address.noPanic_readFrom.bind
      (fun _ _ g _ => NoPanic.pure _ g) f) e
  · exact NoPanic.readU32.bind (fun _ _ e _ => NoPanic.pure _ e) d
  · exact NoPanic.pure _ d
  · exact NoPanic.throw _ d

/-! ## Round trip -/

/-- Bytes that begin with the encoding of a command decode to it, as it is on the wire. -/
theorem readFrom_of_eq_append (cmd : Command) (hfits : cmd.Fits) {b rest : Bytes}
    (hb : b = cmd.writeToBuf ++ rest) : readFrom b = .ok (cmd.onWire, rest) := by
  rw [readFrom_eq_ok, writeToBuf_onWire]
  exact ⟨canonical_onWire hfits, hb⟩

/-- **Decode undoes encode, with framing.** Whatever bytes follow the encoding of a command whose
domain fits its length byte, decoding returns the command, with the two IPv6 fields that are not on
the wire zeroed, and leaves exactly those bytes. -/
theorem readFrom_writeToBuf_append (cmd : Command) (hfits : cmd.Fits) (rest : Bytes) :
    readFrom (cmd.writeToBuf ++ rest) = .ok (cmd.onWire, rest) :=
  readFrom_of_eq_append cmd hfits rfl

/-- The round trip at a packet for a domain, followed by its payload. -/
theorem readFrom_writeToBuf_append_packet :
    (Command.packet 7 3 (.domainAddress "a" 53)).Fits ∧
      readFrom ((Command.packet 7 3 (.domainAddress "a" 53)).writeToBuf ++ [1, 2, 3]) =
        .ok (.packet 7 3 (.domainAddress "a" 53), [1, 2, 3]) :=
  ⟨by decide, readFrom_writeToBuf_append _ (by decide) _⟩

end Command

end Tuic
