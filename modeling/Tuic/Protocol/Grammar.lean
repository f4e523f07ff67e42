import Tuic.Protocol.RoundTrip

/-! # The documented wire format

`AddressSyntax` and `CommandSyntax` state the format of the protocol document (`protocol/README.md`)
on its own: which byte sequences are an address or a command header, field by field with their
widths, and which value they denote. They mention neither the encoder nor the decoder. The decoder
accepts exactly the inputs that start with such a header (`commandSyntax_iff`), and the encoder
writes it back. -/

namespace Tuic

open ByteCodec ByteCodec.Reader

/-- The format of an address: type byte, address, port. -/
inductive AddressSyntax : Bytes → Address → Prop where
  /-- Type `0x00`: a length byte, a UTF-8 name of that many bytes, and the port. -/
  | domain (len : UInt8) (name port : Bytes) (hlen : name.length = len.toNat)
      (hname : name.toByteArray.IsValidUTF8) (hport : port.length = 2) :
      AddressSyntax (0x00 :: len :: (name ++ port))
        (.domainAddress (String.fromUTF8 name.toByteArray hname) (UInt16.ofNat (beNat port)))
  /-- Type `0x01`: four octets and the port. -/
  | ipv4 (a b c d : UInt8) (port : Bytes) (hport : port.length = 2) :
      AddressSyntax (0x01 :: ([a, b, c, d] ++ port))
        (.socketAddress (.v4 ⟨a, b, c, d⟩ (UInt16.ofNat (beNat port))))
  /-- Type `0x02`: eight segments of two bytes and the port. -/
  | ipv6 (ip : Ipv6Addr) (segs : List Bytes) (port : Bytes) (hsegs : ∀ s ∈ segs, s.length = 2)
      (hip : ip.segments = segs.map fun s => UInt16.ofNat (beNat s)) (hport : port.length = 2) :
      AddressSyntax (0x02 :: (segs.flatten ++ port))
        (.socketAddress (.v6 ip (UInt16.ofNat (beNat port)) 0 0))

/-- The format of a command header: version `0x04`, type byte, type-specific fields. -/
inductive CommandSyntax : Bytes → Command → Prop where
  /-- Type `0x00`: a token digest of 32 bytes. -/
  | authenticate (tkn : Bytes) (htkn : tkn.length = 32) :
      CommandSyntax (0x04 :: 0x00 :: tkn) (.authenticate ⟨tkn, htkn⟩)
  /-- Type `0x01`: the target address. -/
  | connect (h : Bytes) (addr : Address) (haddr : AddressSyntax h addr) :
      CommandSyntax (0x04 :: 0x01 :: h) (.connect addr)
  /-- Type `0x02`: four bytes of association id, two of length, and an address. -/
  | packet (assocId len h : Bytes) (addr : Address) (hid : assocId.length = 4)
      (hlen : len.length = 2) (haddr : AddressSyntax h addr) :
      CommandSyntax (0x04 :: 0x02 :: (assocId ++ (len ++ h)))
        (.packet (UInt32.ofNat (beNat assocId)) (UInt16.ofNat (beNat len)) addr)
  /-- Type `0x03`: four bytes of association id. -/
  | dissociate (assocId : Bytes) (hid : assocId.length = 4) :
      CommandSyntax (0x04 :: 0x03 :: assocId) (.dissociate (UInt32.ofNat (beNat assocId)))
  /-- Type `0x04`: nothing. -/
  | heartbeat : CommandSyntax [0x04, 0x04] .heartbeat
  /-- Type `0xff` with reply code `0x00`. -/
  | succeeded : CommandSyntax [0x04, 0xff, 0x00] (.response true)
  /-- Type `0xff` with reply code `0xff`. -/
  | failed : CommandSyntax [0x04, 0xff, 0xff] (.response false)

/-! ## The encoder writes the documented format -/

/-- Two bytes are the encoding of the number they denote. -/
theorem eq_putU16_of_length {b : Bytes} (h : b.length = 2) :
    b = putU16 (UInt16.ofNat (beNat b)) := by
  have hlt := beNat_lt b
  have hback := beBytes_beNat b
  rw [h] at hlt hback
  have hto : (UInt16.ofNat (beNat b)).toNat = beNat b := by simpa using hlt
  rw [putU16, hto, hback]

/-- Four bytes are the encoding of the number they denote. -/
theorem eq_putU32_of_length {b : Bytes} (h : b.length = 4) :
    b = putU32 (UInt32.ofNat (beNat b)) := by
  have hlt := beNat_lt b
  have hback := beBytes_beNat b
  rw [h] at hlt hback
  have hto : (UInt32.ofNat (beNat b)).toNat = beNat b := by simpa using hlt
  rw [putU32, hto, hback]

/-- The bytes of a 16-bit integer denote it. -/
theorem ofNat_beNat_putU16 (x : UInt16) : UInt16.ofNat (beNat (putU16 x)) = x := by
  have hlt : x.toNat < 256 ^ 2 := x.toNat_lt
  rw [putU16, beNat_beBytes, Nat.mod_eq_of_lt hlt, UInt16.ofNat_toNat]

/-- The bytes of a 32-bit integer denote it. -/
theorem ofNat_beNat_putU32 (x : UInt32) : UInt32.ofNat (beNat (putU32 x)) = x := by
  have hlt : x.toNat < 256 ^ 4 := x.toNat_lt
  rw [putU32, beNat_beBytes, Nat.mod_eq_of_lt hlt, UInt32.ofNat_toNat]

/-- Two-byte segments are the encodings of the numbers they denote. -/
theorem flatten_eq_flatMap_putU16 {segs : List Bytes} (h : ∀ s ∈ segs, s.length = 2) :
    segs.flatten = (segs.map fun s => UInt16.ofNat (beNat s)).flatMap putU16 := by
  induction segs with
  | nil => rfl
  | cons s segs ih =>
    rw [List.flatten_cons, List.map_cons, List.flatMap_cons,
      ← eq_putU16_of_length (h s List.mem_cons_self),
      ih fun t ht => h t (List.mem_cons_of_mem s ht)]

/-- **An address is in the documented format exactly when it is the encoding of a canonical
address.** -/
theorem addressSyntax_iff {h : Bytes} {addr : Address} :
    AddressSyntax h addr ↔ addr.Canonical ∧ h = addr.writeToBuf := by
  constructor
  · intro hs
    cases hs with
    | domain len name port hlen hname hport =>
      -- reading the name as a string and taking its bytes gives the name back
      have hbytes : asBytes (String.fromUTF8 name.toByteArray hname) = name :=
        List.toList_data_toByteArray
      have hle : len.toNat < 256 := len.toNat_lt
      refine ⟨⟨?_, rfl⟩, ?_⟩
      · show (asBytes _).length ≤ 255
        rw [hbytes]
        omega
      · rw [Address.writeToBuf, hbytes, hlen, UInt8.ofNat_toNat, ← eq_putU16_of_length hport]
        rfl
    | ipv4 a b c d port hport =>
      refine ⟨⟨trivial, rfl⟩, ?_⟩
      rw [Address.writeToBuf, ← eq_putU16_of_length hport]
      rfl
    | ipv6 ip segs port hsegs hip hport =>
      refine ⟨⟨trivial, rfl⟩, ?_⟩
      rw [Address.writeToBuf, hip, ← flatten_eq_flatMap_putU16 hsegs, ← eq_putU16_of_length hport]
      rfl
  · rintro ⟨⟨hfits, hwire⟩, rfl⟩
    cases addr with
    | domainAddress s port =>
      have hvalid : (asBytes s).toByteArray.IsValidUTF8 :=
        exists_fromUtf8_eq_ok.mp ⟨s, fromUtf8_eq_ok.mpr rfl⟩
      have hstr : String.fromUTF8 (asBytes s).toByteArray hvalid = s := by
        have hok := fromUtf8_eq_ok.mpr (rfl : asBytes s = asBytes s)
        rw [fromUtf8, dif_pos hvalid] at hok
        exact Except.ok.inj hok
      -- the name fits, so its length byte is its length
      have hlen : (asBytes s).length = (UInt8.ofNat (asBytes s).length).toNat := by
        rw [UInt8.toNat_ofNat']
        have : (asBytes s).length ≤ 255 := hfits
        omega
      have h := AddressSyntax.domain _ (asBytes s) (putU16 port) hlen hvalid (length_putU16 port)
      rwa [hstr, ofNat_beNat_putU16] at h
    | socketAddress addr =>
      cases addr with
      | v4 ip port =>
        have h := AddressSyntax.ipv4 ip.a ip.b ip.c ip.d (putU16 port) (length_putU16 port)
        rwa [ofNat_beNat_putU16] at h
      | v6 ip port flow scope =>
        -- the segments of the format are those the encoder writes
        have hip : ip.segments = (ip.segments.map putU16).map fun s => UInt16.ofNat (beNat s) := by
          rw [List.map_map]
          exact (List.map_id'' (fun x => ofNat_beNat_putU16 x) _).symm
        have h := AddressSyntax.ipv6 ip (ip.segments.map putU16) (putU16 port) (by simp) hip
          (length_putU16 port)
        rw [ofNat_beNat_putU16, ← List.flatMap_def] at h
        rwa [show Address.socketAddress (.v6 ip port flow scope) =
          .socketAddress (.v6 ip port 0 0) from hwire.symm]

/-- **A command header is in the documented format exactly when it is the encoding of a canonical
command.** -/
theorem commandSyntax_iff {h : Bytes} {cmd : Command} :
    CommandSyntax h cmd ↔ cmd.Canonical ∧ h = cmd.writeToBuf := by
  constructor
  · intro hs
    cases hs with
    | authenticate tkn htkn => exact ⟨trivial, rfl⟩
    | connect h addr haddr =>
      obtain ⟨hc, rfl⟩ := addressSyntax_iff.mp haddr
      exact ⟨hc, rfl⟩
    | packet id len h addr hid hlen haddr =>
      obtain ⟨hc, rfl⟩ := addressSyntax_iff.mp haddr
      refine ⟨hc, ?_⟩
      rw [Command.writeToBuf, ← eq_putU32_of_length hid, ← eq_putU16_of_length hlen]
      rfl
    | dissociate id hid =>
      refine ⟨trivial, ?_⟩
      rw [Command.writeToBuf, ← eq_putU32_of_length hid]
      rfl
    | heartbeat => exact ⟨trivial, rfl⟩
    | succeeded => exact ⟨trivial, rfl⟩
    | failed => exact ⟨trivial, rfl⟩
  · rintro ⟨hcan, rfl⟩
    cases cmd with
    | response ok =>
      cases ok with
      | true => exact .succeeded
      | false => exact .failed
    | authenticate digest => exact .authenticate digest.toList digest.2
    | connect addr => exact .connect _ addr (addressSyntax_iff.mpr ⟨hcan, rfl⟩)
    | packet id len addr =>
      have h := CommandSyntax.packet (putU32 id) (putU16 len) _ addr (length_putU32 id)
        (length_putU16 len) (addressSyntax_iff.mpr ⟨hcan, rfl⟩)
      rwa [ofNat_beNat_putU32, ofNat_beNat_putU16] at h
    | dissociate id =>
      have h := CommandSyntax.dissociate (putU32 id) (length_putU32 id)
      rwa [ofNat_beNat_putU32] at h
    | heartbeat => exact .heartbeat

/-! ## The decoder accepts exactly the documented format -/

namespace Command

/-- The header length a decoded command reports is the number of bytes the decoder consumed. -/
theorem serializedLen_of_readFrom {b rest : Bytes} {cmd : Command}
    (h : readFrom b = .ok (cmd, rest)) :
    cmd.serializedLen + rest.length = b.length ∧ b.drop cmd.serializedLen = rest := by
  obtain ⟨-, rfl⟩ := readFrom_eq_ok.mp h
  rw [← length_writeToBuf]
  exact ⟨(List.length_append).symm, List.drop_left⟩

/-- **Encode undoes decode, and the format is canonical.** Decoding returns a command and leaves
`rest` exactly when the input is a header of the documented format for that command, followed by
`rest`. Such an input is the encoding of the command followed by `rest`, and `serializedLen` is the
number of header bytes, so it is a valid offset into the input and what follows it is `rest`. -/
theorem readFrom_iff_syntax (b rest : Bytes) (cmd : Command) :
    (readFrom b = .ok (cmd, rest) ↔ ∃ h, CommandSyntax h cmd ∧ b = h ++ rest) ∧
      (readFrom b = .ok (cmd, rest) →
        b = cmd.writeToBuf ++ rest ∧ cmd.serializedLen = b.length - rest.length ∧
          cmd.serializedLen ≤ b.length ∧ b.drop cmd.serializedLen = rest) := by
  constructor
  · rw [readFrom_eq_ok]
    constructor
    · rintro ⟨hcan, rfl⟩
      exact ⟨cmd.writeToBuf, commandSyntax_iff.mpr ⟨hcan, rfl⟩, rfl⟩
    · rintro ⟨h, hs, rfl⟩
      obtain ⟨hcan, rfl⟩ := commandSyntax_iff.mp hs
      exact ⟨hcan, rfl⟩
  · intro h
    obtain ⟨hlen, hdrop⟩ := serializedLen_of_readFrom h
    exact ⟨(readFrom_eq_ok.mp h).2, by omega, by omega, hdrop⟩

end Command

end Tuic
