import Tuic.Codec.Utf8

/-! # TUIC commands and addresses

The data model of the TUIC protocol (`protocol/src/lib.rs`) and its three functions on it: the
encoder `writeToBuf`, the decoder `readFrom` and the length `serializedLen`, for `Address` and for
`Command`. The decoder is written over `ByteCodec.Reader`, with the cursor reads, slices and
`unwrap`s of the source as such, so that a panic is a possible outcome that has to be excluded. -/

namespace Tuic

open ByteCodec ByteCodec.Reader

/-- The protocol version this implementation speaks. -/
def tuicProtocolVersion : UInt8 := 0x04

/-! ## Socket addresses -/

/-- An IPv4 address, by its four octets. -/
structure Ipv4Addr where
  /-- First octet. -/
  a : UInt8
  /-- Second octet. -/
  b : UInt8
  /-- Third octet. -/
  c : UInt8
  /-- Fourth octet. -/
  d : UInt8
  deriving DecidableEq, Repr

/-- The octets of an IPv4 address in network order. -/
def Ipv4Addr.octets (ip : Ipv4Addr) : Bytes := [ip.a, ip.b, ip.c, ip.d]

/-- An IPv6 address, by its eight 16-bit segments. -/
structure Ipv6Addr where
  /-- First segment. -/
  a : UInt16
  /-- Second segment. -/
  b : UInt16
  /-- Third segment. -/
  c : UInt16
  /-- Fourth segment. -/
  d : UInt16
  /-- Fifth segment. -/
  e : UInt16
  /-- Sixth segment. -/
  f : UInt16
  /-- Seventh segment. -/
  g : UInt16
  /-- Eighth segment. -/
  h : UInt16
  deriving DecidableEq, Repr

/-- The segments of an IPv6 address in network order. -/
def Ipv6Addr.segments (ip : Ipv6Addr) : List UInt16 :=
  [ip.a, ip.b, ip.c, ip.d, ip.e, ip.f, ip.g, ip.h]

/-- A socket address. An IPv6 one also carries a flow label and a scope. -/
inductive SocketAddr where
  /-- IPv4 address and port. -/
  | v4 (ip : Ipv4Addr) (port : UInt16)
  /-- IPv6 address, port, flow information and scope id. -/
  | v6 (ip : Ipv6Addr) (port : UInt16) (flowinfo scopeId : UInt32)
  deriving DecidableEq, Repr

/-! ## Address -/

/-- The target or source of a relayed connection or packet. -/
inductive Address where
  /-- A domain name and a port. -/
  | domainAddress (addr : String) (port : UInt16)
  /-- A socket address. -/
  | socketAddress (addr : SocketAddr)
  deriving DecidableEq, Repr

namespace Address

/-- Type byte of a domain address. -/
def typeDomain : UInt8 := 0x00

/-- Type byte of an IPv4 address. -/
def typeIpv4 : UInt8 := 0x01

/-- Type byte of an IPv6 address. -/
def typeIpv6 : UInt8 := 0x02

/-- The domain case of `readFrom`: a length byte, then the name and the port in one buffer, split at
the length. -/
def readDomain : Reader Address := do
  let len ← readU8
  let buf ← readExact (len.toNat + 2)
  -- `&buf[len..]` panics when `len` is past the end of `buf`
  if buf.length < len.toNat then throw .panic
  else do
    let port ← onCursor (buf.drop len.toNat) (unwrap readU16)
    match fromUtf8 (buf.take len.toNat) with
    | .ok addr => return .domainAddress addr port
    | .error err =>
      throw (.io ⟨.invalidData, "Invalid address encoding: " ++ err.message⟩)

/-- The IPv4 case of `readFrom`. -/
def readIpv4 : Reader Address := do
  let buf ← readExact 6
  onCursor buf do
    let a ← unwrap readU8
    let b ← unwrap readU8
    let c ← unwrap readU8
    let d ← unwrap readU8
    let port ← unwrap readU16
    return .socketAddress (.v4 ⟨a, b, c, d⟩ port)

/-- The IPv6 case of `readFrom`. -/
def readIpv6 : Reader Address := do
  let buf ← readExact 18
  onCursor buf do
    let a ← unwrap readU16
    let b ← unwrap readU16
    let c ← unwrap readU16
    let d ← unwrap readU16
    let e ← unwrap readU16
    let f ← unwrap readU16
    let g ← unwrap readU16
    let h ← unwrap readU16
    let port ← unwrap readU16
    return .socketAddress (.v6 ⟨a, b, c, d, e, f, g, h⟩ port 0 0)

/-- Decode an address. -/
def readFrom : Reader Address := do
  let addrType ← readU8
  if addrType = typeDomain then readDomain
  else if addrType = typeIpv4 then readIpv4
  else if addrType = typeIpv6 then readIpv6
  else throw (.io ⟨.invalidInput, s!"Unsupported address type: {addrType}"⟩)

/-- Encode an address. The length byte of a domain is its length truncated to eight bits. -/
def writeToBuf : Address → Bytes
  | .domainAddress addr port =>
    typeDomain :: UInt8.ofNat (asBytes addr).length :: (asBytes addr ++ putU16 port)
  | .socketAddress (.v4 ip port) => typeIpv4 :: (ip.octets ++ putU16 port)
  | .socketAddress (.v6 ip port _ _) => typeIpv6 :: (ip.segments.flatMap putU16 ++ putU16 port)

/-- The length of an address on the wire. -/
def serializedLen : Address → Nat
  | .domainAddress addr _ => 1 + (1 + (asBytes addr).length + 2)
  | .socketAddress (.v4 _ _) => 1 + 6
  | .socketAddress (.v6 _ _ _ _) => 1 + 18

/-- The largest length of an address on the wire. -/
def maxSerializedLen : Nat := 1 + 1 + 255 + 2

/-- The part of an address that is on the wire: flow information and scope id are not. -/
def onWire : Address → Address
  | .socketAddress (.v6 ip port _ _) => .socketAddress (.v6 ip port 0 0)
  -- a domain and an IPv4 address are written in full
  | addr => addr

/-- The addresses the length byte of a domain is faithful for. -/
def Fits : Address → Prop
  | .domainAddress addr _ => (asBytes addr).length ≤ 255
  | .socketAddress _ => True

instance (addr : Address) : Decidable addr.Fits :=
  match addr with
  | .domainAddress addr _ => inferInstanceAs (Decidable ((asBytes addr).length ≤ 255))
  | .socketAddress _ => inferInstanceAs (Decidable True)

end Address

/-! ## Command -/

/-- A TUIC command. -/
inductive Command where
  /-- The answer to a `connect`. -/
  | response (isSucceeded : Bool)
  /-- The digest of the client's token. -/
  | authenticate (digest : List.Vector UInt8 32)
  /-- A request for a TCP relay. -/
  | connect (addr : Address)
  /-- The header of a relayed UDP packet. -/
  | packet (assocId : UInt32) (len : UInt16) (addr : Address)
  /-- The end of a UDP association. -/
  | dissociate (assocId : UInt32)
  /-- A keep-alive. -/
  | heartbeat
  deriving DecidableEq

namespace Command

/-- Type byte of a response. -/
def typeResponse : UInt8 := 0xff

/-- Type byte of an authentication. -/
def typeAuthenticate : UInt8 := 0x00

/-- Type byte of a connect request. -/
def typeConnect : UInt8 := 0x01

/-- Type byte of a packet. -/
def typePacket : UInt8 := 0x02

/-- Type byte of a dissociation. -/
def typeDissociate : UInt8 := 0x03

/-- Type byte of a heartbeat. -/
def typeHeartbeat : UInt8 := 0x04

/-- Reply code of a successful response. -/
def responseSucceeded : UInt8 := 0x00

/-- Reply code of a failed response. -/
def responseFailed : UInt8 := 0xff

/-- The response case of `readFrom`. -/
def readResponse : Reader Command := do
  let resp ← readU8
  if resp = responseSucceeded then return .response true
  else if resp = responseFailed then return .response false
  else throw (.io ⟨.invalidInput, s!"Invalid response code: {resp}"⟩)

/-- The packet case of `readFrom`: the six fixed bytes are read at once and taken apart. -/
def readPacket : Reader Command := do
  let buf ← readExact 6
  let (assocId, len) ← onCursor buf do
    let assocId ← unwrap readU32
    let len ← unwrap readU16
    return (assocId, len)
  -- the address is read from the stream itself, after the six bytes
  let addr ← Address.readFrom
  return .packet assocId len addr

/-- The type-specific part of `readFrom`. -/
def readOpt (cmd : UInt8) : Reader Command :=
  if cmd = typeResponse then readResponse
  else if cmd = typeAuthenticate then do
    let digest ← readArray 32
    return .authenticate digest
  else if cmd = typeConnect then do
    let addr ← Address.readFrom
    return .connect addr
  else if cmd = typePacket then readPacket
  else if cmd = typeDissociate then do
    let assocId ← readU32
    return .dissociate assocId
  else if cmd = typeHeartbeat then return .heartbeat
  else throw (.io ⟨.invalidInput, s!"Invalid command: {cmd}"⟩)

/-- Decode a command: version, type and the type-specific part. -/
def readFrom : Reader Command := do
  let ver ← readU8
  if ver ≠ tuicProtocolVersion then
    throw (.io ⟨.unsupported, s!"Unsupported TUIC version: {ver}"⟩)
  else do
    let cmd ← readU8
    readOpt cmd

/-- Encode a command. -/
def writeToBuf : Command → Bytes
  | .response isSucceeded =>
    [tuicProtocolVersion, typeResponse, if isSucceeded then responseSucceeded else responseFailed]
  | .authenticate digest => tuicProtocolVersion :: typeAuthenticate :: digest.toList
  | .connect addr => tuicProtocolVersion :: typeConnect :: addr.writeToBuf
  | .packet assocId len addr =>
    tuicProtocolVersion :: typePacket :: (putU32 assocId ++ (putU16 len ++ addr.writeToBuf))
  | .dissociate assocId => tuicProtocolVersion :: typeDissociate :: putU32 assocId
  | .heartbeat => [tuicProtocolVersion, typeHeartbeat]

/-- The length of a command header on the wire. -/
def serializedLen : Command → Nat
  | .response _ => 2 + 1
  | .authenticate _ => 2 + 32
  | .connect addr => 2 + addr.serializedLen
  | .packet _ _ addr => 2 + (6 + addr.serializedLen)
  | .dissociate _ => 2 + 4
  | .heartbeat => 2 + 0

/-- The largest length of a command header on the wire. -/
def maxSerializedLen : Nat := 2 + 6 + Address.maxSerializedLen

/-- The part of a command that is on the wire. -/
def onWire : Command → Command
  | .connect addr => .connect addr.onWire
  | .packet assocId len addr => .packet assocId len addr.onWire
  | cmd => cmd

/-- The commands whose address, if any, is faithful on the wire. -/
def Fits : Command → Prop
  | .connect addr => addr.Fits
  | .packet _ _ addr => addr.Fits
  | _ => True

instance (cmd : Command) : Decidable cmd.Fits :=
  match cmd with
  | .connect addr => inferInstanceAs (Decidable addr.Fits)
  | .packet _ _ addr => inferInstanceAs (Decidable addr.Fits)
  | .response _ | .authenticate _ | .dissociate _ | .heartbeat => inferInstanceAs (Decidable True)

end Command

end Tuic
