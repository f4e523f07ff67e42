import Tuic.Client.Incoming
import Tuic.Server.Payload

/-! # UDP packets on the wire

The four frames of a UDP packet, from either side and in either relay mode, and what the handler of
the other side makes of them. The header is the same in all four, with the length of the payload cut
to sixteen bits; the payload is found by slicing the header off (the server, in a datagram), by
slicing as many bytes as the header says (the client, in a datagram), or by reading as many (both,
on a stream). For a payload a UDP datagram can have these are the same, so in either mode the triple
that arrives is the one that was sent, up to the fields of an IPv6 address that are not on the
wire. -/

namespace Tuic.EndToEnd

open ByteCodec Client Server

section Frames

variable {token : List Digest} {assocId : UInt32} {pkt : Bytes} {addr : Address}

/-- The length field of a payload of at most 65535 bytes is its length. -/
theorem toNat_length (hpkt : pkt.length ≤ 65535) :
    (UInt16.ofNat pkt.length).toNat = pkt.length := by
  rw [UInt16.toNat_ofNat']
  omega

/-- The frames of both modes are the header and the payload. -/
theorem bytes_packet (mode : UdpRelayMode) (hfits : addr.Fits) :
    (Frame.packet mode assocId pkt addr hfits).bytes =
      (Command.packet assocId (UInt16.ofNat pkt.length) addr).writeToBuf ++ pkt := by
  cases mode with
  | native => simp [Frame.bytes, Frame.bufs, Frame.cmd]
  | quic => simp [Frame.bytes, Frame.bufs, Frame.cmd]

/-- The header of a frame is decoded, and the payload is left. -/
theorem readFrom_bytes_packet (mode : UdpRelayMode) (hfits : addr.Fits) :
    Command.readFrom (Frame.packet mode assocId pkt addr hfits).bytes =
      .ok (.packet assocId (UInt16.ofNat pkt.length) addr.onWire, pkt) :=
  Command.readFrom_of_eq_append (.packet assocId _ addr) hfits (bytes_packet mode hfits)

/-- The server makes the packet that was sent of a datagram of the client. -/
theorem handed_native (hfits : addr.Fits) (n : Nat) :
    handed token (n + 4) .datagram (Frame.packet .native assocId pkt addr hfits).bytes =
      some (some ⟨assocId, pkt, addr.onWire⟩) :=
  handed_datagram (readFrom_bytes_packet .native hfits) n

/-- It makes the same of a stream of the client. -/
theorem handed_quic (hfits : addr.Fits) (hpkt : pkt.length ≤ 65535) (n : Nat) :
    handed token (n + 4) .uniStream (Frame.packet .quic assocId pkt addr hfits).bytes =
      some (some ⟨assocId, pkt, addr.onWire⟩) := by
  rw [handed_uniStream (readFrom_bytes_packet .quic hfits), toNat_length hpkt, if_pos le_rfl,
    List.take_length]

/-- The client makes the packet that was sent of a datagram of the server. -/
theorem parseDatagram_bytes (hfits : addr.Fits) (hpkt : pkt.length ≤ 65535) :
    parseDatagram (Reply.mk assocId pkt addr).bytes = .ok (assocId, pkt, addr.onWire) := by
  have hlen := toNat_length hpkt
  rw [Reply.bytes, Reply.header, parseDatagram_packet hfits (by rw [hlen]), hlen, List.take_length]

/-- It makes the same of a stream of the server. -/
theorem parseUniStream_bytes (hfits : addr.Fits) (hpkt : pkt.length ≤ 65535) (rest : Bytes) :
    parseUniStream ((Reply.mk assocId pkt addr).bytes ++ rest) =
      .ok ((assocId, pkt, addr.onWire), rest) := by
  rw [Reply.bytes, Reply.header, List.append_assoc]
  exact parseUniStream_packet hfits (toNat_length hpkt).symm

end Frames

/-- **UDP frames make the round trip** in both directions and both modes: for every association,
every payload of at most 65535 bytes and every address with a domain of at most 255 bytes, what the
handler of the matching channel makes of the frame is the association, the payload and the address
it was built from, but for the flow information and the scope of an IPv6 address. -/
theorem udpFrames_roundTrip (token : List Digest) (assocId : UInt32) (pkt : Bytes) (addr : Address)
    (hpkt : pkt.length ≤ 65535) (hfits : addr.Fits) (n : Nat) :
    handed token (n + 4) .datagram (Frame.packet .native assocId pkt addr hfits).bytes =
        some (some ⟨assocId, pkt, addr.onWire⟩) ∧
      handed token (n + 4) .uniStream (Frame.packet .quic assocId pkt addr hfits).bytes =
        some (some ⟨assocId, pkt, addr.onWire⟩) ∧
      parseDatagram (Reply.mk assocId pkt addr).bytes = .ok (assocId, pkt, addr.onWire) ∧
      parseUniStream (Reply.mk assocId pkt addr).bytes = .ok ((assocId, pkt, addr.onWire), []) := by
  refine ⟨handed_native hfits n, handed_quic hfits hpkt n, parseDatagram_bytes hfits hpkt, ?_⟩
  have hparse : parseUniStream ((Reply.mk assocId pkt addr).bytes ++ []) = _ :=
    parseUniStream_bytes hfits hpkt []
  rwa [List.append_nil] at hparse

/-- The four frames of a payload of two bytes, to a domain or from one. -/
theorem udpFrames_roundTrip_two :
    handed [] 4 .datagram [4, 2, 0, 0, 0, 7, 0, 2, 0, 1, 97, 0, 53, 1, 2] =
        some (some ⟨7, [1, 2], .domainAddress "a" 53⟩) ∧
      handed [] 4 .uniStream [4, 2, 0, 0, 0, 7, 0, 2, 0, 1, 97, 0, 53, 1, 2] =
        some (some ⟨7, [1, 2], .domainAddress "a" 53⟩) ∧
      parseDatagram [4, 2, 0, 0, 0, 7, 0, 2, 0, 1, 97, 0, 53, 1, 2] =
        .ok (7, [1, 2], .domainAddress "a" 53) ∧
      parseUniStream [4, 2, 0, 0, 0, 7, 0, 2, 0, 1, 97, 0, 53, 1, 2] =
        .ok ((7, [1, 2], .domainAddress "a" 53), []) :=
  udpFrames_roundTrip [] 7 [1, 2] (.domainAddress "a" 53) (by decide) (by decide) 0

end Tuic.EndToEnd
