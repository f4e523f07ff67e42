import Tuic.Protocol.RoundTrip

/-! # Decoding results are final

What `Command.readFrom` returns on the bytes that have arrived does not change when more bytes come,
unless it ran out of input. A handler may therefore decode as soon as it can. -/

namespace Tuic

open ByteCodec ByteCodec.Reader

/-- The address decoder is final. -/
theorem Address.final_readFrom : Final Address.readFrom := by
  refine Final.readU8.bind fun addrType => Final.ite ?_ (Final.ite ?_ (Final.ite ?_ ?_))
  · refine Final.readU8.bind fun len => (Final.readExact _).bind fun buf => Final.ite ?_ ?_
    · exact Final.throw _
    · refine (Final.onCursor _ _).bind fun port => ?_
      cases fromUtf8 (buf.take len.toNat) with
      | ok addr => exact Final.pure _
      | error err => exact Final.throw _
  · exact (Final.readExact 6).bind fun buf => Final.onCursor _ _
  · exact (Final.readExact 18).bind fun buf => Final.onCursor _ _
  · exact Final.throw _

/-- The type-specific part of the command decoder is final. -/
theorem Command.final_readOpt (ty : UInt8) : Final (Command.readOpt ty) := by
  unfold Command.readOpt
  refine Final.ite ?_ (Final.ite ?_ (Final.ite ?_ (Final.ite ?_ (Final.ite ?_ (Final.ite ?_ ?_)))))
  · exact Final.readU8.bind fun resp =>
      Final.ite (Final.pure _) (Final.ite (Final.pure _) (Final.throw _))
  · exact (Final.readArray 32).bind fun digest => Final.pure _
  · exact Address.final_readFrom.bind fun addr => Final.pure _
  · exact (Final.readExact 6).bind fun buf => (Final.onCursor _ _).bind fun _ =>
      Address.final_readFrom.bind fun addr => Final.pure _
  · exact Final.readU32.bind fun assocId => Final.pure _
  · exact Final.pure _
  · exact Final.throw _

/-- **The command decoder is final.** -/
theorem Command.final_readFrom : Final Command.readFrom :=
  Final.readU8.bind fun _ => Final.ite (Final.throw _)
    (Final.readU8.bind fun ty => Command.final_readOpt ty)

namespace Command

/-- **A header that is cut off is too short**: no proper beginning of an encoding decodes, to
whatever command. -/
theorem readFrom_of_cut {cmd : Command} (hfits : cmd.Fits) {p : Bytes}
    (hp : p <+: cmd.writeToBuf) (hne : p ≠ cmd.writeToBuf) :
    ∃ err, readFrom p = .error (.io err) ∧ err.kind = .unexpectedEof := by
  obtain ⟨c, hc⟩ := hp
  have hwhole : readFrom (p ++ c) = .ok (cmd.onWire, []) :=
    readFrom_of_eq_append cmd hfits (by rw [hc, List.append_nil])
  rcases final_readFrom.beginning hwhole with ⟨rest, hok⟩ | heof
  · -- the whole encoding would be a beginning of its own proper beginning
    obtain ⟨-, heq⟩ := readFrom_eq_ok.mp hok
    rw [writeToBuf_onWire] at heq
    have hlen := congrArg List.length heq
    have hlen' := congrArg List.length hc
    rw [List.length_append] at hlen hlen'
    have hnil : c = [] := List.length_eq_zero_iff.mp (by omega)
    rw [hnil, List.append_nil] at hc
    exact absurd hc hne
  · exact heof

/-- **Decoding results are final.** A command that is decoded from the bytes at hand is decoded from
any continuation of them, with that much more left over; a failure stays the same failure, unless
the input ran out; and on a proper beginning of an encoding the input always runs out. -/
theorem readFrom_append_final (b x : Bytes) :
    (∀ cmd rest, readFrom b = .ok (cmd, rest) → readFrom (b ++ x) = .ok (cmd, rest ++ x)) ∧
    (∀ e, readFrom b = .error e → ¬ IsEof e → readFrom (b ++ x) = .error e) ∧
    ∀ cmd : Command, cmd.Fits → b <+: cmd.writeToBuf → b ≠ cmd.writeToBuf →
      ∃ err, readFrom b = .error (.io err) ∧ err.kind = .unexpectedEof :=
  ⟨fun _ _ h => final_readFrom.ok h x, fun _ h hne => final_readFrom.error h hne x,
    fun _ hfits hp hne => readFrom_of_cut hfits hp hne⟩

/-- A `Connect` header that is cut off inside the two bytes of its letter `é`. -/
theorem readFrom_append_final_domain :
    (Command.connect (.domainAddress "é" 53)).writeToBuf = [4, 1, 0, 2, 0xc3, 0xa9, 0, 53] ∧
      ∃ err, readFrom [4, 1, 0, 2, 0xc3] = .error (.io err) ∧ err.kind = .unexpectedEof :=
  ⟨by decide, (readFrom_append_final [4, 1, 0, 2, 0xc3] []).2.2
    (.connect (.domainAddress "é" 53)) (by decide) ⟨[0xa9, 0, 53], by decide⟩ (by decide)⟩

end Command

end Tuic
