import FramedWire.Builder
import FramedWire.Framing

/-!
# Sealed messages

What `Builder.finish` makes of a builder: the header states the exact size, reading the header
gives it back, and the payload follows it unchanged. So a sealed message is found at the front of
any buffer that begins with it, and not found as long as some of it is missing.
-/
namespace FramedWire

namespace Header

theorem length_encode (header : Header) (order : ByteOrder) :
    (header.encode order).length = headerSize := by
  simp [encode, headerSize]

theorem take_drop_encode_append (header : Header) (order : ByteOrder) (rest : Bytes) :
    ((header.encode order ++ rest).drop 4).take 4 =
      order.encode (packWord header.size header.opcode) := by
  rw [encode, List.append_assoc, List.drop_left' (ByteOrder.length_encode order _)]
  exact List.take_left' (ByteOrder.length_encode order _)

theorem decode_encode_append (header : Header) (order : ByteOrder) (rest : Bytes)
    (hsize : headerSize ≤ header.size.toNat) :
    decode (header.encode order ++ rest) order = .ok header := by
  have hfirst : (header.encode order ++ rest).take 4 = order.encode header.sender := by
    rw [encode, List.append_assoc]
    exact List.take_left' (ByteOrder.length_encode order _)
  simp only [decode, hfirst, take_drop_encode_append, ByteOrder.decode_encode,
    unpackWord_packWord, if_neg (Nat.not_lt.mpr hsize)]

end Header

namespace Builder

/-- The message that a builder is sealed as. -/
def sealed (b : Builder) : Outgoing :=
  let header : Header := ⟨b.sender, b.opcode, UInt16.ofNat (Header.headerSize + b.payload.length)⟩
  ⟨header, b.order, header.encode b.order ++ b.payload, b.queue⟩

theorem finish_eq_ok_iff {b : Builder} {out : Outgoing} :
    b.finish.result = .ok out ↔
      Header.headerSize + b.payload.length ≤ Header.maxMessageSize ∧ b.sealed = out := by
  simp only [finish]
  split
  · rename_i hlarge
    exact ⟨fun h => (nomatch h), fun h => absurd h.1 (Nat.not_le.mpr hlarge)⟩
  · rename_i hsmall
    exact ⟨fun h => ⟨Nat.not_lt.mp hsmall, Except.ok.inj h⟩, fun h => congrArg Except.ok h.2⟩

theorem payload_sealed (b : Builder) : b.sealed.payload = b.payload := by
  rw [Outgoing.payload, ← Header.length_encode b.sealed.header b.order]
  exact List.drop_left

theorem toMessage_sealed (b : Builder) :
    b.sealed.toMessage = .framed b.sealed.header b.payload b.queue b.order := by
  rw [Outgoing.toMessage, payload_sealed]
  rfl

/-- The size in the header is that of the message; sixteen bits are enough for it. -/
theorem toNat_size_sealed {b : Builder}
    (h : Header.headerSize + b.payload.length ≤ Header.maxMessageSize) :
    b.sealed.header.size.toNat = Header.headerSize + b.payload.length := by
  refine UInt16.toNat_ofNat_of_lt' ?_
  rw [UInt16.size]
  exact Nat.lt_succ_of_le h

theorem length_bytes_sealed (b : Builder) :
    b.sealed.bytes.length = Header.headerSize + b.payload.length := by
  rw [← Header.length_encode b.sealed.header b.order]
  exact List.length_append

end Builder

namespace Framing

variable {b : Builder} (hfits : Header.headerSize + b.payload.length ≤ Header.maxMessageSize)

include hfits

/-- A sealed message is taken off the front of a buffer, and the rest stays. -/
theorem decode_sealed_append (rest : Bytes) :
    decode b.order (b.sealed.bytes ++ rest) =
      .message (.framed b.sealed.header b.payload [] b.order) rest := by
  have hsize := Builder.toNat_size_sealed hfits
  have hlength : (b.sealed.bytes ++ rest).length =
      Header.headerSize + b.payload.length + rest.length := by
    rw [List.length_append, Builder.length_bytes_sealed]
  have hbytes : b.sealed.bytes ++ rest =
      b.sealed.header.encode b.order ++ (b.payload ++ rest) := List.append_assoc _ _ _
  have hheader : Header.decode (b.sealed.bytes ++ rest) b.order = .ok b.sealed.header := by
    rw [hbytes]
    exact Header.decode_encode_append _ _ _ (by omega)
  have hbody : (b.sealed.bytes ++ rest).drop Header.headerSize = b.payload ++ rest := by
    rw [hbytes]
    exact List.drop_left' (Header.length_encode _ _)
  have hpayload : b.sealed.header.payloadLen = b.payload.length := by
    rw [Header.payloadLen, hsize, Nat.add_sub_cancel_left]
  have hshort : ¬ (b.sealed.bytes ++ rest).length < Header.headerSize := by omega
  have hall : ¬ (b.sealed.bytes ++ rest).length < b.sealed.header.size.toNat := by omega
  simp only [decode, if_neg hshort, hheader, if_neg hall, hbody, hpayload, List.take_left,
    List.drop_left]

/-- As long as some of a sealed message is missing, there is no message; its size is known from
the header on. -/
theorem decode_of_sealed_prefix {front : Bytes} (hbegins : front <+: b.sealed.bytes)
    (hne : front ≠ b.sealed.bytes) :
    decode b.order front = .incomplete ∧
      declaredSize b.order front =
        if front.length < Header.headerSize then Header.headerSize
        else b.sealed.header.size.toNat := by
  have hsize := Builder.toNat_size_sealed hfits
  have hless : front.length < Header.headerSize + b.payload.length := by
    rw [← Builder.length_bytes_sealed]
    exact Nat.lt_of_le_of_ne hbegins.length_le fun h => hne (hbegins.eq_of_length h)
  rcases Nat.lt_or_ge front.length Header.headerSize with hshort | hlong
  · rw [decode, declaredSize, if_pos hshort, if_pos hshort, if_pos hshort]
    exact ⟨rfl, rfl⟩
  · have hheader : b.sealed.header.encode b.order <+: front := by
      apply List.prefix_of_prefix_length_le (List.prefix_append _ b.payload) hbegins
      rw [Header.length_encode]
      exact hlong
    obtain ⟨rest, rfl⟩ := hheader
    have hpart : (b.sealed.header.encode b.order ++ rest).length < b.sealed.header.size.toNat := by
      omega
    rw [decode, declaredSize, if_neg (Nat.not_lt.mpr hlong), if_neg (Nat.not_lt.mpr hlong),
      if_neg (Nat.not_lt.mpr hlong), Header.decode_encode_append _ _ _ (by omega),
      Header.take_drop_encode_append, ByteOrder.decode_encode, Header.unpackWord_packWord]
    exact ⟨if_pos hpart, rfl⟩

end Framing

end FramedWire
