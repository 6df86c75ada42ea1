import FramedWire.Proofs.Decoding
import FramedWire.Proofs.Sealed

/-!
# What was written can be read back

A message that was built from arguments gives these arguments back, and nothing is left of it.
-/
namespace FramedWire

/-- Whatever the order, the signature and the arguments: if they could be written and the
message could be sealed, reading gives the same arguments and leaves nothing to be read. -/
theorem decodeArgs_of_putArgs {order : ByteOrder} {sender : UInt32} {opcode : UInt16}
    {sig : Signature} {args : List Arg} {out : Outgoing}
    (hput : ((Builder.start sender opcode order).putArgs sig args).result = .ok ())
    (hfinish : ((Builder.start sender opcode order).putArgs sig args).state.finish.result
      = .ok out) :
    (out.toMessage.decodeArgs sig).result = .ok args ∧
      (out.toMessage.decodeArgs sig).state.finish.result = .ok () := by
  obtain ⟨hacc, hfit⟩ := (Builder.result_putArgs_eq_ok_iff _).mp hput
  obtain ⟨-, rfl⟩ := Builder.finish_eq_ok_iff.mp hfinish
  rw [Builder.toMessage_sealed]
  refine Message.decodeArgs_and_finish_iff.mpr ⟨hacc, hfit, ?_, ?_⟩
  · rw [Builder.putArgs_of_fits hacc hfit]
    exact Template.admits_zeroed _
  · rw [Builder.putArgs_of_fits hacc hfit]
    rfl

/-- A text with a zero in it, empty and nested sequences, and descriptors at two depths. -/
theorem decodeArgs_of_putArgs_nested :
    let sig : Signature := [.string, .sequence (.sequence .fd), .array, .newId, .fd]
    let args : List Arg := [.string "a\x00é", .sequence [.sequence [], .sequence [.fd ⟨3⟩]],
      .array [1, 2, 3, 4, 5], .newId ⟨"x", 7⟩, .fd ⟨4⟩]
    let put := (Builder.start 1 2 .big).putArgs sig args
    put.result = .ok () ∧ put.state.finish.result = .ok put.state.sealed ∧
      (put.state.sealed.toMessage.decodeArgs sig).result = .ok args ∧
      (put.state.sealed.toMessage.decodeArgs sig).state.finish.result = .ok () := by
  intro sig args put
  have hput : put.result = .ok () := rfl
  have hsmall : Header.headerSize + put.state.payload.length ≤ Header.maxMessageSize :=
    Nat.le_of_ble_eq_true rfl
  have hfinish := Builder.finish_eq_ok_iff.mpr ⟨hsmall, rfl⟩
  exact ⟨hput, hfinish, decodeArgs_of_putArgs hput hfinish⟩

end FramedWire
