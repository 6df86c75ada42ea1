import FramedWire.Proofs.Decoding

/-!
# The language of a signature

Which payloads and descriptors are read completely by a signature: exactly those that writing
some arguments gives, except for what the padding holds. The arguments are determined by the
payload, and writing them again gives it back with its padding set to zero.
-/
namespace FramedWire

/-- Writing `args` to `b`, which is empty, gives `payload` and `fds`, except that the padding of
`payload` may hold anything. -/
structure Signature.Spells (sig : Signature) (args : List Arg) (b : Builder) (payload : Bytes)
    (fds : List Descriptor) : Prop where
  accepts : sig.Accepts args
  written : (b.putArgs sig args).result = .ok ()
  length_eq : payload.length = (b.putArgs sig args).state.payload.length
  differs : ∀ i : Nat, payload[i]? ≠ (b.putArgs sig args).state.payload[i]? →
    (Arg.templateAll b.order args).OpenAt i
  descriptors_eq : Arg.descriptorsAll args = fds

namespace Signature

variable {sig : Signature} {args : List Arg} {order : ByteOrder} {sender : UInt32}
  {opcode : UInt16} {payload : Bytes} {fds : List Descriptor}

theorem payload_putArgs_start (hacc : sig.Accepts args) (hfit : Arg.AllFit args) :
    ((Builder.start sender opcode order).putArgs sig args).state.payload =
      (Arg.templateAll order args).zeroed := by
  rw [Builder.putArgs_of_fits hacc hfit, Step.state_done, Builder.payload_extend]
  rfl

theorem spells_iff_admits :
    sig.Spells args (.start sender opcode order) payload fds ↔
      sig.Accepts args ∧ Arg.AllFit args ∧ (Arg.templateAll order args).Admits payload ∧
        Arg.descriptorsAll args = fds := by
  constructor
  · intro h
    obtain ⟨hacc, hwritten, hlen, hdiffers, hfds⟩ := h
    obtain ⟨-, hfit⟩ := (Builder.result_putArgs_eq_ok_iff _).mp hwritten
    rw [payload_putArgs_start hacc hfit] at hlen hdiffers
    rw [Template.length_zeroed] at hlen
    exact ⟨hacc, hfit, Template.admits_iff_differs.mpr ⟨hlen, hdiffers⟩, hfds⟩
  · intro h
    obtain ⟨hacc, hfit, hadmits, hfds⟩ := h
    obtain ⟨hlen, hdiffers⟩ := Template.admits_iff_differs.mp hadmits
    refine ⟨hacc, (Builder.result_putArgs_eq_ok_iff _).mpr ⟨hacc, hfit⟩, ?_, ?_, hfds⟩
    · rw [payload_putArgs_start hacc hfit, Template.length_zeroed]
      exact hlen
    · rw [payload_putArgs_start hacc hfit]
      exact hdiffers

end Signature

/-- Other bytes at the open places change nothing about what a message begins with. -/
theorem Message.Begins.of_differs {m m' : Message} {t : Template} {ds : List Descriptor}
    (h : m.Begins t ds m') {payload : Bytes} (hlen : payload.length = m.payload.length)
    (hopen : ∀ i : Nat, payload[i]? ≠ m.payload[i]? → t.OpenAt i) :
    ∃ m₁, { m with payload := payload }.Begins t ds m₁ := by
  cases h with
  | intro bs rest queue hbs hpayload hqueue =>
    refine ⟨_, .intro (payload.take bs.length) (payload.drop bs.length) queue ?_
      (List.take_append_drop _ _).symm hqueue⟩
    refine hbs.of_differs ?_ ?_
    · rw [hpayload, List.length_append] at hlen
      rw [List.length_take]
      omega
    · intro i hne
      apply hopen i
      by_cases hi : i < bs.length
      · rw [List.getElem?_take_of_lt hi] at hne
        rw [hpayload, List.getElem?_append_left hi]
        exact hne
      · rw [List.getElem?_take_eq_none (Nat.not_lt.mp hi),
          List.getElem?_eq_none (Nat.not_lt.mp hi)] at hne
        exact absurd rfl hne

/-- A message is read completely if and only if some arguments spell it. Only these arguments do,
and they are what is read; written again they give the message with zeros in its padding. What
the padding holds has no influence on the arguments that are read. -/
theorem decodeArgs_iff_spells (order : ByteOrder) (header : Header) (payload : Bytes)
    (fds : List Descriptor) (sig : Signature) (sender : UInt32) (opcode : UInt16) :
    let b := Builder.start sender opcode order
    let read := (Message.framed header payload fds order).decodeArgs sig
    ((∃ args, read.result = .ok args) ∧ read.state.finish.result = .ok () ↔
        ∃ args, sig.Spells args b payload fds) ∧
      (∀ args, sig.Spells args b payload fds → read.result = .ok args) ∧
      (∀ args args', sig.Spells args b payload fds → sig.Spells args' b payload fds →
        args = args') ∧
      (∀ args, read.result = .ok args → read.state.finish.result = .ok () → ∀ i : Nat,
        ((Arg.templateAll order args).OpenAt i →
          (b.putArgs sig args).state.payload[i]? = some 0) ∧
        (¬ (Arg.templateAll order args).OpenAt i →
          (b.putArgs sig args).state.payload[i]? = payload[i]?)) ∧
      (∀ args other, read.result = .ok args → other.length = payload.length →
        (∀ i : Nat, other[i]? ≠ payload[i]? → (Arg.templateAll order args).OpenAt i) →
        ((Message.framed header other fds order).decodeArgs sig).result = .ok args) := by
  intro b read
  have hspells : ∀ args, sig.Spells args b payload fds →
      read.result = .ok args ∧ read.state.finish.result = .ok () := by
    intro args h
    exact Message.decodeArgs_and_finish_iff.mpr (Signature.spells_iff_admits.mp h)
  have hread : ∀ args, read.result = .ok args → read.state.finish.result = .ok () →
      sig.Spells args b payload fds := by
    intro args hresult hfinish
    exact Signature.spells_iff_admits.mpr
      (Message.decodeArgs_and_finish_iff.mp ⟨hresult, hfinish⟩)
  refine ⟨⟨?_, ?_⟩, ?_, ?_, ?_, ?_⟩
  · intro h
    obtain ⟨⟨args, hresult⟩, hfinish⟩ := h
    exact ⟨args, hread args hresult hfinish⟩
  · intro h
    obtain ⟨args, h⟩ := h
    exact ⟨⟨args, (hspells args h).1⟩, (hspells args h).2⟩
  · intro args h
    exact (hspells args h).1
  · intro args args' h h'
    exact Except.ok.inj ((hspells args h).1.symm.trans (hspells args' h').1)
  · intro args hresult hfinish i
    have h := hread args hresult hfinish
    obtain ⟨hacc, hfit, -⟩ := Signature.spells_iff_admits.mp h
    constructor
    · intro hopen
      rw [Signature.payload_putArgs_start hacc hfit]
      exact Template.zeroed_of_openAt hopen
    · intro hclosed
      by_contra hne
      exact hclosed (h.differs i (Ne.symm hne))
  · intro args other hresult hlen hopen
    obtain ⟨m', ds, hstep⟩ := Step.exists_of_result hresult
    obtain ⟨hacc, hfit, hbegins, -⟩ := Message.decodeArgs_eq_iff.mp hstep
    obtain ⟨m₁, hbegins'⟩ := hbegins.of_differs hlen hopen
    rw [show Message.framed header other fds order
      = { Message.framed header payload fds order with payload := other } from rfl,
      Message.decodeArgs_eq_iff.mpr ⟨hacc, hfit, hbegins', rfl⟩]

end FramedWire
