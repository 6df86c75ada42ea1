import FramedWire.Proofs.Chunking
import FramedWire.Proofs.Rollback
import FramedWire.Proofs.Sealed

/-!
# Finished messages

Whatever is done with a builder, its payload consists of whole words, and no word is half
written when an operation is rejected. So a builder is finished exactly if its size fits into
sixteen bits, and the three ways to come by the message agree: what the builder makes of itself,
what is decoded off a buffer and what a reader takes from a stream.
-/
namespace FramedWire

theorem Template.four_dvd_field (order : ByteOrder) (bs : Bytes) :
    4 ∣ (Template.field order bs).length := by
  have hpadding := Bytes.add_padding_mod bs.length
  simp only [field, fixed, padding, List.length_append, List.length_map, List.length_replicate,
    ByteOrder.length_encode]
  omega

namespace Arg

theorem four_dvd_templateAll {order : ByteOrder} {items : List Arg}
    (h : ∀ item ∈ items, 4 ∣ (item.template order).length) :
    4 ∣ (templateAll order items).length := by
  induction items with
  | nil => exact Nat.dvd_zero 4
  | cons item items ih =>
    obtain ⟨hitem, hitems⟩ := List.forall_mem_cons.mp h
    rw [templateAll, List.length_append]
    exact Nat.dvd_add hitem (ih hitems)

/-- An argument takes whole words; only padding makes this true of strings and arrays. -/
theorem four_dvd_template (order : ByteOrder) (arg : Arg) :
    4 ∣ (arg.template order).length := by
  have hword (w : UInt32) : (Template.fixed (order.encode w)).length = 4 := by
    rw [Template.fixed, List.length_map, ByteOrder.length_encode]
  induction arg using Arg.inductionOn with
  | int v => exact ⟨1, hword _⟩
  | uint v => exact ⟨1, hword v⟩
  | fixed v => exact ⟨1, hword _⟩
  | string v => exact Template.four_dvd_field order _
  | array v => exact Template.four_dvd_field order v
  | newId v =>
    rw [template, List.length_append, hword]
    exact Nat.dvd_add (Template.four_dvd_field order _) (Nat.dvd_refl 4)
  | fd d => exact Nat.dvd_zero 4
  | sequence items ih =>
    rw [template, List.length_append, hword]
    exact Nat.dvd_add (Nat.dvd_refl 4) (four_dvd_templateAll ih)

end Arg

namespace Builder

/-- Whole words and some descriptors were appended to `b`. -/
def Widens (b b' : Builder) : Prop :=
  ∃ words ds, 4 ∣ words.length ∧ b' = b.extend words ds

variable {σ : Type} {b b₁ b₂ : Builder}

theorem Widens.refl (b : Builder) : b.Widens b := ⟨[], [], Nat.dvd_zero 4, (extend_nil b).symm⟩

theorem Widens.trans (h : b.Widens b₁) (h' : b₁.Widens b₂) : b.Widens b₂ := by
  obtain ⟨words, ds, hdvd, rfl⟩ := h
  obtain ⟨words', ds', hdvd', rfl⟩ := h'
  refine ⟨words ++ words', ds ++ ds', ?_, extend_extend b words words' ds ds'⟩
  rw [List.length_append]
  exact Nat.dvd_add hdvd hdvd'

theorem widens_extend_zeroed {t : Template} (h : 4 ∣ t.length) (ds : List Descriptor) :
    b.Widens (b.extend t.zeroed ds) := by
  refine ⟨t.zeroed, ds, ?_, rfl⟩
  rw [Template.length_zeroed]
  exact h

theorem widens_putUint (b : Builder) (v : UInt32) : b.Widens (b.putUint v) := by
  refine ⟨b.order.encode v, [], ?_, putUint_eq_extend b v⟩
  exact ⟨1, ByteOrder.length_encode b.order v⟩

theorem widens_putLen (b : Builder) (len : Nat) : b.Widens (b.putLen len).state := by
  unfold putLen
  split
  · exact widens_putUint b _
  · exact .refl b

theorem widens_putField (b : Builder) (field : Bytes) : b.Widens (b.putField field).state := by
  rcases Nat.lt_or_ge field.length (2 ^ 32) with hlt | hle
  · rw [putField_of_lt b hlt]
    exact widens_extend_zeroed (Template.four_dvd_field _ _) []
  · rw [putField_of_le b hle]
    exact .refl b

theorem Atomic.widens {given : List Descriptor} {step : Writing} (h : b.Atomic given step)
    (hok : step.result = .ok () → b.Widens step.state) : b.Widens step.state := by
  cases h with
  | accepted bytes => exact hok rfl
  | rejected e => exact .refl b

theorem encodeArg_eq_write {arg : Arg} (h : (encodeArg arg b).result = .ok ()) :
    encodeArg arg b = write arg b := by
  cases arg with
  | sequence items =>
    simp only [encodeArg] at h ⊢
    split at h
    · rfl
    · cases h
  | _ => rfl

theorem putArg_of_ok {arg : Arg} (h : (b.putArg arg).result = .ok ()) :
    b.putArg arg = .done () (b.extend (arg.template b.order).zeroed arg.descriptors) := by
  rw [putArg] at h ⊢
  rcases hencode : (encodeArg arg b).result with e | _
  · rw [result_append_of_error hencode] at h
    cases h
  · have hwrite := encodeArg_eq_write hencode
    rw [hwrite] at hencode
    have hfits := (result_write_eq_ok_iff b).mp hencode
    exact append_of_done (hwrite.trans (write_of_fits hfits b))

theorem widens_putArg (b : Builder) (arg : Arg) : b.Widens (b.putArg arg).state := by
  apply (atomic_append (grows_encodeArg arg b)).widens
  intro hok
  have hput := putArg_of_ok hok
  rw [putArg] at hput
  rw [hput]
  exact widens_extend_zeroed (arg.four_dvd_template b.order) _

theorem widens_putArgs (b : Builder) (sig : Signature) (args : List Arg) :
    b.Widens (b.putArgs sig args).state := by
  apply (atomic_putArgs sig args b).widens
  intro hok
  obtain ⟨hacc, hfit⟩ := (result_putArgs_eq_ok_iff b).mp hok
  rw [putArgs_of_fits hacc hfit]
  exact widens_extend_zeroed (Arg.four_dvd_templateAll fun arg _ => arg.four_dvd_template b.order) _

theorem Op.widens_run (b : Builder) (op : Op) : b.Widens (op.run b).state := by
  cases op with
  | putInt value => exact widens_putUint b _
  | putUint value => exact widens_putUint b value
  | putFixed value => exact widens_putUint b _
  | putString text => exact widens_putField b _
  | putArray bytes => exact widens_putField b bytes
  | putCount count => exact widens_putLen b count
  | pushFd d => exact ⟨[], [d], Nat.dvd_zero 4, pushFd_eq_extend b d⟩
  | put ty value =>
    rw [run, WireValue.put_eq_putArg]
    exact widens_putArg b _
  | putArg arg => exact widens_putArg b arg
  | putArgs sig args => exact widens_putArgs b sig args

theorem Op.widens_runAll (b : Builder) (ops : List Op) : b.Widens (Op.runAll b ops).state := by
  induction ops generalizing b with
  | nil => exact .refl b
  | cons op ops ih => exact (op.widens_run b).trans (ih (op.run b).state)

/-- What the owner of a builder can do with it: an operation, or to put a value of a type that is
not of the wire, whose encoder is made of operations. -/
inductive Act where
  | basic (op : Op)
  | custom (write : Builder → Writing) (composed : Composed write)

namespace Act

def run (b : Builder) : Act → Writing
  | .basic op => op.run b
  | .custom write _ => b.append write

/-- The builder after one act and the next, whatever came of each. -/
def runAll (b : Builder) : List Act → Builder
  | [] => b
  | act :: acts => runAll (act.run b).state acts

theorem widens_run (b : Builder) (act : Act) : b.Widens (act.run b).state := by
  cases act with
  | basic op => exact op.widens_run b
  | custom write composed =>
    rcases append_of_composed composed b with ⟨hok, -⟩ | ⟨-, hstate⟩
    · obtain ⟨ops, hops⟩ := composed b
      rcases hwrite : write b with ⟨e | _, b', ds⟩
      · rw [result_append_of_error (congrArg Step.result hwrite)] at hok
        cases hok
      · rw [hwrite] at hops
        simp only [run, append, hwrite, hops]
        exact Op.widens_runAll b ops
    · rw [run, hstate]
      exact .refl b

theorem widens_runAll (b : Builder) (acts : List Act) : b.Widens (runAll b acts) := by
  induction acts generalizing b with
  | nil => exact .refl b
  | cons act acts ih => exact (widens_run b act).trans (ih (act.run b).state)

end Act

section

variable {b : Builder} (hfits : Header.headerSize + b.payload.length ≤ Header.maxMessageSize)

include hfits

theorem decode_take_sealed :
    Header.decode (b.sealed.bytes.take Header.headerSize) b.order = .ok b.sealed.header := by
  have hsize := toNat_size_sealed hfits
  have hfront : b.sealed.bytes.take Header.headerSize = b.sealed.header.encode b.order ++ [] := by
    rw [List.append_nil]
    exact List.take_left' (Header.length_encode _ _)
  rw [hfront]
  apply Header.decode_encode_append
  omega

/-- The default limit is what sixteen bits can tell, so a reader takes every sealed message. -/
theorem readMessage_sealed_append {src : Source σ} {holds : σ → Line → Prop}
    (h : src.Follows holds) {s : σ} {tail : Bytes}
    (hs : holds s (Line.plain (b.sealed.bytes ++ tail))) :
    ∃ s', holds s' (Line.plain tail) ∧ Reader.readMessage src { order := b.order } s =
      ⟨.ok (.framed b.sealed.header b.payload [] b.order), s', []⟩ := by
  have hdecode : Framing.decode ({ order := b.order } : FrameConfig).order
      (b.sealed.bytes ++ tail) = .message (.framed b.sealed.header b.payload [] b.order) tail :=
    Framing.decode_sealed_append hfits tail
  have hlimit : ({ order := b.order } : FrameConfig).sizeLimit = Header.maxMessageSize :=
    Nat.min_self _
  have hsmall : b.sealed.header.size.toNat ≤ ({ order := b.order } : FrameConfig).sizeLimit := by
    rw [hlimit, toNat_size_sealed hfits]
    exact hfits
  exact Reader.readMessage_of_decode h hs hdecode hsmall

end

/-- After any history of a builder, failures included, the payload consists of whole words. It can
be finished exactly if the message is no larger than the header can tell, and then the header does
tell its size, and decoding it, taking the message off a buffer and reading it from a stream give
the sender, the opcode, the size and the payload that the builder has, and leave what follows. -/
theorem finish_history (sender : UInt32) (opcode : UInt16) (order : ByteOrder) (acts : List Act) :
    let b := Act.runAll (.start sender opcode order) acts
    4 ∣ b.payloadLen ∧
    ((∃ out, b.finish.result = .ok out) ↔ 8 + b.payloadLen ≤ 65535) ∧
    ∀ out, b.finish.result = .ok out →
      let received : Message := { out.toMessage with queue := [] }
      received = .framed ⟨sender, opcode, out.header.size⟩ b.payload [] order ∧
      out.header.size.toNat = 8 + b.payloadLen ∧ out.bytes.length = 8 + b.payloadLen ∧
      Header.decode (out.bytes.take 8) order = .ok ⟨sender, opcode, out.header.size⟩ ∧
      ∀ tail, Framing.decode order (out.bytes ++ tail) = .message received tail ∧
        ∀ (σ : Type) (src : Source σ) (holds : σ → Line → Prop) (s : σ), src.Follows holds →
          holds s (Line.plain (out.bytes ++ tail)) →
          ∃ s', holds s' (Line.plain tail) ∧
            Reader.readMessage src { order := order } s = ⟨.ok received, s', []⟩ := by
  intro b
  obtain ⟨words, ds, hdvd, hb⟩ := Act.widens_runAll (.start sender opcode order) acts
  have hpayload : b.payload = words := congrArg Builder.payload hb
  have horder : b.order = order := congrArg Builder.order hb
  have hsender : b.sender = sender := congrArg Builder.sender hb
  have hopcode : b.opcode = opcode := congrArg Builder.opcode hb
  refine ⟨?_, ?_, ?_⟩
  · rw [payloadLen, hpayload]
    exact hdvd
  · constructor
    · intro h
      obtain ⟨out, hout⟩ := h
      exact (finish_eq_ok_iff.mp hout).1
    · intro hfits
      exact ⟨b.sealed, finish_eq_ok_iff.mpr ⟨hfits, rfl⟩⟩
  · intro out hout
    obtain ⟨hfits, rfl⟩ := finish_eq_ok_iff.mp hout
    intro received
    have hheader : b.sealed.header = ⟨sender, opcode, b.sealed.header.size⟩ := by
      rw [← hsender, ← hopcode]
      rfl
    have hreceived : received = .framed b.sealed.header b.payload [] b.order := by
      simp only [received, toMessage_sealed, Message.framed]
    refine ⟨?_, toNat_size_sealed hfits, length_bytes_sealed b, ?_, ?_⟩
    · rw [hreceived, hheader, horder]
    · rw [← hheader, ← horder]
      exact decode_take_sealed hfits
    · intro tail
      rw [hreceived, ← horder]
      refine ⟨Framing.decode_sealed_append hfits tail, ?_⟩
      intro σ src holds s hfollows hs
      exact readMessage_sealed_append hfits hfollows hs

/-- A string is padded, and a sequence whose items do not go together adds nothing to it. -/
example :
    let acts : List Act := [.basic (.putString "go"), .basic (.putArg (.sequence [.int 1, .uint 2]))]
    (Act.runAll (.start 1 2 .big) acts).finish.result =
      .ok ⟨⟨1, 2, 16⟩, .big, [0, 0, 0, 1, 0, 16, 0, 2, 0, 0, 0, 3, 103, 111, 0, 0], []⟩ := by
  cbv

end Builder

end FramedWire
