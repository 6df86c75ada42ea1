import FramedWire.Dump
import FramedWire.Proofs.Decoding
import FramedWire.Proofs.HexText
import FramedWire.Proofs.Sealed

/-!
# Dumps of messages that were built

A dump that holds messages as they were built, one directly behind the other, is reported message
by message with all that went into them. If the last of them is cut off, there is no report at
all. Descriptors do not travel in a dump, so this is about signatures that ask for none.
-/
namespace FramedWire

structure Letter (order : ByteOrder) (sig : Signature) where
  sender : UInt32
  opcode : UInt16
  args : List Arg
  message : Outgoing
  written : ((Builder.start sender opcode order).putArgs sig args).result = .ok ()
  finished : ((Builder.start sender opcode order).putArgs sig args).state.finish.result =
    .ok message

namespace Arg

theorem descriptors_of_conformsTo {arg : Arg} {ty : ArgType} (h : arg.conformsTo ty = true)
    (hty : 'h' ∉ ty.chars) : arg.descriptors = [] := by
  induction arg using Arg.inductionOn generalizing ty with
  | sequence items ih =>
    cases ty with
    | sequence element =>
      have helement : 'h' ∉ element.chars := by
        intro hmem
        exact hty (List.mem_append_left _ (List.mem_cons_of_mem _ hmem))
      rw [conformsTo, allConformTo_eq_all, List.all_eq_true] at h
      rw [descriptors, descriptorsAll_eq_flatMap, List.flatMap_eq_nil_iff]
      intro item hitem
      exact ih item hitem (h item hitem) helement
    | _ => cases h
  | fd d =>
    cases ty with
    | fd => exact absurd (List.mem_singleton_self 'h') hty
    | _ => cases h
  | _ => rfl

theorem descriptorsAll_of_accepts {sig : Signature} {args : List Arg} (h : sig.Accepts args)
    (hsig : 'h' ∉ sig.chars) : descriptorsAll args = [] := by
  induction h with
  | nil => rfl
  | cons hconf _ ih =>
    rw [Signature.chars, List.flatMap_cons, List.mem_append, not_or] at hsig
    rw [descriptorsAll, descriptors_of_conformsTo hconf hsig.1, ih hsig.2]
    rfl

end Arg

namespace Letter

variable {order : ByteOrder} {sig : Signature}

/-- What a reader of a letter is told: its header, and each argument with its type. -/
def report (l : Letter order sig) : Report where
  header := ⟨l.sender, l.opcode, l.message.header.size⟩
  order := order
  fds := 0
  signature? := some (Signature.text sig)
  args? := some (List.zipWith (fun ty arg => ⟨ty.text, ArgText.toJson arg⟩) sig l.args)

/-- The builder that was sealed. -/
def builder (l : Letter order sig) : Builder :=
  ((Builder.start l.sender l.opcode order).putArgs sig l.args).state

theorem accepts (l : Letter order sig) : sig.Accepts l.args :=
  ((Builder.result_putArgs_eq_ok_iff _).mp l.written).1

theorem allFit (l : Letter order sig) : Arg.AllFit l.args :=
  ((Builder.result_putArgs_eq_ok_iff _).mp l.written).2

theorem builder_eq (l : Letter order sig) :
    l.builder = (Builder.start l.sender l.opcode order).extend
      (Arg.templateAll order l.args).zeroed (Arg.descriptorsAll l.args) := by
  rw [builder, Builder.putArgs_of_fits l.accepts l.allFit]
  rfl

theorem fits (l : Letter order sig) :
    Header.headerSize + l.builder.payload.length ≤ Header.maxMessageSize :=
  (Builder.finish_eq_ok_iff.mp l.finished).1

theorem message_eq (l : Letter order sig) : l.message = l.builder.sealed :=
  (Builder.finish_eq_ok_iff.mp l.finished).2.symm

theorem order_builder (l : Letter order sig) : l.builder.order = order := by
  rw [builder_eq]
  rfl

theorem header_message (l : Letter order sig) : l.message.header =
    ⟨l.sender, l.opcode, l.message.header.size⟩ := by
  rw [message_eq, builder_eq]
  rfl

theorem decode_append (l : Letter order sig) (rest : Bytes) :
    Framing.decode order (l.message.bytes ++ rest) =
      .message (.framed l.message.header l.builder.payload [] order) rest := by
  have hdecode := Framing.decode_sealed_append l.fits rest
  rw [order_builder, ← message_eq] at hdecode
  exact hdecode

/-- A letter that arrives without descriptors, since it has none, is reported as it was made. -/
theorem result_ofMessage (l : Letter order sig) (hsig : 'h' ∉ Signature.chars sig) :
    (Report.ofMessage (.framed l.message.header l.builder.payload [] order) (some sig)).result =
      .ok l.report := by
  have hpayload : l.builder.payload = (Arg.templateAll order l.args).zeroed := by
    rw [builder_eq]
    rfl
  have hadmits : (Arg.templateAll order l.args).Admits l.builder.payload := by
    rw [hpayload]
    exact Template.admits_zeroed _
  have hnone : Arg.descriptorsAll l.args = [] := Arg.descriptorsAll_of_accepts l.accepts hsig
  let m : Message := .framed l.message.header l.builder.payload [] order
  have hcomplete : (m.decodeArgs sig).result = .ok l.args ∧
      (m.decodeArgs sig).state.finish.result = .ok () :=
    Message.decodeArgs_and_finish_iff.mpr ⟨l.accepts, l.allFit, hadmits, hnone⟩
  obtain ⟨hread, hfinish⟩ := hcomplete
  obtain ⟨m', ds, hstep⟩ := Step.exists_of_result hread
  rw [hstep] at hfinish
  change (Report.ofMessage m (some sig)).result = .ok l.report
  simp only [Report.ofMessage, hstep, hfinish]
  rw [report, ← header_message]
  rfl

theorem exists_entries (l : Letter order sig) :
    ∃ entries, l.report.args? = some entries ∧ entries.length = l.args.length := by
  refine ⟨_, rfl, ?_⟩
  rw [List.length_zipWith, List.Forall₂.length_eq l.accepts, Nat.min_self]

end Letter

namespace Dump

variable {order : ByteOrder} {sig : Signature} {sig? : Option Signature}

theorem reports_nil (order : ByteOrder) (sig? : Option Signature) : reports order sig? [] = .ok [] := by
  rw [reports, if_pos rfl]

theorem reports_of_message {bytes rest : Bytes} {m : Message} {report : Report}
    (h : Framing.decode order bytes = .message m rest)
    (hreport : (Report.ofMessage m sig?).result = .ok report) :
    reports order sig? bytes = (reports order sig? rest).map (report :: ·) := by
  have hsome : bytes ≠ [] := by
    rintro rfl
    cases h
  rw [reports, if_neg hsome]
  split
  · rename_i e hinvalid
    cases hinvalid.symm.trans h
  · rename_i hincomplete
    cases hincomplete.symm.trans h
  · rename_i m' rest' hmessage
    cases hmessage.symm.trans h
    rw [hreport]

theorem reports_of_incomplete {bytes : Bytes} (hsome : bytes ≠ [])
    (h : Framing.decode order bytes = .incomplete) :
    reports order sig? bytes =
      .error (.ofFrame "decode failed"
        (.truncated (Framing.declaredSize order bytes) bytes.length)) := by
  rw [reports, if_neg hsome]
  split
  · rename_i e hinvalid
    cases hinvalid.symm.trans h
  · rfl
  · rename_i m' rest' hmessage
    cases hmessage.symm.trans h

/-- The letters at the front of a dump are reported before the rest. -/
theorem reports_flatMap_append (hsig : 'h' ∉ Signature.chars sig) (letters : List (Letter order sig))
    (rest : Bytes) :
    reports order (some sig) (letters.flatMap (·.message.bytes) ++ rest) =
      (reports order (some sig) rest).map (letters.map Letter.report ++ ·) := by
  induction letters with
  | nil =>
    change reports order (some sig) rest = (reports order (some sig) rest).map id
    cases reports order (some sig) rest <;> rfl
  | cons l letters ih =>
    rw [List.flatMap_cons, List.append_assoc,
      reports_of_message (l.decode_append _) (l.result_ofMessage hsig), ih]
    cases reports order (some sig) rest <;> rfl

/-- What is left of a letter that was cut off makes the whole dump fail. -/
theorem reports_of_cut (l : Letter order sig) {front : Bytes} (hsome : front ≠ [])
    (hbegins : front <+: l.message.bytes) (hne : front ≠ l.message.bytes) :
    reports order sig? front =
      .error (.ofFrame "decode failed"
        (.truncated (if front.length < Header.headerSize then Header.headerSize
          else l.message.header.size.toNat) front.length)) := by
  rw [l.message_eq] at hbegins hne ⊢
  obtain ⟨hincomplete, hsize⟩ := Framing.decode_of_sealed_prefix l.fits hbegins hne
  rw [l.order_builder] at hincomplete hsize
  rw [reports_of_incomplete hsome hincomplete, hsize]

theorem ofHex_encodeHex (order : ByteOrder) (sig? : Option Signature) (bytes : Bytes) :
    ofHex order sig? (Text.encodeHex bytes) = reports order sig? bytes := by
  rw [ofHex, Text.decodeHex_encodeHex]

/-- Messages that were built of arguments, back to back, are reported one by one with what was
put into them, from bytes and from hexadecimal text alike. If a further one is cut off anywhere,
nothing is reported but how much of it there is and how much there should be. -/
theorem reports_of_letters (hsig : 'h' ∉ Signature.chars sig) (letters : List (Letter order sig)) :
    let dump := letters.flatMap (·.message.bytes)
    reports order (some sig) dump = .ok (letters.map Letter.report) ∧
      ofHex order (some sig) (Text.encodeHex dump) = .ok (letters.map Letter.report) ∧
      (∀ l ∈ letters, ∃ entries, l.report.args? = some entries ∧
        entries.length = l.args.length) ∧
      ∀ (last : Letter order sig) (front : Bytes), front ≠ [] → front <+: last.message.bytes →
        front ≠ last.message.bytes →
        let expected := if front.length < 8 then 8 else last.message.header.size.toNat
        let e : CommandError := .ofFrame "decode failed" (.truncated expected front.length)
        e.code = ExitCode.dataInvalid ∧ reports order (some sig) (dump ++ front) = .error e ∧
          ofHex order (some sig) (Text.encodeHex (dump ++ front)) = .error e := by
  intro dump
  have hwhole : reports order (some sig) dump = .ok (letters.map Letter.report) := by
    have hdump := reports_flatMap_append hsig letters []
    rw [List.append_nil, reports_nil, Except.map, List.append_nil] at hdump
    exact hdump
  refine ⟨hwhole, ?_, fun l _ => l.exists_entries, ?_⟩
  · rw [ofHex_encodeHex, hwhole]
  · intro last front hsome hbegins hne expected e
    have hcut : reports order (some sig) (dump ++ front) = .error e := by
      rw [reports_flatMap_append hsig, reports_of_cut last hsome hbegins hne]
      rfl
    exact ⟨rfl, hcut, (ofHex_encodeHex _ _ _).trans hcut⟩

/-- A letter with a sequence of texts, one with an empty sequence, and ten bytes of it again. -/
theorem reports_of_letters_cut :
    let sig : Signature := [.uint, .sequence .string]
    let args : List Arg := [.uint 5, .sequence [.string "a", .string ""]]
    let first : Letter .big sig :=
      ⟨1, 7, args, ((Builder.start 1 7 .big).putArgs sig args).state.sealed, rfl, rfl⟩
    let args : List Arg := [.uint 6, .sequence []]
    let second : Letter .big sig :=
      ⟨2, 0, args, ((Builder.start 2 0 .big).putArgs sig args).state.sealed, rfl, rfl⟩
    let dump : Bytes := [first, second].flatMap (·.message.bytes)
    let front : Bytes := [0, 0, 0, 2, 0, 16, 0, 0, 0, 0]
    'h' ∉ Signature.chars sig ∧ reports .big (some sig) dump = .ok [first.report, second.report] ∧
      front <+: second.message.bytes ∧
      reports .big (some sig) (dump ++ front) =
        .error ⟨60, "decode failed: truncated message (10 of 16 bytes)"⟩ := by
  intro sig args first args' second dump front
  have hsig : 'h' ∉ Signature.chars sig := by decide
  have hbegins : front <+: second.message.bytes := ⟨[0, 6, 0, 0, 0, 0], by decide +kernel⟩
  obtain ⟨hwhole, -, -, hcut⟩ := reports_of_letters hsig [first, second]
  obtain ⟨-, herror, -⟩ := hcut second front (by decide) hbegins (by decide +kernel)
  exact ⟨hsig, hwhole, hbegins, herror.trans (congrArg Except.error (by decide +kernel))⟩

end Dump

end FramedWire
