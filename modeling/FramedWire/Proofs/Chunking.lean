import FramedWire.Proofs.Envelope
import FramedWire.Proofs.Rights
import FramedWire.Proofs.Series

/-!
# Chunking

How a stream is cut into chunks makes no difference: the reader finds the messages that
`Framing.decode` finds when it is applied again and again to a buffer that holds all bytes of
the stream. What the reader says of the bytes behind the last message is `Framing.verdict`.
-/
namespace FramedWire

namespace Framing

structure Drained where
  messages : List Message
  /-- The bytes behind the last message. -/
  rest : Bytes

/-- Take one message after the other off the front of a buffer, as long as they are all there
and not too large. -/
def drain (config : FrameConfig) (buffer : Bytes) : Drained :=
  match _hdecode : decode config.order buffer with
  | .message m rest =>
    if config.sizeLimit < m.header.size.toNat then ⟨[], buffer⟩
    else
      let drained := drain config rest
      ⟨m :: drained.messages, drained.rest⟩
  | _ => ⟨[], buffer⟩
termination_by buffer.length
decreasing_by exact length_rest_lt _hdecode

/-- How many bytes the messages take in a stream. -/
def totalSize : List Message → Nat
  | [] => 0
  | m :: ms => m.header.size.toNat + totalSize ms

structure Verdict where
  error : FrameError
  /-- How many bytes it takes to tell. -/
  used : Nat

/-- Why no further message can be made of `rest` if nothing comes after it. -/
def verdict (config : FrameConfig) (rest : Bytes) : Verdict :=
  let size := declaredSize config.order rest
  if rest = [] then ⟨.connectionClosed, 0⟩
  else if rest.length < Header.headerSize then
    ⟨.truncated Header.headerSize rest.length, rest.length⟩
  else if size < Header.headerSize then ⟨.invalidSize (UInt16.ofNat size), Header.headerSize⟩
  else if config.sizeLimit < size then
    ⟨.messageTooLarge size config.sizeLimit, Header.headerSize⟩
  else ⟨.truncated size rest.length, rest.length⟩

theorem verdict_eq_connectionClosed_iff (config : FrameConfig) (rest : Bytes) :
    (verdict config rest).error = .connectionClosed ↔ rest = [] := by
  by_cases hempty : rest = []
  · simp [verdict, hempty]
  · simp only [verdict, hempty, iff_false, if_false]
    split
    · exact fun h => nomatch h
    · split
      · exact fun h => nomatch h
      · split <;> exact fun h => nomatch h

section

variable {order : ByteOrder} {buffer : Bytes}

theorem decode_of_declaredSize_lt (hlong : Header.headerSize ≤ buffer.length)
    (hsize : declaredSize order buffer < Header.headerSize) :
    Header.decode buffer order =
      .error (.invalidSize (UInt16.ofNat (declaredSize order buffer))) := by
  rw [declaredSize, if_neg (Nat.not_lt.mpr hlong)] at hsize ⊢
  rw [UInt16.ofNat_toNat]
  exact if_pos hsize

theorem decode_of_le_declaredSize (hlong : Header.headerSize ≤ buffer.length)
    (hsize : Header.headerSize ≤ declaredSize order buffer) :
    ∃ header : Header, Header.decode buffer order = .ok header ∧
      header.size.toNat = declaredSize order buffer := by
  rw [declaredSize, if_neg (Nat.not_lt.mpr hlong)] at hsize ⊢
  exact ⟨_, if_neg (Nat.not_lt.mpr hsize), rfl⟩

theorem decode_eq_message {m : Message} {rest : Bytes} (h : decode order buffer = .message m rest) :
    Header.decode buffer order = .ok m.header ∧ Header.headerSize ≤ buffer.length ∧
      m.header.size.toNat ≤ buffer.length ∧
      m = .framed m.header ((buffer.drop Header.headerSize).take m.header.payloadLen) [] order ∧
      rest = buffer.drop m.header.size.toNat := by
  unfold decode at h
  split at h
  · cases h
  · rename_i hlong
    split at h
    · cases h
    · rename_i header hheader
      split at h
      · cases h
      · rename_i hall
        cases h
        refine ⟨hheader, Nat.not_lt.mp hlong, Nat.not_lt.mp hall, rfl, ?_⟩
        have hwhole : Header.headerSize + header.payloadLen = header.size.toNat :=
          Nat.add_sub_cancel' (Header.headerSize_le_of_decode hheader)
        rw [List.drop_drop, hwhole]
        rfl

theorem payload_of_decode {m : Message} {rest : Bytes}
    (h : decode order buffer = .message m rest) :
    m.payload = (buffer.drop Header.headerSize).take m.header.payloadLen := by
  obtain ⟨-, -, -, hm, -⟩ := decode_eq_message h
  exact congrArg Message.payload hm

end

section

variable {config : FrameConfig} {buffer : Bytes}

/-- Draining goes on until no further message can be taken. -/
theorem drain_exhausts {m : Message} {rest : Bytes}
    (h : decode config.order (drain config buffer).rest = .message m rest) :
    config.sizeLimit < m.header.size.toNat := by
  fun_induction drain config buffer with
  | case1 buffer m' rest' hdecode hlarge =>
    cases hdecode.symm.trans h
    exact hlarge
  | case2 buffer m' rest' hdecode hsmall drained ih => exact ih h
  | case3 buffer hnone => exact (hnone m rest h).elim

/-- Nothing of a buffer is lost between the messages and the rest. -/
theorem rest_drain (config : FrameConfig) (buffer : Bytes) :
    (drain config buffer).rest = buffer.drop (totalSize (drain config buffer).messages) := by
  fun_induction drain config buffer with
  | case1 => rfl
  | case2 buffer m rest hdecode hsmall drained ih =>
    obtain ⟨-, -, -, -, hrest⟩ := decode_eq_message hdecode
    have hdrained : drained.rest = rest.drop (totalSize drained.messages) := ih
    rw [hdrained, hrest, List.drop_drop, totalSize]
  | case3 => rfl

theorem examine_of_message {m : Message} {rest : Bytes}
    (h : decode config.order buffer = .message m rest)
    (hsmall : m.header.size.toNat ≤ config.sizeLimit) :
    examine config buffer = ⟨.ok (m.header, m.payload), m.header.size.toNat⟩ := by
  obtain ⟨hheader, hlong, hall, -⟩ := decode_eq_message h
  rw [examine_of_admitted hlong (admittedHeader_of_small hheader hsmall),
    if_neg (Nat.not_lt.mpr hall), payload_of_decode h]

/-- If no message can be taken off a buffer, the finding for its bytes is the verdict. -/
theorem examine_of_no_message
    (h : ∀ m rest, decode config.order buffer = .message m rest →
      config.sizeLimit < m.header.size.toNat) :
    examine config buffer = ⟨.error (verdict config buffer).error, (verdict config buffer).used⟩ := by
  unfold verdict
  rcases Nat.lt_or_ge buffer.length Header.headerSize with hshort | hlong
  · rw [examine_of_short hshort]
    by_cases hempty : buffer = []
    · rw [hempty]
      rfl
    · have hlength : buffer.length ≠ 0 := fun h0 => hempty (List.length_eq_zero_iff.mp h0)
      simp only [if_neg hempty, if_neg hlength, if_pos hshort]
  have hsome : buffer ≠ [] := by
    intro hempty
    rw [hempty] at hlong
    cases hlong
  simp only [if_neg hsome, if_neg (Nat.not_lt.mpr hlong)]
  rcases Nat.lt_or_ge (declaredSize config.order buffer) Header.headerSize with hsize | hsize
  · have hheader := decode_of_declaredSize_lt hlong hsize
    rw [if_pos hsize, examine_of_refused hlong (admittedHeader_of_invalid hheader)]
  obtain ⟨header, hheader, hdeclared⟩ := decode_of_le_declaredSize hlong hsize
  rw [if_neg (Nat.not_lt.mpr hsize), ← hdeclared]
  rcases Nat.lt_or_ge config.sizeLimit header.size.toNat with hlarge | hsmall
  · rw [if_pos hlarge, examine_of_refused hlong (admittedHeader_of_large hheader hlarge)]
  -- The header is in order, so it is the payload that is not all there.
  have hpart : buffer.length < header.size.toNat := by
    apply Nat.lt_of_not_le
    intro hall
    have hmessage := h (.framed header ((buffer.drop Header.headerSize).take header.payloadLen) []
      config.order) ((buffer.drop Header.headerSize).drop header.payloadLen)
    rw [decode, if_neg (Nat.not_lt.mpr hlong), hheader] at hmessage
    have hlarge := hmessage (if_neg (Nat.not_lt.mpr hall))
    exact absurd hlarge (Nat.not_lt.mpr hsmall)
  rw [if_neg (Nat.not_lt.mpr hsmall),
    examine_of_admitted hlong (admittedHeader_of_small hheader hsmall), if_pos hpart]

end

end Framing

namespace Reader

section

variable {σ : Type} {src : Source σ} {holds : σ → Line → Prop} (h : src.Follows holds)
  {config : FrameConfig} {s : σ} {buffer : Bytes}

include h

/-- The message that is decoded off the bytes of a stream is read, and the bytes behind it
stay in the stream. -/
theorem readMessage_of_decode (hs : holds s (Line.plain buffer)) {m : Message} {rest : Bytes}
    (hdecode : Framing.decode config.order buffer = .message m rest)
    (hsmall : m.header.size.toNat ≤ config.sizeLimit) :
    ∃ s', holds s' (Line.plain rest) ∧ readMessage src config s = ⟨.ok m, s', []⟩ := by
  obtain ⟨-, -, -, hm, hrest⟩ := Framing.decode_eq_message hdecode
  obtain ⟨s', hs', hread⟩ := readMessage_of_follows h config hs
  rw [Line.bytes_plain, Framing.examine_of_message hdecode hsmall] at hs' hread
  rw [Line.drop_plain, ← hrest] at hs'
  rw [Line.take_plain, Line.control_plain, Framing.finishEnvelope_of_take Control.take_nil,
    Framing.payload_of_decode hdecode, ← hm] at hread
  exact ⟨s', hs', hread⟩

theorem readMessage_of_no_message (hs : holds s (Line.plain buffer))
    (hnone : ∀ m rest, Framing.decode config.order buffer = .message m rest →
      config.sizeLimit < m.header.size.toNat) :
    ∃ s', holds s' (Line.plain (buffer.drop (Framing.verdict config buffer).used)) ∧
      readMessage src config s = ⟨.error (Framing.verdict config buffer).error, s', []⟩ := by
  obtain ⟨s', hs', hread⟩ := readMessage_of_follows h config hs
  rw [Line.bytes_plain, Framing.examine_of_no_message hnone] at hs' hread
  rw [Line.drop_plain] at hs'
  rw [Line.take_plain, Line.control_plain, Framing.finishEnvelope_of_error,
    Control.close_nil] at hread
  exact ⟨s', hs', hread⟩

/-- The first calls read the first messages that the buffer is drained of. -/
theorem series_readMessage_take (hs : holds s (Line.plain buffer)) {k : Nat}
    (hk : k ≤ (Framing.drain config buffer).messages.length) :
    ∃ s', holds s' (Line.plain
        (buffer.drop (Framing.totalSize ((Framing.drain config buffer).messages.take k)))) ∧
      Step.series (readMessage src config) k s =
        ⟨((Framing.drain config buffer).messages.take k).map .ok, s', []⟩ := by
  -- The induction is on what is left in the buffer, which is what is left in the stream.
  fun_induction Framing.drain config buffer generalizing s k with
  | case1 buffer m rest hdecode hlarge =>
    have hk₀ : k = 0 := Nat.le_zero.mp hk
    subst hk₀
    exact ⟨s, hs, rfl⟩
  | case2 buffer m rest hdecode hsmall drained =>
    rename_i ih
    cases k with
    | zero => exact ⟨s, hs, rfl⟩
    | succ k =>
      obtain ⟨-, -, -, -, hrest⟩ := Framing.decode_eq_message hdecode
      obtain ⟨s₁, hs₁, hread⟩ := readMessage_of_decode h hs hdecode (Nat.not_lt.mp hsmall)
      obtain ⟨s₂, hs₂, hseries⟩ := ih hs₁ (Nat.le_of_succ_le_succ hk)
      have hdrop : rest.drop (Framing.totalSize (drained.messages.take k))
          = buffer.drop (m.header.size.toNat + Framing.totalSize (drained.messages.take k)) := by
        rw [hrest, List.drop_drop]
      refine ⟨s₂, ?_, ?_⟩
      · rw [hdrop] at hs₂
        exact hs₂
      · rw [Step.series_succ_of_eq hread, hseries]
        rfl
  | case3 buffer hnone =>
    have hk₀ : k = 0 := Nat.le_zero.mp hk
    subst hk₀
    exact ⟨s, hs, rfl⟩

end

/-- However the bytes of a stream are cut into chunks, and however often a receive is
interrupted, the reader returns the messages that a buffer with these bytes is drained of.
Each call takes exactly the bytes of its message. The first call that returns none reports the
verdict on the bytes that are left, which is a closed connection just if there are none. -/
theorem series_readMessage_eq_drain {σ : Type} {src : Source σ} {holds : σ → Line → Prop}
    (h : src.Follows holds) (config : FrameConfig) {s : σ} {buffer : Bytes}
    (hs : holds s (Line.plain buffer)) :
    let drained := Framing.drain config buffer
    let verdict := Framing.verdict config drained.rest
    let read := Step.series (readMessage src config)
    (∀ k ≤ drained.messages.length,
      ∃ s', holds s' (Line.plain (buffer.drop (Framing.totalSize (drained.messages.take k)))) ∧
        read k s = ⟨(drained.messages.take k).map .ok, s', []⟩) ∧
    drained.rest = buffer.drop (Framing.totalSize drained.messages) ∧
    (∃ s', holds s' (Line.plain (drained.rest.drop verdict.used)) ∧
      read (drained.messages.length + 1) s =
        ⟨drained.messages.map .ok ++ [.error verdict.error], s', []⟩) ∧
    (verdict.error = .connectionClosed ↔ drained.rest = []) := by
  intro drained verdict read
  have hrest : drained.rest = buffer.drop (Framing.totalSize drained.messages) :=
    Framing.rest_drain config buffer
  refine ⟨fun k hk => series_readMessage_take h hs hk, hrest, ?_,
    Framing.verdict_eq_connectionClosed_iff config drained.rest⟩
  obtain ⟨s₁, hs₁, hseries⟩ := series_readMessage_take h hs (Nat.le_refl drained.messages.length)
  rw [List.take_length] at hs₁ hseries
  rw [← hrest] at hs₁
  obtain ⟨s₂, hs₂, hlast⟩ :=
    readMessage_of_no_message h hs₁ fun _ _ hdecode => Framing.drain_exhausts hdecode
  exact ⟨s₂, hs₂, Step.series_succ_of_series hseries hlast⟩

/-- A message and two bytes of another one, in three pieces with an interruption. -/
theorem series_readMessage_eq_drain_script :
    let script : Script :=
      { items := [{ data := [1, 0, 0] },
          { data := [], failure? := some (.io (.plain .interrupted)) },
          { data := [0, 3, 0, 9, 0, 42, 7] }, { data := [7] }] }
    let buffer : Bytes := [1, 0, 0, 0, 3, 0, 9, 0, 42, 7, 7]
    Script.source.Follows Script.Carries ∧ script.Carries (Line.plain buffer) ∧
      ∃ s', Script.Carries s' (Line.plain []) ∧
        Step.series (readMessage Script.source {}) 2 script =
          ⟨[.ok (.framed ⟨1, 3, 9⟩ [42] [] .little), .error (.truncated 8 2)], s', []⟩ := by
  intro script buffer
  have hscript : script.Carries (Line.plain buffer) := by
    refine ⟨?_, rfl, by decide, rfl⟩
    intro item hitem
    simp only [script, List.mem_cons, List.not_mem_nil, or_false] at hitem
    obtain rfl | rfl | rfl | rfl := hitem
    · exact List.cons_ne_nil _ _
    · exact ⟨rfl, rfl⟩
    · exact List.cons_ne_nil _ _
    · exact List.cons_ne_nil _ _
  have hdrain : Framing.drain {} buffer = ⟨[.framed ⟨1, 3, 9⟩ [42] [] .little], [7, 7]⟩ := by
    simp only [buffer]
    cbv
  obtain ⟨-, -, hlast, -⟩ := series_readMessage_eq_drain Script.follows {} hscript
  rw [hdrain] at hlast
  exact ⟨Script.follows, hscript, hlast⟩

end Reader

end FramedWire
