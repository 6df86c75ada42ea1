import FramedWire.Proofs.Line
import FramedWire.Reader

/-!
# Envelopes

What the bytes of a stream come to, without the receives that bring them: `Framing.examine`
looks at all bytes that are still to come. Reading an envelope says the same of them and takes
no more bytes than it needs to tell, whatever pieces they arrive in.
-/
namespace FramedWire

namespace Header

/-- A header is in the first eight bytes, however these were put together. -/
theorem decode_take_append_take (bytes : Bytes) (order : ByteOrder) (h : 4 ≤ bytes.length) :
    decode (bytes.take 4 ++ (bytes.drop 4).take 4) order = decode bytes order := by
  have hlength : (bytes.take 4).length = 4 := List.length_take_of_le h
  have hfirst : (bytes.take 4 ++ (bytes.drop 4).take 4).take 4 = bytes.take 4 :=
    List.take_left' hlength
  have hsecond : ((bytes.take 4 ++ (bytes.drop 4).take 4).drop 4).take 4
      = (bytes.drop 4).take 4 := by
    rw [List.drop_left' hlength, List.take_take, Nat.min_self]
  simp only [decode, hfirst, hsecond]

theorem headerSize_le_of_decode {bytes : Bytes} {order : ByteOrder} {header : Header}
    (h : decode bytes order = .ok header) : headerSize ≤ header.size.toNat := by
  simp only [decode] at h
  split at h
  · cases h
  · rename_i hsize
    cases h
    exact Nat.not_lt.mp hsize

end Header

namespace Framing

section

variable {config : FrameConfig} {bytes : Bytes} {header : Header}

theorem admittedHeader_of_invalid {e : FrameError}
    (h : Header.decode bytes config.order = .error e) :
    admittedHeader config bytes = .error e := by
  rw [admittedHeader, h]

theorem admittedHeader_of_large (h : Header.decode bytes config.order = .ok header)
    (hlarge : config.sizeLimit < header.size.toNat) :
    admittedHeader config bytes =
      .error (.messageTooLarge header.size.toNat config.sizeLimit) := by
  rw [admittedHeader, h]
  change (checkSize header config.sizeLimit).map _ = _
  rw [checkSize, if_pos hlarge]
  rfl

theorem admittedHeader_of_small (h : Header.decode bytes config.order = .ok header)
    (hsmall : header.size.toNat ≤ config.sizeLimit) : admittedHeader config bytes = .ok header := by
  rw [admittedHeader, h]
  change (checkSize header config.sizeLimit).map _ = _
  rw [checkSize, if_neg (Nat.not_lt.mpr hsmall)]
  rfl

theorem decode_of_admittedHeader (h : admittedHeader config bytes = .ok header) :
    Header.decode bytes config.order = .ok header := by
  cases hdecode : Header.decode bytes config.order with
  | error e =>
    rw [admittedHeader_of_invalid hdecode] at h
    cases h
  | ok decoded =>
    rcases Nat.lt_or_ge config.sizeLimit decoded.size.toNat with hlarge | hsmall
    · rw [admittedHeader_of_large hdecode hlarge] at h
      cases h
    · rw [admittedHeader_of_small hdecode hsmall] at h
      exact h

end

/-- What the bytes at the front of a stream come to, and how many of them it takes to tell. -/
structure Finding where
  outcome : Except FrameError (Header × Bytes)
  used : Nat

/-- The finding for a stream that ends after `bytes`. -/
def examine (config : FrameConfig) (bytes : Bytes) : Finding :=
  if bytes.length = 0 then ⟨.error .connectionClosed, 0⟩
  else if bytes.length < Header.headerSize then
    ⟨.error (.truncated Header.headerSize bytes.length), bytes.length⟩
  else
    match admittedHeader config bytes with
    | .error e => ⟨.error e, Header.headerSize⟩
    | .ok header =>
      if bytes.length < header.size.toNat then
        ⟨.error (.truncated header.size.toNat bytes.length), bytes.length⟩
      else
        ⟨.ok (header, (bytes.drop Header.headerSize).take header.payloadLen), header.size.toNat⟩

theorem examine_of_short {config : FrameConfig} {bytes : Bytes}
    (hshort : bytes.length < Header.headerSize) :
    examine config bytes =
      ⟨.error (if bytes.length = 0 then .connectionClosed
        else .truncated Header.headerSize bytes.length), bytes.length⟩ := by
  unfold examine
  by_cases hempty : bytes.length = 0
  · rw [if_pos hempty, if_pos hempty, hempty]
  · rw [if_neg hempty, if_pos hshort, if_neg hempty]

section

variable {config : FrameConfig} {bytes : Bytes} (hlong : Header.headerSize ≤ bytes.length)

include hlong

theorem examine_of_refused {e : FrameError} (hheader : admittedHeader config bytes = .error e) :
    examine config bytes = ⟨.error e, Header.headerSize⟩ := by
  have hpos : bytes.length ≠ 0 := Nat.ne_of_gt (Nat.lt_of_lt_of_le (by decide) hlong)
  rw [examine, if_neg hpos, if_neg (Nat.not_lt.mpr hlong), hheader]

theorem examine_of_admitted {header : Header} (hheader : admittedHeader config bytes = .ok header) :
    examine config bytes =
      if bytes.length < header.size.toNat then
        ⟨.error (.truncated header.size.toNat bytes.length), bytes.length⟩
      else
        ⟨.ok (header, (bytes.drop Header.headerSize).take header.payloadLen),
          header.size.toNat⟩ := by
  have hpos : bytes.length ≠ 0 := Nat.ne_of_gt (Nat.lt_of_lt_of_le (by decide) hlong)
  rw [examine, if_neg hpos, if_neg (Nat.not_lt.mpr hlong), hheader]

end

section

variable {σ : Type} {fill : Nat → σ → Filled σ} {holds : σ → Line → Prop}
  (hfill : Fills fill holds) {s : σ} {line : Line} (hs : holds s line)

include hfill hs

theorem readHeader_of_short (config : FrameConfig) (hshort : line.length < Header.headerSize) :
    ∃ s', holds s' [] ∧ readHeader fill config s =
      ⟨s', Line.control line, .error (if line.length = 0 then .connectionClosed
        else .truncated Header.headerSize line.length)⟩ := by
  unfold Header.headerSize at hshort
  obtain ⟨s₁, hs₁, h₁⟩ := hfill 4 s line hs
  rcases Nat.lt_or_ge line.length 4 with hfirst | hfirst
  · rw [List.take_of_length_le (Nat.le_of_lt hfirst)] at h₁
    rw [List.drop_eq_nil_of_le (Nat.le_of_lt hfirst)] at hs₁
    refine ⟨s₁, hs₁, ?_⟩
    simp only [readHeader, h₁, Line.length_bytes]
    by_cases hempty : line.length = 0
    · rw [if_pos hempty, if_pos hempty]
    · rw [if_neg hempty, if_pos hfirst, if_neg hempty]
  · obtain ⟨s₂, hs₂, h₂⟩ := hfill 4 s₁ _ hs₁
    have hlength : (line.drop 4).length = line.length - 4 := List.length_drop
    have hlength₁ : (line.take 4).length = 4 := List.length_take_of_le hfirst
    have hcontrol : Line.control (line.take 4) ++ Line.control (line.drop 4)
        = Line.control line := by
      rw [← Line.control_append, List.take_append_drop]
    rw [List.take_of_length_le (by omega)] at h₂
    rw [List.drop_eq_nil_of_le (by omega)] at hs₂
    refine ⟨s₂, hs₂, ?_⟩
    simp only [readHeader, h₁, h₂, Line.length_bytes, hlength, hlength₁, hcontrol]
    rw [if_neg (by decide), if_neg (by decide), if_pos (by omega), if_neg (by omega),
      Nat.add_sub_cancel' hfirst]

theorem readHeader_of_long (config : FrameConfig) (hlong : Header.headerSize ≤ line.length) :
    ∃ s', holds s' (line.drop Header.headerSize) ∧ readHeader fill config s =
      ⟨s', Line.control (line.take Header.headerSize),
        admittedHeader config (Line.bytes line)⟩ := by
  unfold Header.headerSize at hlong ⊢
  obtain ⟨s₁, hs₁, h₁⟩ := hfill 4 s line hs
  obtain ⟨s₂, hs₂, h₂⟩ := hfill 4 s₁ _ hs₁
  have hlength₁ : (line.take 4).length = 4 := List.length_take_of_le (by omega)
  have hlength₂ : ((line.drop 4).take 4).length = 4 := by
    rw [List.length_take, List.length_drop]
    omega
  have hcontrol : Line.control (line.take 4) ++ Line.control ((line.drop 4).take 4)
      = Line.control (line.take 8) := by
    rw [← Line.control_append, ← List.take_add]
  have hheader : admittedHeader config
        (Line.bytes (line.take 4) ++ Line.bytes ((line.drop 4).take 4))
      = admittedHeader config (Line.bytes line) := by
    rw [Line.bytes_take, Line.bytes_take, Line.bytes_drop, admittedHeader, admittedHeader,
      Header.decode_take_append_take _ _ (by rw [Line.length_bytes]; omega)]
  rw [List.drop_drop] at hs₂
  refine ⟨s₂, hs₂, ?_⟩
  simp only [readHeader, h₁, h₂, Line.length_bytes, hlength₁, hlength₂, hcontrol, hheader]
  rw [if_neg (by decide), if_neg (by decide), if_neg (by decide)]

theorem readPayload_of_fills (header : Header) :
    ∃ s', holds s' (line.drop header.payloadLen) ∧ readPayload fill header s =
      ⟨s', Line.control (line.take header.payloadLen),
        if line.length < header.payloadLen then
          .error (.truncated header.size.toNat (Header.headerSize + line.length))
        else .ok (header, (Line.bytes line).take header.payloadLen)⟩ := by
  obtain ⟨s', hs', h'⟩ := hfill header.payloadLen s line hs
  have hlength : (line.take header.payloadLen).length = min header.payloadLen line.length :=
    List.length_take
  refine ⟨s', hs', ?_⟩
  simp only [readPayload, h', Line.length_bytes, hlength]
  rcases Nat.lt_or_ge line.length header.payloadLen with hshort | hall
  · rw [Nat.min_eq_right (Nat.le_of_lt hshort), if_pos hshort, if_pos hshort]
  · rw [if_neg (by omega), if_neg (by omega), Line.bytes_take]

/-- Reading an envelope finds out what the bytes of the line come to. It takes the bytes it
needs to tell, with all the control bytes among them, and leaves the rest of the line. -/
theorem readEnvelope_of_fills (config : FrameConfig) :
    ∃ s', holds s' (line.drop (examine config (Line.bytes line)).used) ∧
      readEnvelope fill config s =
        ⟨s', Line.control (line.take (examine config (Line.bytes line)).used),
          (examine config (Line.bytes line)).outcome⟩ := by
  have hlength : (Line.bytes line).length = line.length := Line.length_bytes line
  rcases Nat.lt_or_ge line.length Header.headerSize with hshort | hlong
  · obtain ⟨s₁, hs₁, h₁⟩ := readHeader_of_short hfill hs config hshort
    rw [examine_of_short (by omega), hlength, List.take_length, List.drop_length]
    refine ⟨s₁, hs₁, ?_⟩
    simp only [readEnvelope, h₁]
  obtain ⟨s₁, hs₁, h₁⟩ := readHeader_of_long hfill hs config hlong
  cases hheader : admittedHeader config (Line.bytes line) with
  | error e =>
    rw [examine_of_refused (by omega) hheader]
    refine ⟨s₁, hs₁, ?_⟩
    simp only [readEnvelope, h₁, hheader]
  | ok header =>
    obtain ⟨s₂, hs₂, h₂⟩ := readPayload_of_fills hfill hs₁ header
    have hdecoded := decode_of_admittedHeader hheader
    have hwhole : Header.headerSize + header.payloadLen = header.size.toNat :=
      Nat.add_sub_cancel' (Header.headerSize_le_of_decode hdecoded)
    have hcontrol : Line.control (line.take Header.headerSize)
        ++ Line.control ((line.drop Header.headerSize).take header.payloadLen)
        = Line.control (line.take header.size.toNat) := by
      rw [← Line.control_append, ← List.take_add, hwhole]
    rw [List.drop_drop, hwhole] at hs₂
    rw [examine_of_admitted (by omega) hheader, hlength]
    have hread : readEnvelope fill config s =
        ⟨s₂, Line.control (line.take header.size.toNat),
          if (line.drop Header.headerSize).length < header.payloadLen then
            .error (.truncated header.size.toNat
              (Header.headerSize + (line.drop Header.headerSize).length))
          else .ok (header, (Line.bytes (line.drop Header.headerSize)).take header.payloadLen)⟩ := by
      simp only [readEnvelope, h₁, h₂, hheader, hcontrol]
    rw [hread, List.length_drop]
    rcases Nat.lt_or_ge line.length header.size.toNat with hpart | hall
    · rw [List.drop_eq_nil_of_le (Nat.le_of_lt hpart)] at hs₂
      rw [if_pos hpart, if_pos (by omega), List.take_length, List.drop_length,
        List.take_of_length_le (Nat.le_of_lt hpart), Nat.add_sub_cancel' hlong]
      exact ⟨s₂, hs₂, rfl⟩
    · rw [if_neg (by omega), if_neg (by omega), Line.bytes_drop]
      exact ⟨s₂, hs₂, rfl⟩

end

variable {σ : Type}

theorem finishEnvelope_of_error (config : FrameConfig) (s : σ) (control : Bytes) (e : FrameError) :
    finishEnvelope config ⟨s, control, .error e⟩ = ⟨.error e, s, Control.close control⟩ := rfl

theorem finishEnvelope_of_take {config : FrameConfig} {control : Bytes} {queue : List Descriptor}
    (h : Control.take control = .ok queue) (s : σ) (header : Header) (payload : Bytes) :
    finishEnvelope config ⟨s, control, .ok (header, payload)⟩ =
      .done (.framed header payload queue config.order) s := by
  simp only [finishEnvelope, h]

end Framing

namespace Reader

/-- A reader makes its message of what it finds at the front of the line, and of the control
bytes that came with it. -/
theorem readMessage_of_follows {σ : Type} {src : Source σ} {holds : σ → Line → Prop}
    (h : src.Follows holds) (config : FrameConfig) {s : σ} {line : Line} (hs : holds s line) :
    ∃ s', holds s' (line.drop (Framing.examine config (Line.bytes line)).used) ∧
      readMessage src config s = Framing.finishEnvelope config
        ⟨s', Line.control (line.take (Framing.examine config (Line.bytes line)).used),
          (Framing.examine config (Line.bytes line)).outcome⟩ := by
  obtain ⟨s', hs', hread⟩ :=
    Framing.readEnvelope_of_fills (h.fills (roomForFds config)) hs config
  exact ⟨s', hs', congrArg (Framing.finishEnvelope config) hread⟩

end Reader

end FramedWire
