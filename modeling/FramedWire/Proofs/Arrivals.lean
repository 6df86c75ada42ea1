import FramedWire.Proofs.Chunking

/-!
# Arrivals

A buffer to which bytes are added as they arrive, while messages are taken off its front at any
time. It makes no difference when it is looked at: whatever was found once stays found, and to
look at a buffer that holds too little changes nothing. In the end the messages, the first error
and the bytes that are left are those of a buffer that is looked at only when all bytes are there.
-/
namespace FramedWire

theorem Header.decode_append {bytes : Bytes} (order : ByteOrder) (more : Bytes)
    (hlong : headerSize ≤ bytes.length) : decode (bytes ++ more) order = decode bytes order := by
  have hlength : 8 ≤ bytes.length := hlong
  have hfirst : (bytes ++ more).take 4 = bytes.take 4 := List.take_append_of_le_length (by omega)
  have hsecond : ((bytes ++ more).drop 4).take 4 = (bytes.drop 4).take 4 := by
    rw [List.drop_append_of_le_length (by omega)]
    exact List.take_append_of_le_length (by rw [List.length_drop]; omega)
  simp only [decode, hfirst, hsecond]

namespace Framing

section

variable {order : ByteOrder} {buffer : Bytes}

theorem decode_of_message {header : Header} (hheader : Header.decode buffer order = .ok header)
    (hlong : Header.headerSize ≤ buffer.length) (hall : header.size.toNat ≤ buffer.length) :
    decode order buffer =
      .message
        (.framed header ((buffer.drop Header.headerSize).take header.payloadLen) [] order)
        (buffer.drop header.size.toNat) := by
  have hwhole : Header.headerSize + header.payloadLen = header.size.toNat :=
    Nat.add_sub_cancel' (Header.headerSize_le_of_decode hheader)
  rw [decode, if_neg (Nat.not_lt.mpr hlong), hheader]
  dsimp only
  rw [if_neg (Nat.not_lt.mpr hall), List.drop_drop, hwhole]

theorem decode_of_invalid {e : FrameError} (hheader : Header.decode buffer order = .error e)
    (hlong : Header.headerSize ≤ buffer.length) : decode order buffer = .invalid e := by
  rw [decode, if_neg (Nat.not_lt.mpr hlong), hheader]

theorem decode_eq_invalid {e : FrameError} (h : decode order buffer = .invalid e) :
    Header.headerSize ≤ buffer.length ∧ Header.decode buffer order = .error e := by
  unfold decode at h
  split at h
  · cases h
  · rename_i hlong
    split at h
    · rename_i hheader
      cases h
      exact ⟨Nat.not_lt.mp hlong, hheader⟩
    · split at h <;> cases h

/-- A message that is there is not changed by what arrives after it. -/
theorem decode_append_of_message {m : Message} {rest : Bytes}
    (h : decode order buffer = .message m rest) (more : Bytes) :
    decode order (buffer ++ more) = .message m (rest ++ more) := by
  obtain ⟨hheader, hlong, hall, hm, hrest⟩ := decode_eq_message h
  have hlength : (buffer ++ more).length = buffer.length + more.length := List.length_append
  have hheader' : Header.decode (buffer ++ more) order = .ok m.header := by
    rw [Header.decode_append order more hlong, hheader]
  have hbody : ((buffer ++ more).drop Header.headerSize).take m.header.payloadLen =
      (buffer.drop Header.headerSize).take m.header.payloadLen := by
    rw [List.drop_append_of_le_length hlong]
    refine List.take_append_of_le_length ?_
    rw [List.length_drop, Header.payloadLen]
    exact Nat.sub_le_sub_right hall _
  rw [decode_of_message hheader' (by omega) (by omega), hbody, ← hm, hrest,
    List.drop_append_of_le_length hall]

theorem decode_append_of_invalid {e : FrameError} (h : decode order buffer = .invalid e)
    (more : Bytes) : decode order (buffer ++ more) = .invalid e := by
  obtain ⟨hlong, hheader⟩ := decode_eq_invalid h
  rw [← Header.decode_append order more hlong] at hheader
  refine decode_of_invalid hheader ?_
  rw [List.length_append]
  exact Nat.le_add_right_of_le hlong

end

/-- One call on a buffer: the message at its front comes off, if all of it is there. -/
def take (order : ByteOrder) (buffer : Bytes) : Step Bytes FrameError (Option Message) :=
  match decode order buffer with
  | .incomplete => .done none buffer
  | .message m rest => .done (some m) rest
  | .invalid e => .fail e buffer

/-- What a call does to a buffer, by the size that the buffer declares. -/
inductive Taking (order : ByteOrder) (buffer : Bytes) :
    Step Bytes FrameError (Option Message) → Prop
  /-- Some of the message is missing, and nothing is taken. -/
  | incomplete : buffer.length < declaredSize order buffer →
      Taking order buffer (.done none buffer)
  /-- The header declares less than itself, and nothing is taken. -/
  | invalid : Header.headerSize ≤ buffer.length →
      declaredSize order buffer < Header.headerSize →
      Taking order buffer
        (.fail (.invalidSize (UInt16.ofNat (declaredSize order buffer))) buffer)
  /-- Just the bytes of the message are taken, and its payload is those behind the header. -/
  | message (header : Header) (removed rest : Bytes) : buffer = removed ++ rest →
      removed.length = declaredSize order buffer → Header.headerSize ≤ removed.length →
      header.size.toNat = removed.length → Header.decode removed order = .ok header →
      Taking order buffer
        (.done (some (.framed header (removed.drop Header.headerSize) [] order)) rest)

theorem taking_take (order : ByteOrder) (buffer : Bytes) :
    Taking order buffer (take order buffer) := by
  rcases Nat.lt_or_ge buffer.length Header.headerSize with hshort | hlong
  · have hdeclared : declaredSize order buffer = Header.headerSize := if_pos hshort
    rw [take, decode, if_pos hshort]
    refine .incomplete ?_
    rw [hdeclared]
    exact hshort
  rcases Nat.lt_or_ge (declaredSize order buffer) Header.headerSize with hsmall | hsize
  · rw [take, decode_of_invalid (decode_of_declaredSize_lt hlong hsmall) hlong]
    exact .invalid hlong hsmall
  obtain ⟨header, hheader, hdeclared⟩ := decode_of_le_declaredSize hlong hsize
  rcases Nat.lt_or_ge buffer.length header.size.toNat with hpart | hall
  · have hincomplete : decode order buffer = .incomplete := by
      rw [decode, if_neg (Nat.not_lt.mpr hlong), hheader]
      exact if_pos hpart
    rw [take, hincomplete]
    refine .incomplete ?_
    rw [← hdeclared]
    exact hpart
  · have hremoved : (buffer.take header.size.toNat).length = header.size.toNat :=
      List.length_take_of_le hall
    have hfront : Header.headerSize ≤ (buffer.take header.size.toNat).length := by
      rw [hremoved, hdeclared]
      exact hsize
    have hdecode := Header.decode_append order (buffer.drop header.size.toNat) hfront
    rw [List.take_append_drop, hheader] at hdecode
    have hbody : (buffer.drop Header.headerSize).take header.payloadLen =
        (buffer.take header.size.toNat).drop Header.headerSize := List.drop_take.symm
    rw [take, decode_of_message hheader hlong hall, hbody]
    exact .message header _ _ (List.take_append_drop _ _).symm (hremoved.trans hdeclared) hfront
      hremoved.symm hdecode.symm

theorem take_of_message {order : ByteOrder} {buffer rest : Bytes} {m : Message}
    (h : decode order buffer = .message m rest) : take order buffer = .done (some m) rest := by
  rw [take, h]

theorem take_of_invalid {order : ByteOrder} {buffer : Bytes} {e : FrameError}
    (h : decode order buffer = .invalid e) : take order buffer = .fail e buffer := by
  rw [take, h]

theorem take_of_incomplete {order : ByteOrder} {buffer : Bytes}
    (h : decode order buffer = .incomplete) : take order buffer = .done none buffer := by
  rw [take, h]

end Framing

structure Intake where
  buffer : Bytes := []
  messages : List Message := []
  /-- The first error that a call reported. -/
  error? : Option FrameError := none

inductive Arrival where
  | push (bytes : Bytes)
  /-- A message is taken, if there is one. -/
  | call

def Arrival.bytes : Arrival → Bytes
  | .push bytes => bytes
  | .call => []

namespace Intake

def push (t : Intake) (bytes : Bytes) : Intake := { t with buffer := t.buffer ++ bytes }

def call (order : ByteOrder) (t : Intake) : Intake :=
  let step := Framing.take order t.buffer
  match step.result with
  | .ok none => { t with buffer := step.state }
  | .ok (some m) => { t with buffer := step.state, messages := t.messages ++ [m] }
  | .error e => { t with buffer := step.state, error? := t.error?.or (some e) }

def step (order : ByteOrder) (t : Intake) : Arrival → Intake
  | .push bytes => t.push bytes
  | .call => t.call order

def run (order : ByteOrder) (t : Intake) (arrivals : List Arrival) : Intake :=
  arrivals.foldl (step order) t

theorem length_take_lt {order : ByteOrder} {buffer : Bytes} {m : Message}
    (h : (Framing.take order buffer).result = .ok (some m)) :
    (Framing.take order buffer).state.length < buffer.length := by
  cases hdecode : Framing.decode order buffer with
  | incomplete =>
    rw [Framing.take_of_incomplete hdecode] at h
    cases h
  | message m rest =>
    rw [Framing.take_of_message hdecode]
    exact Framing.length_rest_lt hdecode
  | invalid e =>
    rw [Framing.take_of_invalid hdecode] at h
    cases h

/-- Calls until one takes no message. -/
def drain (order : ByteOrder) (t : Intake) : Intake :=
  match _htake : (Framing.take order t.buffer).result with
  | .ok (some _) => drain order (t.call order)
  | _ => t.call order
termination_by t.buffer.length
decreasing_by
  simp only [call, _htake]
  exact length_take_lt _htake

section

variable {order : ByteOrder} {t : Intake}

theorem call_of_incomplete (h : Framing.decode order t.buffer = .incomplete) :
    t.call order = t := by
  rw [call, Framing.take_of_incomplete h]
  rfl

theorem call_of_message {m : Message} {rest : Bytes}
    (h : Framing.decode order t.buffer = .message m rest) :
    t.call order = { t with buffer := rest, messages := t.messages ++ [m] } := by
  rw [call, Framing.take_of_message h]
  rfl

theorem call_of_invalid {e : FrameError} (h : Framing.decode order t.buffer = .invalid e) :
    t.call order = { t with error? := t.error?.or (some e) } := by
  rw [call, Framing.take_of_invalid h]
  rfl

theorem drain_of_message {m : Message} {rest : Bytes}
    (h : Framing.decode order t.buffer = .message m rest) :
    t.drain order = (t.call order).drain order := by
  have htake : (Framing.take order t.buffer).result = .ok (some m) := by
    rw [Framing.take_of_message h]
    rfl
  rw [drain]
  split
  · rfl
  · rename_i hnone
    exact absurd htake (hnone m)

theorem drain_of_no_message (h : ∀ m rest, Framing.decode order t.buffer ≠ .message m rest) :
    t.drain order = t.call order := by
  rw [drain]
  split
  · rename_i m htake
    cases hdecode : Framing.decode order t.buffer with
    | incomplete =>
      rw [Framing.take_of_incomplete hdecode] at htake
      cases htake
    | message m rest => exact absurd hdecode (h m rest)
    | invalid e =>
      rw [Framing.take_of_invalid hdecode] at htake
      cases htake
  · rfl

theorem drain_of_invalid {e : FrameError} (h : Framing.decode order t.buffer = .invalid e) :
    t.drain order = { t with error? := t.error?.or (some e) } := by
  have hnone : ∀ m rest, Framing.decode order t.buffer ≠ .message m rest := by
    intro m rest hmessage
    cases hmessage.symm.trans h
  rw [drain_of_no_message hnone, call_of_invalid h]

end

theorem push_push (t : Intake) (bytes more : Bytes) :
    (t.push bytes).push more = t.push (bytes ++ more) := by
  simp only [push, List.append_assoc]

/-- A call that is made before more bytes arrive is made again when all is drained. -/
theorem drain_push_call (order : ByteOrder) (t : Intake) (more : Bytes) :
    ((t.call order).push more).drain order = (t.push more).drain order := by
  cases hdecode : Framing.decode order t.buffer with
  | incomplete => rw [call_of_incomplete hdecode]
  | message m rest =>
    have hlater : Framing.decode order (t.push more).buffer = .message m (rest ++ more) :=
      Framing.decode_append_of_message hdecode more
    rw [drain_of_message hlater, call_of_message hlater, call_of_message hdecode]
    rfl
  | invalid e =>
    have hlater : Framing.decode order (t.push more).buffer = .invalid e :=
      Framing.decode_append_of_invalid hdecode more
    have hcall : (t.call order).push more =
        { t.push more with error? := t.error?.or (some e) } := by
      rw [call_of_invalid hdecode]
      rfl
    -- The same error is met again, and the first one is kept.
    have hagain : Framing.decode order ((t.call order).push more).buffer = .invalid e := by
      rw [hcall]
      exact hlater
    rw [drain_of_invalid hagain, drain_of_invalid hlater, hcall]
    have hfirst : (t.error?.or (some e)).or (some e) = t.error?.or (some e) := by
      cases t.error? <;> rfl
    simp only [hfirst]
    rfl

/-- Whatever calls are made between the arrivals, draining ends as if all bytes had come first. -/
theorem drain_run (order : ByteOrder) (arrivals : List Arrival) (t : Intake) :
    (run order t arrivals).drain order = (t.push (arrivals.flatMap Arrival.bytes)).drain order := by
  induction arrivals generalizing t with
  | nil =>
    have hnothing : t.push [] = t := by simp only [push, List.append_nil]
    rw [List.flatMap_nil, hnothing]
    rfl
  | cons arrival arrivals ih =>
    have hrest : (run order t (arrival :: arrivals)).drain order =
        ((step order t arrival).push (arrivals.flatMap Arrival.bytes)).drain order := ih _
    rw [hrest, List.flatMap_cons]
    cases arrival with
    | push bytes => exact congrArg (drain order) (push_push t bytes _)
    | call => exact drain_push_call order t _

/-- However the bytes are cut into arrivals and whenever the buffer is looked at in between, the
messages, the first error and the bytes that are left in the end are those of a buffer that is
drained when everything is there. A call takes all of a message or nothing. -/
theorem drain_arrivals (order : ByteOrder) (arrivals : List Arrival) :
    (run order {} arrivals).drain order =
      drain order { buffer := arrivals.flatMap Arrival.bytes } ∧
    ∀ buffer, Framing.Taking order buffer (Framing.take order buffer) :=
  ⟨drain_run order arrivals {}, Framing.taking_take order⟩

end Intake

end FramedWire
