import FramedWire.Message

/-!
# Framing

How a byte stream is cut into messages. `Framing.decode` takes one message off the front
of a buffer, if all of it is there; the readers and writers of streams share its rules
through `FrameConfig`.
-/
namespace FramedWire

structure FrameConfig where
  order : ByteOrder := .native
  maxMessageSize : Nat := Header.maxMessageSize
  /-- How many descriptors each receive has room for. -/
  maxFdsPerRead : Nat := Control.maxRights
  deriving DecidableEq, Repr

namespace FrameConfig

/-- Sixteen bits of size are a ceiling for any configuration. -/
def sizeLimit (config : FrameConfig) : Nat := min config.maxMessageSize Header.maxMessageSize

end FrameConfig

namespace Framing

/-- What is found at the front of a buffer. -/
inductive Front where
  /-- More bytes are needed to tell, and the buffer stays as it is. -/
  | incomplete
  | message (m : Message) (rest : Bytes)
  | invalid (e : FrameError)

/-- The message at the front of `buffer`; it has no descriptors. -/
def decode (order : ByteOrder) (buffer : Bytes) : Front :=
  if buffer.length < Header.headerSize then .incomplete
  else
    match Header.decode buffer order with
    | .error e => .invalid e
    | .ok header =>
      if buffer.length < header.size.toNat then .incomplete
      else
        let body := buffer.drop Header.headerSize
        .message (.framed header (body.take header.payloadLen) [] order)
          (body.drop header.payloadLen)

/-- What follows a message is shorter than what begins with it. -/
theorem length_rest_lt {order : ByteOrder} {buffer rest : Bytes} {m : Message}
    (h : decode order buffer = .message m rest) : rest.length < buffer.length := by
  unfold decode at h
  split at h
  · cases h
  · rename_i hheader
    split at h
    · cases h
    · split at h
      · cases h
      · cases h
        simp only [List.length_drop, Header.headerSize] at hheader ⊢
        omega

/-- The size that the header at the front of `buffer` declares, or that of a header if it
is not all there. -/
def declaredSize (order : ByteOrder) (buffer : Bytes) : Nat :=
  if buffer.length < Header.headerSize then Header.headerSize
  else (Header.unpackWord (order.decode ((buffer.drop 4).take 4))).1.toNat

def checkSize (header : Header) (limit : Nat) : Except FrameError Unit :=
  if limit < header.size.toNat then .error (.messageTooLarge header.size.toNat limit)
  else .ok ()

/-- The header in the first eight bytes of `bytes`, of a message that the configuration
admits. -/
def admittedHeader (config : FrameConfig) (bytes : Bytes) : Except FrameError Header :=
  match Header.decode bytes config.order with
  | .error e => .error e
  | .ok header => (checkSize header config.sizeLimit).map fun _ => header

end Framing

end FramedWire
