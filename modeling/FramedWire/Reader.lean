import FramedWire.Framing
import FramedWire.Source

/-!
# Reading messages from a stream

One call reads exactly one message: the header in two pieces, then the payload, then the
descriptors that came with any of these receives. Nothing is read ahead, so what belongs
to the next message stays in the stream. When no message can be made of what arrived, its
descriptors are closed.

`Reader` blocks: it makes an interrupted receive again itself and always has room for a
descriptor. `PolledReader` drives a stream that waits and repeats on its own, so every
failure it meets is final.
-/
namespace FramedWire

namespace Framing

/-- What came of reading some part of a message. -/
structure Envelope (σ α : Type) where
  state : σ
  control : Bytes
  outcome : Except FrameError α

section

variable {σ : Type} (fill : (room : Nat) → σ → Filled σ)

/-- Read a header with `fill`, which reads as many bytes as it is told unless the stream
ends. -/
def readHeader (config : FrameConfig) (s : σ) : Envelope σ Header :=
  match fill 4 s with
  | ⟨s, c₁, .error e⟩ => ⟨s, c₁, .error (.ofRead e)⟩
  | ⟨s, c₁, .ok first⟩ =>
    if first.length = 0 then ⟨s, c₁, .error .connectionClosed⟩
    else if first.length < 4 then ⟨s, c₁, .error (.truncated Header.headerSize first.length)⟩
    else
      match fill 4 s with
      | ⟨s, c₂, .error e⟩ => ⟨s, c₁ ++ c₂, .error (.ofRead e)⟩
      | ⟨s, c₂, .ok second⟩ =>
        if second.length < 4 then
          ⟨s, c₁ ++ c₂, .error (.truncated Header.headerSize (4 + second.length))⟩
        else ⟨s, c₁ ++ c₂, admittedHeader config (first ++ second)⟩

/-- Read the payload that a header announces. -/
def readPayload (header : Header) (s : σ) : Envelope σ (Header × Bytes) :=
  match fill header.payloadLen s with
  | ⟨s, c, .error e⟩ => ⟨s, c, .error (.ofRead e)⟩
  | ⟨s, c, .ok payload⟩ =>
    if payload.length < header.payloadLen then
      ⟨s, c, .error (.truncated header.size.toNat (Header.headerSize + payload.length))⟩
    else ⟨s, c, .ok (header, payload)⟩

/-- Read the bytes of one message. -/
def readEnvelope (config : FrameConfig) (s : σ) : Envelope σ (Header × Bytes) :=
  match readHeader fill config s with
  | ⟨s, c, .error e⟩ => ⟨s, c, .error e⟩
  | ⟨s, c, .ok header⟩ =>
    let body := readPayload fill header s
    { body with control := c ++ body.control }

end

/-- Give a message the descriptors that came with it, or close them if there is none. -/
def finishEnvelope {σ : Type} (config : FrameConfig) (e : Envelope σ (Header × Bytes)) :
    Step σ FrameError Message :=
  match e.outcome with
  | .error err => { result := .error err, state := e.state, closed := Control.close e.control }
  | .ok (header, payload) =>
    match Control.take e.control with
    | .error err =>
      { result := .error (.control err), state := e.state, closed := Control.close e.control }
    | .ok queue => .done (.framed header payload queue config.order) e.state

end Framing

namespace Reader

variable {σ : Type}

/-- Room for descriptors is never less than one. -/
def roomForFds (config : FrameConfig) : Nat := max config.maxFdsPerRead 1

/-- Read the next message. -/
def readMessage (src : Source σ) (config : FrameConfig) (s : σ) : Step σ FrameError Message :=
  Framing.finishEnvelope config
    (Framing.readEnvelope (src.fill (roomForFds config)) config s)

end Reader

namespace PolledReader

variable {σ : Type}

/-- Read the next message. -/
def readMessage (src : Source σ) (config : FrameConfig) (s : σ) : Step σ FrameError Message :=
  Framing.finishEnvelope config
    (Framing.readEnvelope (src.fillOnce config.maxFdsPerRead) config s)

end PolledReader

end FramedWire
