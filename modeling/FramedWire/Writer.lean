import FramedWire.Builder
import FramedWire.Framing
import FramedWire.Sink

/-!
# Writing messages to a stream

A message is sent whole. Its descriptors are offered with every send up to and including
the first that takes a byte, and never again, so a peer that reads message by message
finds them before the payload that refers to them. However sending ends, the sender's
own descriptors are closed.

`Writer` blocks: it tries again whenever that is all a failure asks for, and flushes in
the end. `PolledWriter` drives a sink that waits and repeats on its own.
-/
namespace FramedWire

namespace FrameError

/-- What a failed send means for the message. -/
def ofSend (e : IoError) : FrameError := if e.isHangup then .connectionClosed else .io e

end FrameError

namespace Writer

variable {σ : Type}

/-- Send all of `bytes`, with `pending` attached until a byte is taken. -/
def sendAll (sink : Sink σ) (bytes : Bytes) (pending : List Descriptor) (s : σ) :
    Step σ FrameError Unit :=
  if _hbytes : bytes = [] then .done () s
  else
    let step := sink.send s bytes pending
    match _hres : step.result with
    | .ok 0 => .fail .connectionClosed step.state
    | .ok (n + 1) => sendAll sink (bytes.drop (n + 1)) [] step.state
    | .error e =>
      if _htry : e.isTransient then sendAll sink bytes pending step.state
      else .fail (.ofSend e) step.state
termination_by (bytes.length, sink.patience s)
decreasing_by
  · apply Prod.Lex.left
    have := List.length_pos_iff.mpr _hbytes
    simp only [List.length_drop]
    omega
  · apply Prod.Lex.right
    exact sink.send_patience_lt s bytes pending e _hres _htry

/-- Flush the sink, again and again as long as that is all a failure asks for. -/
def flush (sink : Sink σ) (s : σ) : Step σ FrameError Unit :=
  let step := sink.flush s
  match _hres : step.result with
  | .ok () => .done () step.state
  | .error e =>
    if _htry : e.isTransient then flush sink step.state else .fail (.io e) step.state
termination_by sink.patience s
decreasing_by exact sink.flush_patience_lt s e _hres _htry

/-- A message in the byte order of the writer. -/
def builder (config : FrameConfig) (sender : UInt32) (opcode : UInt16) : Builder :=
  .start sender opcode config.order

/-- Send a message. One that is too large for the configuration is not even begun. -/
def send (sink : Sink σ) (config : FrameConfig) (m : Outgoing) (s : σ) :
    Step σ FrameError Unit :=
  let outcome : Step σ FrameError Unit :=
    match Framing.checkSize m.header config.sizeLimit with
    | .error e => .fail e s
    | .ok () =>
      match sendAll sink m.bytes m.descriptors s with
      | { result := .error e, state := s, closed := _ } => .fail e s
      | { result := .ok (), state := s, closed := _ } => flush sink s
  outcome.closing m.descriptors

end Writer

namespace PolledWriter

variable {σ : Type}

/-- Send all of `bytes`, with `pending` attached until a byte is taken. -/
def sendAll (sink : Sink σ) (bytes : Bytes) (pending : List Descriptor) (s : σ) :
    Step σ FrameError Unit :=
  if _hbytes : bytes = [] then .done () s
  else
    let step := sink.send s bytes pending
    match step.result with
    | .ok 0 => .fail .connectionClosed step.state
    | .ok (n + 1) => sendAll sink (bytes.drop (n + 1)) [] step.state
    | .error e => .fail (.ofSend e) step.state
termination_by bytes.length
decreasing_by
  have := List.length_pos_iff.mpr _hbytes
  simp only [List.length_drop]
  omega

/-- Send a message. One that is too large for the configuration is not even begun. -/
def send (sink : Sink σ) (config : FrameConfig) (m : Outgoing) (s : σ) :
    Step σ FrameError Unit :=
  let outcome : Step σ FrameError Unit :=
    match Framing.checkSize m.header config.sizeLimit with
    | .error e => .fail e s
    | .ok () => sendAll sink m.bytes m.descriptors s
  outcome.closing m.descriptors

end PolledWriter

end FramedWire
