import FramedWire.CodecError
import FramedWire.Control
import FramedWire.TransportError

/-!
# Errors of the framing

What ends a connection: the stream failed, or what it delivered is no sequence of
messages.
-/
namespace FramedWire

inductive FrameError where
  | transport (inner : TransportError)
  | io (inner : IoError)
  /-- The stream ended on a message boundary. -/
  | connectionClosed
  /-- The stream ended within a message. -/
  | truncated (expected received : Nat)
  /-- The header declares a size below its own. -/
  | invalidSize (size : UInt16)
  | messageTooLarge (size max : Nat)
  | control (inner : ControlError)
  | codec (inner : CodecError)

namespace FrameError

def message : FrameError → String
  | .transport inner => "transport error: " ++ inner.message
  | .io inner => "frame I/O error: " ++ inner.message
  | .connectionClosed => "connection closed"
  | .truncated expected received => s!"truncated message ({received} of {expected} bytes)"
  | .invalidSize size => "invalid message size " ++ toString size.toNat ++ " (minimum 8)"
  | .messageTooLarge size max => s!"message too large ({size} bytes, max {max})"
  | .control inner => "control message error: " ++ inner.message
  | .codec inner => "codec error: " ++ inner.message

/-- A failed read, with the transport error it carries brought back to light. -/
def ofRead (e : IoError) : FrameError :=
  match e.transport? with
  | some inner => .transport inner
  | none => .io e

end FrameError

end FramedWire
