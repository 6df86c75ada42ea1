import FramedWire.Framing
import FramedWire.Report

/-!
# Dumps

Recorded messages, one directly behind the other, without a stream and so without
descriptors. A dump is reported as a whole or not at all: the first message that is cut
off, malformed or no match for the signature decides.
-/
namespace FramedWire

namespace Dump

/-- The reports of all messages in `bytes`. -/
def reports (order : ByteOrder) (sig? : Option Signature) (bytes : Bytes) :
    Except CommandError (List Report) :=
  if bytes = [] then .ok []
  else
    match _hfront : Framing.decode order bytes with
    | .invalid e => .error (.ofFrame "decode failed" e)
    | .incomplete =>
      .error (.ofFrame "decode failed"
        (.truncated (Framing.declaredSize order bytes) bytes.length))
    | .message m rest =>
      match (Report.ofMessage m sig?).result with
      | .error e => .error e
      | .ok report => (reports order sig? rest).map (report :: ·)
termination_by bytes.length
decreasing_by exact Framing.length_rest_lt _hfront

/-- The reports of the messages that `text` holds in hexadecimal. -/
def ofHex (order : ByteOrder) (sig? : Option Signature) (text : String) :
    Except CommandError (List Report) :=
  match Text.decodeHex text with
  | .error e => .error (.usage e.message)
  | .ok bytes => reports order sig? bytes

end Dump

end FramedWire
