import FramedWire.FrameError
import FramedWire.Signature

/-!
# Exit codes

How a command that fails ends: with a code that tells what kind of failure it was, and a
message that begins with what was being done.
-/
namespace FramedWire

namespace ExitCode

def success : Nat := 0
def failure : Nat := 1
def transport : Nat := 3
def permissionDenied : Nat := 50
def dataInvalid : Nat := 60
def usage : Nat := 64
def timeout : Nat := 124
def internal : Nat := 125

end ExitCode

structure CommandError where
  code : Nat
  message : String
  deriving DecidableEq, Repr

namespace CommandError

def usage (message : String) : CommandError := ⟨ExitCode.usage, message⟩

/-- A failure while doing what `context` says. -/
def within (code : Nat) (context detail : String) : CommandError :=
  ⟨code, context ++ ": " ++ detail⟩

def ofIo (context : String) (e : IoError) : CommandError :=
  let code :=
    match e.kind with
    | .permissionDenied => ExitCode.permissionDenied
    | .timedOut | .wouldBlock => ExitCode.timeout
    | .connectionRefused | .notFound => ExitCode.failure
    | _ => ExitCode.internal
  within code context e.message

/-- An error that has a cause is reported by that cause alone. -/
def ofTransport (context : String) (e : TransportError) : CommandError :=
  match e with
  | .bind _ source | .connect _ source | .accept source | .io source
  | .receive (some source) none => ofIo context source
  | .pathTooLong .. => within ExitCode.usage context e.message
  | _ => within ExitCode.transport context e.message

/-- A value of the wrong type is this program's fault, and all else that of the data. -/
def ofCodec (context : String) (e : CodecError) : CommandError :=
  within (if e.isTypeContract then ExitCode.internal else ExitCode.dataInvalid) context e.message

def ofFrame (context : String) (e : FrameError) : CommandError :=
  match e with
  | .io source => ofIo context source
  | .transport inner => ofTransport context inner
  | .codec inner => ofCodec context inner
  | .connectionClosed => within ExitCode.failure context e.message
  | .truncated .. | .invalidSize _ | .messageTooLarge .. | .control _ =>
    within ExitCode.dataInvalid context e.message

def ofSignature (e : SignatureError) : CommandError := usage ("invalid signature: " ++ e.message)

end CommandError

end FramedWire
