import FramedWire.ArgText
import FramedWire.Listener
import FramedWire.Sink.Layers
import FramedWire.Writer

/-!
# Sending one message

One message, typed in as text, goes to the listener at a path. The arguments are read before
anything is connected, so a mistake in them shows first.
-/
namespace FramedWire

/-- A message as it is typed in. -/
structure MessageText where
  sender : UInt32
  opcode : UInt16
  signature : String
  values : List String

namespace MessageText

/-- The message made of `args`. -/
def build (t : MessageText) (order : ByteOrder) (sig : Signature) (args : List Arg) :
    Ended CommandError Outgoing :=
  let put := (Builder.start t.sender t.opcode order).putArgs sig args
  match put.result with
  | .error e => ⟨.error (.ofCodec "encode failed" e), put.closed ++ put.state.queue⟩
  | .ok () =>
    let ended := put.state.finish
    ⟨ended.result.mapError (.ofCodec "encode failed"), put.closed ++ ended.closed⟩

/-- The lowest number a file gets that is opened for an argument. -/
def firstDescriptor : Nat := 3

/-- Send the message to the listener at `path`. The result is the connection, of which the
left end has sent. -/
def send (t : MessageText) (order : ByteOrder) (path : String) (fs : FileSystem) :
    Ended CommandError SocketPair :=
  match Signature.parse t.signature with
  | .error e => ⟨.error (.ofSignature e), []⟩
  | .ok sig =>
    let made := ArgText.parseAll fs.openFile sig t.values firstDescriptor
    match made.result with
    | .error e => ⟨.error e, made.closed⟩
    | .ok args =>
      match Listener.connect path fs with
      | .error e =>
        ⟨.error (.ofTransport "connect failed" e), made.closed ++ Arg.descriptorsAll args⟩
      | .ok pair =>
        let built := t.build order sig args
        let closed := made.closed ++ built.closed
        match built.result with
        | .error e => ⟨.error e, closed⟩
        | .ok message =>
          let step := Writer.send (SocketPair.sink .left).blocking { order } message pair
          ⟨(step.result.map fun () => step.state).mapError (.ofFrame "send failed"),
            closed ++ step.closed⟩

end MessageText

end FramedWire
