import FramedWire.Arg.Shape
import FramedWire.Message

/-!
# Building messages

A message under construction: a payload to which arguments are appended, and the queue of
descriptors that will travel with it. `Builder.append` makes a write atomic by cutting
the payload and the queue back to where they were when it fails.
-/
namespace FramedWire

structure Builder where
  sender : UInt32
  opcode : UInt16
  order : ByteOrder
  payload : Bytes := []
  queue : List Descriptor := []
  deriving DecidableEq, Repr

/-- A write to a message under construction. -/
abbrev Writing := Step Builder CodecError Unit

/-- An encoded message and the descriptors to send beside it. -/
structure Outgoing where
  header : Header
  order : ByteOrder
  /-- The header and the payload as they travel. -/
  bytes : Bytes
  descriptors : List Descriptor
  deriving DecidableEq, Repr

namespace Outgoing

def payload (m : Outgoing) : Bytes := m.bytes.drop Header.headerSize

/-- The same message as it would be received. -/
def toMessage (m : Outgoing) : Message :=
  .framed m.header m.payload m.descriptors m.order

end Outgoing

namespace Builder

/-- An empty message in a given byte order. -/
def start (sender : UInt32) (opcode : UInt16) (order : ByteOrder) : Builder :=
  { sender, opcode, order }

def payloadLen (b : Builder) : Nat := b.payload.length

def putBytes (b : Builder) (bs : Bytes) : Builder := { b with payload := b.payload ++ bs }

def putUint (b : Builder) (value : UInt32) : Builder := b.putBytes (b.order.encode value)

def putInt (b : Builder) (value : Int32) : Builder := b.putUint value.toUInt32

def putFixed (b : Builder) (value : Fixed) : Builder := b.putInt value.bits

/-- Queue a descriptor; it travels with the message. -/
def pushFd (b : Builder) (d : Descriptor) : Builder := { b with queue := b.queue ++ [d] }

/-- A length or count as a word, if it fits. -/
def putLen (b : Builder) (len : Nat) : Writing :=
  if len < UInt32.size then .done () (b.putUint (UInt32.ofNat len))
  else .fail (.lengthOverflow len) b

/-- A field of bytes behind a length: the bytes and zeros as padding. -/
def putField (b : Builder) (field : Bytes) : Writing :=
  match b.putLen field.length with
  | { result := .error e, state := b, closed := _ } => .fail e b
  | { result := .ok (), state := b, closed := _ } =>
    .done () (b.putBytes (field ++ Bytes.zeros (Bytes.padding field.length)))

/-- A string's length counts the zero byte that ends it. -/
def putString (b : Builder) (text : String) : Writing := b.putField (Text.utf8 text ++ [0])

def putArray (b : Builder) (bytes : Bytes) : Writing := b.putField bytes

/-- The number of elements of a sequence. -/
def putCount (b : Builder) (count : Nat) : Writing := b.putLen count

def putNewId (b : Builder) (id : NewId) : Writing :=
  match b.putString id.interface with
  | { result := .error e, state := b, closed := _ } => .fail e b
  | { result := .ok (), state := b, closed := _ } => .done () (b.putUint id.version)

mutual

/-- Write an argument as it is. When a part of it cannot be written, what is left of the
argument is released. -/
def write : Arg → Builder → Writing
  | .int v, b => .done () (b.putInt v)
  | .uint v, b => .done () (b.putUint v)
  | .fixed v, b => .done () (b.putFixed v)
  | .string v, b => b.putString v
  | .array v, b => b.putArray v
  | .newId v, b => b.putNewId v
  | .fd d, b => .done () (b.pushFd d)
  | .sequence items, b =>
    match b.putCount items.length with
    | { result := .error e, state := b, closed := _ } =>
      { result := .error e, state := b, closed := Arg.descriptorsAll items }
    | { result := .ok (), state := b, closed := _ } => writeAll items b

def writeAll : List Arg → Builder → Writing
  | [], b => .done () b
  | item :: items, b =>
    match write item b with
    | { result := .error e, state := b, closed := ds } =>
      { result := .error e, state := b, closed := ds ++ Arg.descriptorsAll items }
    | { result := .ok (), state := b, closed := ds } => (writeAll items b).closing ds

end

/-- Run a write. If it fails, the payload and the queue are cut back, and the descriptors
that were queued meanwhile are closed. -/
def append (b : Builder) (write : Builder → Writing) : Writing :=
  match write b with
  | { result := .ok (), state := b', closed := ds } =>
    { result := .ok (), state := b', closed := ds }
  | { result := .error e, state := b', closed := ds } =>
    { result := .error e
      state :=
        { b' with
          payload := b'.payload.take b.payload.length
          queue := b'.queue.take b.queue.length }
      closed := b'.queue.drop b.queue.length ++ ds }

/-- Write an argument whose type is nowhere declared. A sequence whose items do not go
together is rejected before anything is written. -/
def encodeArg (arg : Arg) (b : Builder) : Writing :=
  match arg with
  | .sequence _ =>
    match arg.shape with
    | .ok _ => write arg b
    | .error e => { result := .error e, state := b, closed := arg.descriptors }
  | arg => write arg b

def putArg (b : Builder) (arg : Arg) : Writing := b.append (encodeArg arg)

/-- Write an argument of a declared type. -/
def encodeAs (ty : ArgType) (arg : Arg) (b : Builder) : Writing :=
  if arg.conformsTo ty then write arg b
  else { result := .error (.contract ty.text arg), state := b, closed := arg.descriptors }

/-- Write arguments of declared types one after the other. -/
def encodeAllAs : Signature → List Arg → Builder → Writing
  | ty :: sig, arg :: args, b =>
    match encodeAs ty arg b with
    | { result := .error e, state := b, closed := ds } =>
      { result := .error e, state := b, closed := ds ++ Arg.descriptorsAll args }
    | { result := .ok (), state := b, closed := ds } => (encodeAllAs sig args b).closing ds
  | _, args, b => { result := .ok (), state := b, closed := Arg.descriptorsAll args }

/-- The first argument that does not conform to its entry. -/
def firstMismatch? : Signature → List Arg → Option (ArgType × Arg)
  | ty :: sig, arg :: args =>
    if arg.conformsTo ty then firstMismatch? sig args else some (ty, arg)
  | _, _ => none

/-- Append one argument per entry of a signature. All are checked before the first is
written. -/
def putArgs (b : Builder) (sig : Signature) (args : List Arg) : Writing :=
  let reject (e : CodecError) : Writing :=
    { result := .error e, state := b, closed := Arg.descriptorsAll args }
  if sig.length ≠ args.length then
    reject (.typeContract (toString sig.length ++ " arguments (" ++ Signature.text sig ++ ")")
      (toString args.length ++ " arguments"))
  else
    match firstMismatch? sig args with
    | some (ty, arg) => reject (.contract ty.text arg)
    | none => b.append (encodeAllAs sig args)

/-- Put the header in front and seal the message. A builder that is too large is given up
with its descriptors. -/
def finish (b : Builder) : Ended CodecError Outgoing :=
  let size := Header.headerSize + b.payload.length
  if Header.maxMessageSize < size then
    ⟨.error (.messageTooLarge size Header.maxMessageSize), b.queue⟩
  else
    let header : Header := ⟨b.sender, b.opcode, UInt16.ofNat size⟩
    ⟨.ok ⟨header, b.order, header.encode b.order ++ b.payload, b.queue⟩, []⟩

/-- The builder's fields in one line. -/
def describe (b : Builder) : String :=
  "MessageBuilder \x7b sender: " ++ toString b.sender.toNat ++
    ", opcode: " ++ toString b.opcode.toNat ++
    ", payload_len: " ++ toString b.payload.length ++
    ", fds: " ++ toString b.queue.length ++ " \x7d"

end Builder

end FramedWire
