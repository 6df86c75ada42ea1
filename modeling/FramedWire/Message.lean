import FramedWire.Arg
import FramedWire.CodecError
import FramedWire.Header
import FramedWire.Signature
import FramedWire.Text.Characters

/-!
# Messages and reading their arguments

A framed message: its header, a payload that is read from front to back, and the queue of
descriptors that arrived with it. Every read is a step: whether it succeeds or fails, it
leaves the message with what it has not consumed. A step that fails closes the descriptors
it had already taken for the value it was reading.
-/
namespace FramedWire

structure Message where
  header : Header
  order : ByteOrder
  /-- The payload not yet read. -/
  payload : Bytes
  /-- The descriptors not yet handed out. -/
  queue : List Descriptor
  /-- How many descriptors were handed out. -/
  handedOut : Nat := 0
  deriving DecidableEq, Repr

/-- A read of a message. -/
abbrev Reading (α : Type) := Step Message CodecError α

namespace Message

def framed (header : Header) (payload : Bytes) (queue : List Descriptor) (order : ByteOrder) :
    Message :=
  { header, order, payload, queue }

/-- A word, whose four bytes must be there. -/
def readUint (m : Message) : Reading UInt32 :=
  match m.payload with
  | a :: b :: c :: d :: rest =>
    .done (m.order.decode [a, b, c, d]) { m with payload := rest }
  | short => .fail (.truncated 4 short.length) m

def readInt (m : Message) : Reading Int32 := m.readUint.map UInt32.toInt32

def readFixed (m : Message) : Reading Fixed := m.readInt.map Fixed.mk

/-- The next `len` bytes, and the padding behind them, which may hold anything. -/
def splitPadded (m : Message) (len : Nat) : Reading Bytes :=
  let padded := len + Bytes.padding len
  if m.payload.length < padded then .fail (.truncated padded m.payload.length) m
  else .done (m.payload.take len) { m with payload := m.payload.drop padded }

/-- A length, so many bytes of which the last is zero, and padding. The terminator is
looked at before the padding has to be there, and the text last of all. -/
def readString (m : Message) : Reading String :=
  match m.readUint with
  | { result := .error e, state := m, closed := _ } => .fail e m
  | { result := .ok word, state := m, closed := _ } =>
    let len := word.toNat
    if len = 0 then .fail .zeroLengthString m
    else if m.payload.length < len then .fail (.truncated len m.payload.length) m
    else if m.payload[len - 1]? ≠ some 0 then .fail .malformedString m
    else
      match m.splitPadded len with
      | { result := .error e, state := m, closed := _ } => .fail e m
      | { result := .ok field, state := m, closed := _ } =>
        match Text.ofUtf8? (field.take (len - 1)) with
        | some text => .done text m
        | none => .fail .invalidUtf8 m

/-- A length, so many bytes, and padding. -/
def readArray (m : Message) : Reading Bytes :=
  match m.readUint with
  | { result := .error e, state := m, closed := _ } => .fail e m
  | { result := .ok word, state := m, closed := _ } => m.splitPadded word.toNat

def readNewId (m : Message) : Reading NewId :=
  match m.readString with
  | { result := .error e, state := m, closed := _ } => .fail e m
  | { result := .ok interface, state := m, closed := _ } => m.readUint.map (NewId.mk interface)

/-- Hand the next descriptor to the caller. -/
def takeFd (m : Message) : Reading Descriptor :=
  match m.queue with
  | [] => .fail (.descriptorUnderflow m.handedOut) m
  | d :: queue => .done d { m with queue, handedOut := m.handedOut + 1 }

/-- Read `count` items. If one cannot be read, those before it are released with the
descriptors they own. -/
def readMany {α : Type} (item : Message → Reading α) (owned : α → List Descriptor) :
    (count : Nat) → Message → Reading (List α)
  | 0, m => .done [] m
  | count + 1, m =>
    match item m with
    | { result := .error e, state := m, closed := ds } =>
      { result := .error e, state := m, closed := ds }
    | { result := .ok a, state := m, closed := ds } =>
      match readMany item owned count m with
      | { result := .error e, state := m, closed := ds' } =>
        { result := .error e, state := m, closed := ds ++ owned a ++ ds' }
      | { result := .ok as, state := m, closed := ds' } =>
        { result := .ok (a :: as), state := m, closed := ds ++ ds' }

/-- Read one argument of a type. -/
def decodeArg : ArgType → Message → Reading Arg
  | .int, m => m.readInt.map .int
  | .uint, m => m.readUint.map .uint
  | .fixed, m => m.readFixed.map .fixed
  | .string, m => m.readString.map .string
  | .array, m => m.readArray.map .array
  | .newId, m => m.readNewId.map .newId
  | .fd, m => m.takeFd.map .fd
  | .sequence element, m =>
    match m.readUint with
    | { result := .error e, state := m, closed := _ } => .fail e m
    | { result := .ok count, state := m, closed := _ } =>
      (readMany (decodeArg element) Arg.descriptors count.toNat m).map .sequence

/-- Read one argument per entry of a signature: all of them or none. -/
def decodeArgs (sig : Signature) (m : Message) : Reading (List Arg) :=
  Step.collect Arg.descriptors decodeArg sig m

/-- Check that everything was read. Descriptors that are left over are closed either way. -/
def finish (m : Message) : Ended CodecError Unit :=
  if m.payload ≠ [] then ⟨.error (.trailingBytes m.payload.length), m.queue⟩
  else if m.queue ≠ [] then ⟨.error (.trailingDescriptors m.queue.length), m.queue⟩
  else ⟨.ok (), []⟩

/-- Give the message up; its descriptors are closed. -/
def drop (m : Message) : List Descriptor := m.queue

/-- Hand all remaining descriptors to the caller. -/
def takeRemainingFds (m : Message) : List Descriptor × Message :=
  (m.queue, { m with queue := [], handedOut := m.handedOut + m.queue.length })

/-- The message's fields in one line. -/
def describe (m : Message) : String :=
  "Message \x7b sender: " ++ toString m.header.sender.toNat ++
    ", opcode: " ++ toString m.header.opcode.toNat ++
    ", size: " ++ toString m.header.size.toNat ++
    ", remaining: " ++ toString m.payload.length ++
    ", fds: " ++ toString m.queue.length ++
    ", fd_index: " ++ toString m.handedOut ++ " \x7d"

end Message

end FramedWire
