import FramedWire.Builder

/-!
# Typed arguments

A type with one wire representation is read and written without naming its tag. The
instances cover the wire types one by one, and lists of any of them. `ArgType.Carrier`
is the type that a tag stands for, so that a tag known only at run time selects an
instance.
-/
namespace FramedWire

/-- A type with a fixed wire representation. -/
class WireValue (α : Type) where
  /-- The tag that the type encodes as. -/
  wireType : ArgType
  decode : Message → Reading α
  encode : α → Builder → Writing
  toArg : α → Arg
  /-- The descriptors a value owns. -/
  owned : α → List Descriptor

namespace WireValue

instance : WireValue Int32 where
  wireType := .int
  decode := Message.readInt
  encode v b := .done () (b.putInt v)
  toArg := .int
  owned _ := []

instance : WireValue UInt32 where
  wireType := .uint
  decode := Message.readUint
  encode v b := .done () (b.putUint v)
  toArg := .uint
  owned _ := []

instance : WireValue Fixed where
  wireType := .fixed
  decode := Message.readFixed
  encode v b := .done () (b.putFixed v)
  toArg := .fixed
  owned _ := []

instance : WireValue String where
  wireType := .string
  decode := Message.readString
  encode v b := b.putString v
  toArg := .string
  owned _ := []

instance : WireValue Bytes where
  wireType := .array
  decode := Message.readArray
  encode v b := b.putArray v
  toArg := .array
  owned _ := []

instance : WireValue NewId where
  wireType := .newId
  decode := Message.readNewId
  encode v b := b.putNewId v
  toArg := .newId
  owned _ := []

instance : WireValue Descriptor where
  wireType := .fd
  decode := Message.takeFd
  encode v b := .done () (b.pushFd v)
  toArg := .fd
  owned v := [v]

section List

variable {α : Type} [WireValue α]

/-- Values one after the other; when one cannot be written, those behind it are released. -/
def encodeItems : List α → Builder → Writing
  | [], b => .done () b
  | v :: vs, b =>
    match encode v b with
    | { result := .error e, state := b, closed := ds } =>
      { result := .error e, state := b, closed := ds ++ vs.flatMap owned }
    | { result := .ok (), state := b, closed := ds } => (encodeItems vs b).closing ds

def decodeList (m : Message) : Reading (List α) :=
  match m.readUint with
  | { result := .error e, state := m, closed := _ } => .fail e m
  | { result := .ok count, state := m, closed := _ } =>
    Message.readMany decode owned count.toNat m

def encodeList (vs : List α) (b : Builder) : Writing :=
  match b.putCount vs.length with
  | { result := .error e, state := b, closed := _ } =>
    { result := .error e, state := b, closed := vs.flatMap owned }
  | { result := .ok (), state := b, closed := _ } => encodeItems vs b

instance : WireValue (List α) where
  wireType := .sequence (wireType α)
  decode := decodeList
  encode := encodeList
  toArg vs := .sequence (vs.map toArg)
  owned vs := vs.flatMap owned

end List

end WireValue

/-- The type of the values that a tag stands for. -/
abbrev ArgType.Carrier : ArgType → Type
  | .int => Int32
  | .uint => UInt32
  | .fixed => Fixed
  | .string => String
  | .array => Bytes
  | .newId => NewId
  | .fd => Descriptor
  | .sequence element => List element.Carrier

namespace WireValue

instance ofTag : (ty : ArgType) → WireValue ty.Carrier
  | .int => inferInstanceAs (WireValue Int32)
  | .uint => inferInstanceAs (WireValue UInt32)
  | .fixed => inferInstanceAs (WireValue Fixed)
  | .string => inferInstanceAs (WireValue String)
  | .array => inferInstanceAs (WireValue Bytes)
  | .newId => inferInstanceAs (WireValue NewId)
  | .fd => inferInstanceAs (WireValue Descriptor)
  | .sequence element =>
    letI := ofTag element
    inferInstanceAs (WireValue (List element.Carrier))

/-- The value of type `ty` that an argument embeds, if it is one. -/
def ofArg? : (ty : ArgType) → Arg → Option ty.Carrier
  | .int, .int v => some v
  | .uint, .uint v => some v
  | .fixed, .fixed v => some v
  | .string, .string v => some v
  | .array, .array v => some v
  | .newId, .newId v => some v
  | .fd, .fd v => some v
  | .sequence element, .sequence items => items.mapM (ofArg? element)
  | _, _ => none

end WireValue

namespace Message

/-- Read the next argument as a value of type `α`. -/
def decode (α : Type) [WireValue α] (m : Message) : Reading α := WireValue.decode m

end Message

namespace Builder

/-- Append a value of type `α`. -/
def put {α : Type} [WireValue α] (b : Builder) (value : α) : Writing :=
  b.append (WireValue.encode value)

end Builder

end FramedWire
