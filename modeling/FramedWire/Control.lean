import FramedWire.Descriptor

/-!
# Control records

Beside the bytes of a stream the system delivers control data: a sequence of records,
each a 16-byte header (total length, level, kind), its data, and zero bytes up to the
next multiple of eight. A record of level 1 and kind 1 carries rights: descriptors,
four bytes each.

The data may be cut or malformed anywhere. `Control.walk` yields the records one by one
and at most one error, which comes last. Taking descriptors is all or nothing; closing
them releases what can still be found before the first malformed record.
-/
namespace FramedWire

inductive ControlError where
  /-- A header that contradicts the bytes it stands in. -/
  | malformed (offset len available : Nat)
  /-- The record is well formed and carries no descriptors. -/
  | notRights (level kind : Int32)
  deriving DecidableEq, Repr

namespace ControlError

def message : ControlError → String
  | .malformed offset len available =>
    s!"malformed control message at offset {offset} (length {len}, {available} bytes available)"
  | .notRights level kind =>
    "control message is not SCM_RIGHTS (level " ++ toString level.toInt ++
      ", type " ++ toString kind.toInt ++ ")"

end ControlError

namespace Control

/-- The most descriptors that one record may carry. -/
def maxRights : Nat := 253

def headerLen : Nat := 16

/-- The room a record with `dataLen` bytes of data takes. The system computes it with
32-bit lengths, so it wraps. -/
def spaceForBytes (dataLen : Nat) : Nat :=
  ((dataLen % UInt32.size + 7) / 8 * 8 + headerLen) % UInt32.size

/-- The room for a record of `maxFds` descriptors; the product has 64 bits. -/
def space (maxFds : Nat) : Nat := spaceForBytes (maxFds * 4 % UInt64.size)

structure Record where
  level : Int32
  kind : Int32
  data : Bytes
  deriving DecidableEq, Repr

/-- The descriptors named by four bytes each; an incomplete name at the end is ignored. -/
def descriptors : Bytes → List Descriptor
  | a :: b :: c :: d :: rest => Descriptor.decode [a, b, c, d] :: descriptors rest
  | _ => []

namespace Record

def IsRights (r : Record) : Prop := r.level = 1 ∧ r.kind = 1

instance (r : Record) : Decidable r.IsRights := inferInstanceAs (Decidable (_ ∧ _))

/-- The descriptors of a rights record. -/
def rights (r : Record) : Except ControlError (List Descriptor) :=
  if r.IsRights then .ok (descriptors r.data) else .error (.notRights r.level r.kind)

/-- The descriptors a record carries: none, if it is no rights record. -/
def carried (r : Record) : List Descriptor :=
  if r.IsRights then descriptors r.data else []

def header (len : Nat) (level kind : Int32) : Bytes :=
  Bytes.ofNat 8 len ++ Bytes.ofNat 4 level.toUInt32.toNat ++ Bytes.ofNat 4 kind.toUInt32.toNat

/-- The header, the data and zero bytes up to the room that the record takes. -/
def encode (r : Record) : Bytes :=
  let len := headerLen + r.data.length
  header len r.level r.kind ++ r.data ++ Bytes.zeros (spaceForBytes r.data.length - len)

end Record

/-- The record that carries `ds`. -/
def rightsRecord (ds : List Descriptor) : Record := ⟨1, 1, ds.flatMap Descriptor.encode⟩

def encodeRights (ds : List Descriptor) : Bytes := (rightsRecord ds).encode

/-- The records in `rest`, which starts `offset` bytes into the control data. Fewer
bytes than a header end the walk, and so does a malformed record, after its error. -/
def walkFrom (offset : Nat) (rest : Bytes) : List (Except ControlError Record) :=
  if _hrest : rest.length < headerLen then []
  else
    let len := Bytes.toNat (rest.take 8)
    if len < headerLen ∨ rest.length < len then [.error (.malformed offset len rest.length)]
    else
      let record : Record :=
        { level := (UInt32.ofNat (Bytes.toNat ((rest.drop 8).take 4))).toInt32
          kind := (UInt32.ofNat (Bytes.toNat ((rest.drop 12).take 4))).toInt32
          data := (rest.take len).drop headerLen }
      let stride := spaceForBytes (len - headerLen)
      if _hstride : 0 < stride then
        .ok record :: walkFrom (min (offset + stride) (offset + rest.length)) (rest.drop stride)
      else [.ok record]
termination_by rest.length
decreasing_by
  have hpos : 0 < rest.length := by unfold headerLen at _hrest; omega
  have hdrop : 0 < spaceForBytes (Bytes.toNat (rest.take 8) - headerLen) := _hstride
  simp only [List.length_drop]
  omega

def walk (bytes : Bytes) : List (Except ControlError Record) := walkFrom 0 bytes

/-- Every record, or the error. -/
def parse (bytes : Bytes) : Except ControlError (List Record) := (walk bytes).mapM id

/-- The descriptors of all rights records in the order they are met; none at all if a
record is malformed. -/
def take (bytes : Bytes) : Except ControlError (List Descriptor) :=
  (parse bytes).map fun records => records.flatMap Record.carried

/-- The descriptors of the rights records before the first malformed one, which closing
releases. -/
def close (bytes : Bytes) : List Descriptor :=
  (walk bytes).flatMap fun
    | .ok record => record.carried
    | .error _ => []

end Control

end FramedWire
