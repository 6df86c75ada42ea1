import FramedWire.Bytes

/-!
# Byte order

The order in which the four bytes of a word travel. It is a value, so either order
can be used on any machine; the machine this library describes keeps the least
significant byte first.
-/
namespace FramedWire

inductive ByteOrder where
  | little | big
  deriving DecidableEq, Repr

namespace ByteOrder

/-- The order of the machine itself. -/
def native : ByteOrder := .little

def name : ByteOrder → String
  | .little => "little"
  | .big => "big"

/-- A name that stands for no byte order, in lower case. -/
structure UnknownName where
  name : String
  deriving DecidableEq, Repr

def UnknownName.message (e : UnknownName) : String := "unknown byte order: " ++ e.name

/-- Names are compared without regard to the case of ASCII letters. -/
def ofName (text : String) : Except UnknownName ByteOrder :=
  let lower := text.map Char.toLower
  if lower = "native" then .ok native
  else if lower = "little" ∨ lower = "le" then .ok .little
  else if lower = "big" ∨ lower = "be" then .ok .big
  else .error ⟨lower⟩

/-- The four bytes of a word in the order they travel. -/
def encode (order : ByteOrder) (word : UInt32) : Bytes :=
  match order with
  | .little => Bytes.ofNat 4 word.toNat
  | .big => (Bytes.ofNat 4 word.toNat).reverse

/-- The word whose bytes arrived as `bs`. -/
def decode (order : ByteOrder) (bs : Bytes) : UInt32 :=
  match order with
  | .little => UInt32.ofNat (Bytes.toNat bs)
  | .big => UInt32.ofNat (Bytes.toNat bs.reverse)

@[simp] theorem length_encode (order : ByteOrder) (word : UInt32) :
    (order.encode word).length = 4 := by
  cases order <;> simp [encode]

@[simp] theorem decode_encode (order : ByteOrder) (word : UInt32) :
    order.decode (order.encode word) = word := by
  cases order <;> simp [encode, decode, Bytes.toNat_ofNat_word]

theorem encode_decode (order : ByteOrder) {bs : Bytes} (h : bs.length = 4) :
    order.encode (order.decode bs) = bs := by
  cases order with
  | little => exact Bytes.ofNat_toNat_word h
  | big =>
    have hr : bs.reverse.length = 4 := by rw [List.length_reverse, h]
    rw [encode, decode, Bytes.ofNat_toNat_word hr, List.reverse_reverse]

end ByteOrder

end FramedWire
