import FramedWire.ByteOrder
import FramedWire.FrameError

/-!
# Message headers

A message begins with eight bytes: the word of its sender, and a word whose upper half
is the size of the whole message and whose lower half is the opcode.
-/
namespace FramedWire

structure Header where
  sender : UInt32
  opcode : UInt16
  /-- Size of the message, this header included. -/
  size : UInt16
  deriving DecidableEq, Repr

namespace Header

def headerSize : Nat := 8

/-- The largest message that sixteen bits can describe. -/
def maxMessageSize : Nat := 65535

def packWord (size opcode : UInt16) : UInt32 :=
  UInt32.ofNat (size.toNat * UInt16.size + opcode.toNat)

/-- The size and the opcode in a header word. -/
def unpackWord (word : UInt32) : UInt16 × UInt16 :=
  (UInt16.ofNat (word.toNat / UInt16.size), UInt16.ofNat (word.toNat % UInt16.size))

@[simp] theorem unpackWord_packWord (size opcode : UInt16) :
    unpackWord (packWord size opcode) = (size, opcode) := by
  have hs := size.toNat_lt
  have ho := opcode.toNat_lt
  have hn : (UInt32.ofNat (size.toNat * UInt16.size + opcode.toNat)).toNat
      = size.toNat * UInt16.size + opcode.toNat :=
    UInt32.toNat_ofNat_of_lt' (by simp only [UInt16.size, UInt32.size]; omega)
  have hd : (size.toNat * UInt16.size + opcode.toNat) / UInt16.size = size.toNat := by
    simp only [UInt16.size]
    omega
  have hm : (size.toNat * UInt16.size + opcode.toNat) % UInt16.size = opcode.toNat := by
    simp only [UInt16.size]
    omega
  simp only [unpackWord, packWord, hn, hd, hm, UInt16.ofNat_toNat]

def encode (h : Header) (order : ByteOrder) : Bytes :=
  order.encode h.sender ++ order.encode (packWord h.size h.opcode)

/-- The header in the first eight bytes of `bytes`. -/
def decode (bytes : Bytes) (order : ByteOrder) : Except FrameError Header :=
  let sender := order.decode (bytes.take 4)
  let (size, opcode) := unpackWord (order.decode ((bytes.drop 4).take 4))
  if size.toNat < headerSize then .error (.invalidSize size)
  else .ok { sender, opcode, size }

/-- How many bytes follow the header. -/
def payloadLen (h : Header) : Nat := h.size.toNat - headerSize

end Header

end FramedWire
