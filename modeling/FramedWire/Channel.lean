import FramedWire.Descriptor

/-!
# Channels

One direction of a connection between two stream sockets: what was sent and has not been
received, one segment for each send. Bytes keep their order across segments. Descriptors
are attached to the first byte of their segment and arrive with the receive that takes
that byte; such a receive does not go past the end of their segment, so descriptors of two
sends never arrive together.
-/
namespace FramedWire

structure Segment where
  bytes : Bytes
  /-- The descriptors that travel with the first byte. -/
  rights : List Descriptor := []
  deriving DecidableEq, Repr

/-- The segments on their way, the oldest first. -/
abbrev Channel := List Segment

namespace Channel

/-- How many bytes are on their way. -/
def size : Channel → Nat
  | [] => 0
  | seg :: segs => seg.bytes.length + size segs

/-- All bytes on their way. -/
def bytes (c : Channel) : Bytes := c.flatMap (·.bytes)

/-- All descriptors on their way. -/
def rights (c : Channel) : List Descriptor := c.flatMap (·.rights)

structure Taken where
  bytes : Bytes
  rights : List Descriptor
  rest : Channel

/-- Take up to `room` bytes, together with the descriptors attached to what is taken. -/
def take (room : Nat) : Channel → Taken
  | [] => ⟨[], [], []⟩
  | seg :: segs =>
    if room < seg.bytes.length then
      ⟨seg.bytes.take room, seg.rights, ⟨seg.bytes.drop room, []⟩ :: segs⟩
    else if room = seg.bytes.length ∨ seg.rights ≠ [] then ⟨seg.bytes, seg.rights, segs⟩
    else
      let taken := take (room - seg.bytes.length) segs
      ⟨seg.bytes ++ taken.bytes, taken.rights, taken.rest⟩

theorem length_take_le (room : Nat) (c : Channel) : (c.take room).bytes.length ≤ room := by
  fun_induction take room c with
  | case1 => simp
  | case2 room seg segs h => exact List.length_take_le room seg.bytes
  | case3 room seg segs h _ => exact Nat.le_of_not_lt h
  | case4 room seg segs h _ taken ih =>
    have hrest : taken.bytes.length ≤ room - seg.bytes.length := ih
    simp only [List.length_append]
    omega

/-- No byte is lost, added or moved. -/
theorem bytes_take_append_rest (room : Nat) (c : Channel) :
    (c.take room).bytes ++ (c.take room).rest.bytes = c.bytes := by
  fun_induction take room c with
  | case1 => rfl
  | case2 room seg segs h =>
    simp only [bytes, List.flatMap_cons, ← List.append_assoc, List.take_append_drop]
  | case3 room seg segs h _ => simp [bytes]
  | case4 room seg segs h _ taken ih =>
    rw [List.append_assoc, ih]
    simp [bytes]

theorem size_eq_length_bytes (c : Channel) : c.size = c.bytes.length := by
  induction c with
  | nil => rfl
  | cons seg segs ih =>
    rw [size, ih, bytes, bytes, List.flatMap_cons, List.length_append]

theorem size_take (room : Nat) (c : Channel) :
    (c.take room).bytes.length + (c.take room).rest.size = c.size := by
  rw [size_eq_length_bytes, size_eq_length_bytes, ← List.length_append, bytes_take_append_rest]

end Channel

end FramedWire
