/-!
# Byte strings

Bytes on the wire are lists of `UInt8`. Numbers are written as base-256 digits,
the least significant first; the other order is the reverse of the list. A field
is followed by as many zero bytes as bring it to a four-byte boundary.
-/
namespace FramedWire

abbrev Bytes := List UInt8

namespace Bytes

-- The powers here are those of the natural numbers, also where a monoid offers its own.
attribute [local instance (20000)] instPowNat

def zeros (n : Nat) : Bytes := List.replicate n 0

/-- How many bytes bring a field of `len` bytes to a four-byte boundary. -/
def padding (len : Nat) : Nat := (4 - len % 4) % 4

theorem padding_lt (len : Nat) : padding len < 4 := Nat.mod_lt _ (by decide)

theorem add_padding_mod (len : Nat) : (len + padding len) % 4 = 0 := by
  unfold padding; omega

/-- The number whose base-256 digits are `bs`, least significant first. -/
def toNat : Bytes → Nat
  | [] => 0
  | b :: bs => b.toNat + 256 * toNat bs

/-- The lowest `width` base-256 digits of `n`, least significant first. -/
def ofNat : (width n : Nat) → Bytes
  | 0, _ => []
  | width + 1, n => UInt8.ofNat n :: ofNat width (n / 256)

@[simp] theorem length_ofNat (width n : Nat) : (ofNat width n).length = width := by
  induction width generalizing n with
  | zero => rfl
  | succ width ih => simp [ofNat, ih]

theorem toNat_lt (bs : Bytes) : toNat bs < 256 ^ bs.length := by
  induction bs with
  | nil => simp [toNat]
  | cons b bs ih =>
    have hb : b.toNat < 256 := b.toNat_lt
    simp only [toNat, List.length_cons, Nat.pow_succ]
    omega

theorem toNat_ofNat (width n : Nat) : toNat (ofNat width n) = n % 256 ^ width := by
  induction width generalizing n with
  | zero => simp [ofNat, toNat, Nat.mod_one]
  | succ width ih =>
    have hn : (UInt8.ofNat n).toNat = n % 256 := by simp
    rw [ofNat, toNat, ih, hn, Nat.pow_succ, Nat.mul_comm (256 ^ width) 256, Nat.mod_mul]

theorem toNat_ofNat_word (word : UInt32) : toNat (ofNat 4 word.toNat) = word.toNat := by
  rw [toNat_ofNat]
  exact Nat.mod_eq_of_lt word.toNat_lt

theorem ofNat_toNat (bs : Bytes) : ofNat bs.length (toNat bs) = bs := by
  induction bs with
  | nil => rfl
  | cons b bs ih =>
    have hb : b.toNat < 256 := b.toNat_lt
    have hd : (b.toNat + 256 * toNat bs) / 256 = toNat bs := by omega
    have hm : UInt8.ofNat (b.toNat + 256 * toNat bs) = b := by
      apply UInt8.toNat_inj.mp
      simp only [UInt8.toNat_ofNat']
      omega
    simp only [List.length_cons, toNat, ofNat, hd, hm, ih]

/-- Four bytes hold a word and nothing more. -/
theorem ofNat_toNat_word {bs : Bytes} (h : bs.length = 4) :
    ofNat 4 (UInt32.ofNat (toNat bs)).toNat = bs := by
  have hlt : toNat bs < UInt32.size := by
    have hdigits : toNat bs < 256 ^ bs.length := toNat_lt bs
    rwa [h] at hdigits
  rw [UInt32.toNat_ofNat_of_lt' hlt, ← h]
  exact ofNat_toNat bs

end Bytes

end FramedWire
