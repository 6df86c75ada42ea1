import FramedWire.Text.Hex
import Mathlib.Data.List.Basic
import Mathlib.Data.List.TakeWhile

/-!
# Hexadecimal text and the bytes it stands for

Whatever bytes are written in hexadecimal, reading gives them back. The digits that are written
are figures and letters of ASCII, so nothing of what reading takes away is among them: no blanks
and no `0x`.
-/
namespace FramedWire.Text

theorem utf8_ofList (cs : List Char) : utf8 (String.ofList cs) = cs.flatMap String.utf8EncodeChar := by
  rw [utf8, String.toByteArray_ofList, List.utf8Encode, List.data_toByteArray]

theorem trim_eq_self {cs : List Char} (h : ∀ c ∈ cs, isBlank c = false) : trim cs = cs := by
  have hkeep : ∀ ds : List Char, (∀ c ∈ ds, isBlank c = false) → ds.dropWhile isBlank = ds := by
    intro ds hds
    rw [List.dropWhile_eq_self_iff]
    intro hpos
    simp [hds _ (List.getElem_mem hpos)]
  rw [trim, hkeep cs h, hkeep cs.reverse fun c hc => h c (List.mem_reverse.mp hc),
    List.reverse_reverse]

/-- The byte that a digit is written as. -/
def digitByte (n : Fin 16) : UInt8 := UInt8.ofNat (hexDigit n).toNat

theorem isBlank_hexDigit : ∀ n : Fin 16, isBlank (hexDigit n) = false := by decide

theorem hexDigit_ne_x : ∀ n : Fin 16, hexDigit n ≠ 'x' := by decide

theorem utf8EncodeChar_hexDigit :
    ∀ n : Fin 16, String.utf8EncodeChar (hexDigit n) = [digitByte n] := by decide

theorem isAsciiBlank_digitByte : ∀ n : Fin 16, isAsciiBlank (digitByte n) = false := by decide

theorem hexValue_digitByte : ∀ n : Fin 16, hexValue (digitByte n) = .ok (UInt8.ofNat n) := by decide

def highDigit (b : UInt8) : Fin 16 := ⟨b.toNat / 16, Nat.div_lt_of_lt_mul b.toNat_lt⟩

def lowDigit (b : UInt8) : Fin 16 := ⟨b.toNat % 16, Nat.mod_lt _ (by decide)⟩

theorem highDigit_mul_add_lowDigit (b : UInt8) :
    UInt8.ofNat (highDigit b) * 16 + UInt8.ofNat (lowDigit b) = b := by
  have hb : b.toNat < 256 := b.toNat_lt
  apply UInt8.toNat_inj.mp
  simp only [UInt8.toNat_add, UInt8.toNat_mul, UInt8.toNat_ofNat', highDigit, lowDigit]
  change (b.toNat / 16 % 256 * 16 % 256 + b.toNat % 16 % 256) % 256 = b.toNat
  omega

/-- The digits of some bytes, as bytes of ASCII. -/
def digitBytes (bs : Bytes) : Bytes :=
  bs.flatMap fun b => [digitByte (highDigit b), digitByte (lowDigit b)]

theorem length_digitBytes (bs : Bytes) : (digitBytes bs).length = 2 * bs.length := by
  induction bs with
  | nil => rfl
  | cons b bs ih =>
    change (digitBytes bs).length + 2 = 2 * (bs.length + 1)
    omega

theorem hexBytes_encodeHex (bs : Bytes) : hexBytes (encodeHex bs) = digitBytes bs := by
  let digits : List Char :=
    bs.flatMap fun b => [hexDigit (highDigit b), hexDigit (lowDigit b)]
  have htext : encodeHex bs = String.ofList digits := rfl
  have htrim : trim digits = digits := by
    apply trim_eq_self
    intro c hc
    obtain ⟨b, -, hb⟩ := List.mem_flatMap.mp hc
    rcases List.mem_pair.mp hb with rfl | rfl
    · exact isBlank_hexDigit _
    · exact isBlank_hexDigit _
  have hplain : ∀ rest, digits ≠ '0' :: 'x' :: rest := by
    intro rest h
    cases bs with
    | nil => exact List.cons_ne_nil _ _ h.symm
    | cons b bs => exact hexDigit_ne_x _ (List.cons.inj (List.cons.inj h).2).1
  have hbytes : utf8 (String.ofList digits) = digitBytes bs := by
    rw [utf8_ofList, List.flatMap_assoc]
    exact List.flatMap_congr fun b _ => by simp [utf8EncodeChar_hexDigit]
  have hkeep : (digitBytes bs).filter (!isAsciiBlank ·) = digitBytes bs := by
    apply List.filter_eq_self.mpr
    intro d hd
    obtain ⟨b, -, hb⟩ := List.mem_flatMap.mp hd
    rcases List.mem_pair.mp hb with rfl | rfl
    · rw [isAsciiBlank_digitByte]; rfl
    · rw [isAsciiBlank_digitByte]; rfl
  rw [hexBytes, htext, String.toList_ofList, htrim]
  clear_value digits
  split
  · exact (hplain _ rfl).elim
  · rw [hbytes, hkeep]

theorem decodePairs_digitBytes (bs : Bytes) : decodePairs (digitBytes bs) = .ok bs := by
  induction bs with
  | nil => rfl
  | cons b bs ih =>
    change decodePairs (digitByte (highDigit b) :: digitByte (lowDigit b) :: digitBytes bs) = _
    simp only [decodePairs, hexValue_digitByte, ih, bind, Except.bind, pure, Except.pure,
      highDigit_mul_add_lowDigit]

/-- Bytes are read back from the digits they are written as. -/
theorem decodeHex_encodeHex (bs : Bytes) : decodeHex (encodeHex bs) = .ok bs := by
  have heven : (digitBytes bs).length % 2 = 0 := by
    rw [length_digitBytes]
    exact Nat.mul_mod_right 2 _
  rw [decodeHex, hexBytes_encodeHex]
  simp only [heven, ne_eq, not_true_eq_false, if_false]
  exact decodePairs_digitBytes bs

end FramedWire.Text
