import FramedWire.Proofs.Rights

/-!
# The layout of control bytes

Control bytes as the system lays them out, said without the walk over them: one record after
the other, each brought to a multiple of eight bytes, and then either too few bytes for a header
or a header that contradicts the bytes it stands in. Below `2 ^ 31` bytes every byte string has a
layout, and what is taken from it and closed in it is what its records carry.
-/
namespace FramedWire

namespace Control

/-- How many bytes bring `len` bytes to a multiple of eight. -/
def slack (len : Nat) : Nat := (8 - len % 8) % 8

/-- The length that the header at the front declares. -/
def declaredLen (bytes : Bytes) : Nat := Bytes.toNat (bytes.take 8)

/-- `bytes`, which start at `offset`, hold `records`, and an error if a malformed record ends
them. -/
inductive Laid : (offset : Nat) → (bytes : Bytes) → List Record → Option ControlError → Prop
  | short {offset : Nat} {bytes : Bytes} : bytes.length < headerLen → Laid offset bytes [] none
  | malformed {offset : Nat} {bytes : Bytes} : headerLen ≤ bytes.length →
      declaredLen bytes < headerLen ∨ bytes.length < declaredLen bytes →
      Laid offset bytes [] (some (.malformed offset (declaredLen bytes) bytes.length))
  | record {offset : Nat} (r : Record) (padding : Bytes) {rest : Bytes} {records : List Record}
      {ending : Option ControlError} : padding.length = slack r.data.length →
      Laid (offset + (r.body ++ padding).length) rest records ending →
      Laid offset (r.body ++ padding ++ rest) (r :: records) ending
  /-- The bytes may end before the last record is brought to a multiple of eight. -/
  | last {offset : Nat} (r : Record) (padding : Bytes) : padding.length < slack r.data.length →
      Laid offset (r.body ++ padding) [r] none

theorem spaceForBytes_eq_add_slack {dataLen : Nat} (h : dataLen < 2 ^ 31) :
    spaceForBytes dataLen = headerLen + dataLen + slack dataLen := by
  rw [spaceForBytes_of_lt h]
  unfold slack
  omega

theorem walkFrom_of_short {bytes : Bytes} (h : bytes.length < headerLen) (offset : Nat) :
    walkFrom offset bytes = [] := by
  rw [walkFrom, dif_pos h]

/-- A record in front of anything is the first that is walked over, whatever brings it to a multiple
of eight bytes. -/
theorem walkFrom_padded_append (r : Record) {padding : Bytes}
    (hpadding : padding.length = slack r.data.length) (rest : Bytes) (h : r.body.length < 2 ^ 31)
    (offset : Nat) :
    walkFrom offset (r.body ++ padding ++ rest) =
      .ok r :: walkFrom (offset + (r.body ++ padding).length) rest := by
  have hbody : r.body.length = headerLen + r.data.length := Record.length_body r
  have hlength : (r.body ++ padding ++ rest).length =
      (r.body ++ padding).length + rest.length := List.length_append
  have hfront : (r.body ++ padding).length = r.body.length + padding.length :=
    List.length_append
  have hstride : spaceForBytes r.data.length = (r.body ++ padding).length := by
    rw [spaceForBytes_eq_add_slack (by omega), hfront, hbody, hpadding]
  rw [List.append_assoc, walkFrom_body_append r _ h, ← List.append_assoc, hstride,
    List.drop_left, hlength, Nat.min_eq_left (by omega)]

/-- A walk meets the records of the layout and then its error. -/
theorem walkFrom_of_laid {offset : Nat} {bytes : Bytes} {records : List Record}
    {ending : Option ControlError} (h : Laid offset bytes records ending)
    (hlimit : bytes.length < 2 ^ 31) :
    walkFrom offset bytes = records.map .ok ++ (ending.map .error).toList := by
  induction h with
  | short hshort => exact walkFrom_of_short hshort _
  | malformed hlong hbad =>
    rw [walkFrom, dif_neg (Nat.not_lt.mpr hlong)]
    exact if_pos hbad
  | @record offset r padding rest records ending hpadding _ ih =>
    have hlength : (r.body ++ padding ++ rest).length =
        r.body.length + padding.length + rest.length := by
      rw [List.length_append, List.length_append]
    rw [walkFrom_padded_append r hpadding rest (by omega), ih (by omega)]
    rfl
  | @last offset r padding hpadding =>
    have hbody : r.body.length = headerLen + r.data.length := Record.length_body r
    have hlength : (r.body ++ padding).length = r.body.length + padding.length :=
      List.length_append
    have hstride : (r.body ++ padding).length ≤ spaceForBytes r.data.length := by
      rw [spaceForBytes_eq_add_slack (by omega)]
      omega
    rw [walkFrom_body_append r _ (by omega), List.drop_of_length_le hstride,
      walkFrom_of_short (by decide)]
    rfl

theorem ofNat_toInt32 {bs : Bytes} (h : bs.length = 4) :
    Bytes.ofNat 4 (UInt32.ofNat (Bytes.toNat bs)).toInt32.toUInt32.toNat = bs := by
  rw [UInt32.toUInt32_toInt32]
  exact Bytes.ofNat_toNat_word h

theorem exists_body_front {bytes : Bytes} (hlong : headerLen ≤ declaredLen bytes)
    (hfits : declaredLen bytes ≤ bytes.length) :
    ∃ r : Record, r.body = bytes.take (declaredLen bytes) ∧
      headerLen + r.data.length = declaredLen bytes := by
  have hwhole : 16 ≤ bytes.length := Nat.le_trans hlong hfits
  have hfirst : (bytes.take 8).length = 8 := by
    rw [List.length_take]
    omega
  have hlevel : ((bytes.drop 8).take 4).length = 4 := by
    rw [List.length_take, List.length_drop]
    omega
  have hkind : ((bytes.drop 12).take 4).length = 4 := by
    rw [List.length_take, List.length_drop]
    omega
  have hdata : headerLen + ((bytes.take (declaredLen bytes)).drop headerLen).length =
      declaredLen bytes := by
    rw [List.length_drop, List.length_take, Nat.min_eq_left hfits]
    exact Nat.add_sub_of_le hlong
  have hlen : Bytes.ofNat 8 (declaredLen bytes) = bytes.take 8 := by
    have hdigits := Bytes.ofNat_toNat (bytes.take 8)
    rw [hfirst] at hdigits
    exact hdigits
  have hheader : bytes.take 8 ++ (bytes.drop 8).take 4 ++ (bytes.drop 12).take 4 =
      (bytes.take (declaredLen bytes)).take headerLen := by
    rw [List.take_take, Nat.min_eq_left hlong, ← List.take_add, ← List.take_add]
    rfl
  refine ⟨{
    level := (UInt32.ofNat (Bytes.toNat ((bytes.drop 8).take 4))).toInt32
    kind := (UInt32.ofNat (Bytes.toNat ((bytes.drop 12).take 4))).toInt32
    data := (bytes.take (declaredLen bytes)).drop headerLen }, ?_, hdata⟩
  rw [Record.body, Record.header, hdata, hlen, ofNat_toInt32 hlevel, ofNat_toInt32 hkind,
    hheader, List.take_append_drop]

/-- Below the limit every byte string has a layout. -/
theorem exists_laid (offset : Nat) (bytes : Bytes) (hlimit : bytes.length < 2 ^ 31) :
    ∃ records ending, Laid offset bytes records ending := by
  induction hn : bytes.length using Nat.strongRecOn generalizing offset bytes with
  | ind n ih =>
    by_cases hshort : bytes.length < headerLen
    · exact ⟨[], none, .short hshort⟩
    by_cases hbad : declaredLen bytes < headerLen ∨ bytes.length < declaredLen bytes
    · exact ⟨[], _, .malformed (Nat.not_lt.mp hshort) hbad⟩
    have hlong : headerLen ≤ declaredLen bytes := by omega
    have hfits : declaredLen bytes ≤ bytes.length := by omega
    obtain ⟨r, hbody, hdata⟩ := exists_body_front hlong hfits
    have hlength : r.body.length = declaredLen bytes := by
      rw [Record.length_body, hdata]
    have hrest : bytes = r.body ++ bytes.drop (declaredLen bytes) := by
      rw [hbody, List.take_append_drop]
    by_cases hlast : (bytes.drop (declaredLen bytes)).length < slack r.data.length
    · refine ⟨[r], none, ?_⟩
      rw [hrest]
      exact .last r _ hlast
    -- the padding and what comes after it
    have hsplit : bytes = r.body ++ (bytes.drop (declaredLen bytes)).take (slack r.data.length) ++
        (bytes.drop (declaredLen bytes)).drop (slack r.data.length) := by
      rw [List.append_assoc, List.take_append_drop, ← hrest]
    have hpadding : ((bytes.drop (declaredLen bytes)).take (slack r.data.length)).length =
        slack r.data.length := by
      rw [List.length_take]
      omega
    generalize (bytes.drop (declaredLen bytes)).take (slack r.data.length) = padding
      at hsplit hpadding
    generalize (bytes.drop (declaredLen bytes)).drop (slack r.data.length) = rest at hsplit
    have hparts : bytes.length = (r.body ++ padding).length + rest.length := by
      rw [hsplit, List.length_append]
    have hshorter : rest.length < n := by
      have hfront : (r.body ++ padding).length = r.body.length + padding.length :=
        List.length_append
      unfold headerLen at hlong
      omega
    obtain ⟨records, ending, hlaid⟩ :=
      ih rest.length hshorter (offset + (r.body ++ padding).length) rest (by omega) rfl
    refine ⟨r :: records, ending, ?_⟩
    rw [hsplit]
    exact .record r padding hpadding hlaid

theorem mapM_map_ok_append_error {ε α : Type} (as : List α) (e : ε) :
    (as.map Except.ok ++ [Except.error e]).mapM id = (.error e : Except ε (List α)) := by
  induction as with
  | nil => rfl
  | cons a as ih =>
    rw [List.map_cons, List.cons_append, List.mapM_cons, ih]
    rfl

/-- The descriptors of the rights records among `records`, one record after the other. -/
def named (records : List Record) : List Descriptor := records.flatMap Record.carried

theorem named_cons (r : Record) (records : List Record) :
    named (r :: records) = r.carried ++ named records :=
  List.flatMap_cons

section

variable {bytes : Bytes} {records : List Record} (hlimit : bytes.length < 2 ^ 31)

include hlimit

theorem take_of_laid (h : Laid 0 bytes records none) : take bytes = .ok (named records) := by
  rw [take, parse, walk, walkFrom_of_laid h hlimit]
  change (List.mapM id (records.map Except.ok ++ [])).map _ = _
  rw [List.append_nil, mapM_map_ok]
  rfl

theorem take_of_laid_malformed {e : ControlError} (h : Laid 0 bytes records (some e)) :
    take bytes = .error e := by
  rw [take, parse, walk, walkFrom_of_laid h hlimit]
  change (List.mapM id (records.map Except.ok ++ [Except.error e])).map _ = _
  rw [mapM_map_ok_append_error]
  rfl

theorem close_of_laid {ending : Option ControlError} (h : Laid 0 bytes records ending) :
    close bytes = named records := by
  rw [close, walk, walkFrom_of_laid h hlimit, List.flatMap_append, List.flatMap_map]
  cases ending with
  | none => exact List.append_nil _
  | some e => exact List.append_nil _

end

end Control

end FramedWire
