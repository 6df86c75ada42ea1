import FramedWire.Control
import Mathlib.Algebra.Group.Nat.Defs

/-!
# Rights records

Walking over encoded records gives the records back, and a rights record hands out the
descriptors it was made of. The lengths have to stay below `2 ^ 31`, since the system reckons
the room of a record with 32 bits.
-/
namespace FramedWire

namespace Control

theorem take_nil : take [] = .ok [] := by
  rw [take, parse, walk, walkFrom]
  rfl

theorem close_nil : close [] = [] := by
  rw [close, walk, walkFrom]
  rfl

@[simp] theorem descriptors_flatMap_encode (ds : List Descriptor) :
    descriptors (ds.flatMap Descriptor.encode) = ds := by
  induction ds with
  | nil => rfl
  | cons d ds ih =>
    have hd : Descriptor.decode d.encode = d := Descriptor.decode_encode d
    simp only [Descriptor.encode, Bytes.ofNat] at hd ih
    simp only [List.flatMap_cons, Descriptor.encode, Bytes.ofNat, List.cons_append,
      List.nil_append, descriptors, hd, ih]

theorem spaceForBytes_of_lt {dataLen : Nat} (h : dataLen < 2 ^ 31) :
    spaceForBytes dataLen = (dataLen + 7) / 8 * 8 + headerLen := by
  unfold spaceForBytes headerLen UInt32.size
  omega

namespace Record

theorem length_header (len : Nat) (level kind : Int32) :
    (header len level kind).length = headerLen := by
  simp [header, headerLen]

theorem length_data_lt (r : Record) : r.data.length < r.encode.length := by
  simp only [encode, List.length_append, length_header, headerLen]
  omega

theorem length_encode {r : Record} (h : r.encode.length < 2 ^ 31) :
    r.encode.length = spaceForBytes r.data.length := by
  have hdata := length_data_lt r
  rw [spaceForBytes_of_lt (by omega)]
  simp only [encode, List.length_append, length_header, Bytes.zeros, List.length_replicate]
  rw [spaceForBytes_of_lt (by omega)]
  omega

variable {r : Record}

theorem carried_of_isRights (h : r.IsRights) : r.carried = descriptors r.data := if_pos h

theorem carried_of_not_isRights (h : ¬ r.IsRights) : r.carried = [] := if_neg h

theorem rights_of_isRights (h : r.IsRights) : r.rights = .ok r.carried := by
  rw [rights, if_pos h, carried_of_isRights h]

theorem rights_of_not_isRights (h : ¬ r.IsRights) : r.rights = .error (.notRights r.level r.kind) :=
  if_neg h

end Record

theorem toInt32_decode (n : Int32) :
    (UInt32.ofNat (Bytes.toNat (Bytes.ofNat 4 n.toUInt32.toNat))).toInt32 = n := by
  rw [Bytes.toNat_ofNat_word, UInt32.ofNat_toNat]
  exact Int32.toInt32_toUInt32 n

/-- The header and the data of a record, without what brings them to a multiple of eight. -/
def Record.body (r : Record) : Bytes :=
  header (headerLen + r.data.length) r.level r.kind ++ r.data

theorem Record.length_body (r : Record) : r.body.length = headerLen + r.data.length := by
  rw [body, List.length_append, length_header]

theorem Record.encode_eq_body (r : Record) :
    r.encode = r.body ++ Bytes.zeros (spaceForBytes r.data.length - r.body.length) := by
  rw [length_body]
  rfl

/-- A record that is short enough says its own length: its eight bytes hold it. -/
theorem Record.toNat_ofNat_length {r : Record} (h : r.body.length < 2 ^ 31) :
    Bytes.toNat (Bytes.ofNat 8 (headerLen + r.data.length)) = headerLen + r.data.length := by
  rw [length_body] at h
  rw [Bytes.toNat_ofNat]
  apply Nat.mod_eq_of_lt
  omega

section

variable (r : Record) (tail : Bytes)

theorem fields_body_append :
    (r.body ++ tail).take 8 = Bytes.ofNat 8 (headerLen + r.data.length) ∧
    ((r.body ++ tail).drop 8).take 4 = Bytes.ofNat 4 r.level.toUInt32.toNat ∧
    ((r.body ++ tail).drop 12).take 4 = Bytes.ofNat 4 r.kind.toUInt32.toNat ∧
    ((r.body ++ tail).take (headerLen + r.data.length)).drop headerLen = r.data := by
  have hparts : r.body ++ tail =
      Bytes.ofNat 8 (headerLen + r.data.length) ++ (Bytes.ofNat 4 r.level.toUInt32.toNat ++
        (Bytes.ofNat 4 r.kind.toUInt32.toNat ++ (r.data ++ tail))) := by
    simp only [Record.body, Record.header, List.append_assoc]
  rw [hparts]
  refine ⟨?_, ?_, ?_, ?_⟩
  · exact List.take_left' (Bytes.length_ofNat 8 _)
  · rw [List.drop_left' (Bytes.length_ofNat 8 _)]
    exact List.take_left' (Bytes.length_ofNat 4 _)
  · rw [← List.append_assoc, List.drop_left' (by simp)]
    exact List.take_left' (Bytes.length_ofNat 4 _)
  · rw [← List.append_assoc, ← List.append_assoc, List.drop_take,
      List.drop_left' (by simp [headerLen]), Nat.add_sub_cancel_left]
    exact List.take_left

/-- A record in front of anything is the first that is walked over, and the walk goes on after
the room that the record takes. -/
theorem walkFrom_body_append (h : r.body.length < 2 ^ 31) (offset : Nat) :
    walkFrom offset (r.body ++ tail) =
      .ok r :: walkFrom
        (min (offset + spaceForBytes r.data.length) (offset + (r.body ++ tail).length))
        ((r.body ++ tail).drop (spaceForBytes r.data.length)) := by
  have hbody : r.body.length = headerLen + r.data.length := Record.length_body r
  have hlength : (r.body ++ tail).length = r.body.length + tail.length := List.length_append
  obtain ⟨hlen, hlevel, hkind, hcontent⟩ := fields_body_append r tail
  have hwhole : ¬ (r.body ++ tail).length < headerLen := by omega
  have hsound : ¬ (headerLen + r.data.length < headerLen ∨
      (r.body ++ tail).length < headerLen + r.data.length) := by omega
  have hpos : 0 < spaceForBytes r.data.length := by
    rw [spaceForBytes_of_lt (by omega)]
    unfold headerLen
    omega
  rw [walkFrom, dif_neg hwhole]
  simp only [hlen, hlevel, hkind, hcontent, Record.toNat_ofNat_length h, if_neg hsound,
    Nat.add_sub_cancel_left, dif_pos hpos, toInt32_decode]

end

theorem walkFrom_encode_append (r : Record) (rest : Bytes) (h : r.encode.length < 2 ^ 31)
    (offset : Nat) :
    walkFrom offset (r.encode ++ rest) = .ok r :: walkFrom (offset + r.encode.length) rest := by
  have hstride : r.encode.length = spaceForBytes r.data.length := Record.length_encode h
  have hlength : (r.encode ++ rest).length = r.encode.length + rest.length := List.length_append
  have hparts : r.encode ++ rest =
      r.body ++ (Bytes.zeros (spaceForBytes r.data.length - r.body.length) ++ rest) := by
    rw [Record.encode_eq_body, List.append_assoc]
  have hbody : r.body.length ≤ r.encode.length := by
    rw [Record.encode_eq_body, List.length_append]
    exact Nat.le_add_right _ _
  rw [hparts, walkFrom_body_append r _ (by omega), ← hparts, ← hstride, List.drop_left, hlength,
    Nat.min_eq_left (by omega)]

theorem walkFrom_flatMap_encode {records : List Record} {rest : Bytes}
    (h : ∀ r ∈ records, r.encode.length < 2 ^ 31) (hrest : rest.length < headerLen) (offset : Nat) :
    walkFrom offset (records.flatMap Record.encode ++ rest) = records.map .ok := by
  induction records generalizing offset with
  | nil =>
    rw [List.flatMap_nil, List.nil_append, walkFrom, dif_pos hrest]
    rfl
  | cons r records ih =>
    rw [List.flatMap_cons, List.append_assoc,
      walkFrom_encode_append r _ (h r List.mem_cons_self),
      ih (fun r' hr' => h r' (List.mem_cons_of_mem r hr'))]
    rfl

theorem mapM_map_ok {ε α : Type} (as : List α) :
    (as.map Except.ok).mapM id = (.ok as : Except ε (List α)) := by
  induction as with
  | nil => rfl
  | cons a as ih =>
    rw [List.map_cons, List.mapM_cons, ih]
    rfl

/-- What is encoded is taken again, one rights record after the other. -/
theorem take_flatMap_encode {records : List Record} {rest : Bytes}
    (h : ∀ r ∈ records, r.encode.length < 2 ^ 31) (hrest : rest.length < headerLen) :
    take (records.flatMap Record.encode ++ rest) = .ok (records.flatMap Record.carried) := by
  rw [take, parse, walk, walkFrom_flatMap_encode h hrest, mapM_map_ok]
  rfl

theorem carried_rightsRecord (ds : List Descriptor) : (rightsRecord ds).carried = ds := by
  have hrights : (rightsRecord ds).IsRights := ⟨rfl, rfl⟩
  rw [Record.carried, if_pos hrights]
  exact descriptors_flatMap_encode ds

theorem take_encodeRights {ds : List Descriptor} (h : (encodeRights ds).length < 2 ^ 31) :
    take (encodeRights ds) = .ok ds := by
  have htake : take ([rightsRecord ds].flatMap Record.encode ++ []) =
      .ok ([rightsRecord ds].flatMap Record.carried) := by
    apply take_flatMap_encode
    · intro r hr
      cases List.mem_singleton.mp hr
      exact h
    · decide
  simpa [encodeRights, carried_rightsRecord] using htake

end Control

end FramedWire
