import FramedWire.Proofs.ControlLayout

/-!
# Records through control data

Control data gathered from any number of receives: rights records and records of any other
origin, one after the other, and after them what is too short for a header. Parsing gives back
every record with its level, its kind and its exact data, however odd its length is, and taking
gives the descriptors that the rights records name, in the order they are met.
-/
namespace FramedWire

namespace Control

inductive Piece where
  | rights (ds : List Descriptor)
  /-- Any record, brought to a multiple of eight bytes by bytes of any value. -/
  | foreign (r : Record) (padding : Bytes) (aligned : padding.length = slack r.data.length)

namespace Piece

def record : Piece → Record
  | .rights ds => rightsRecord ds
  | .foreign r _ _ => r

def bytes : Piece → Bytes
  | .rights ds => encodeRights ds
  | .foreign r padding _ => r.body ++ padding

end Piece

theorem walkFrom_piece_append (p : Piece) (rest : Bytes) (h : p.bytes.length < 2 ^ 31)
    (offset : Nat) :
    walkFrom offset (p.bytes ++ rest) =
      .ok p.record :: walkFrom (offset + p.bytes.length) rest := by
  cases p with
  | rights ds => exact walkFrom_encode_append (rightsRecord ds) rest h offset
  | foreign r padding aligned =>
    have hbody : r.body.length ≤ (r.body ++ padding).length := by
      rw [List.length_append]
      exact Nat.le_add_right _ _
    exact walkFrom_padded_append r aligned rest (Nat.lt_of_le_of_lt hbody h) offset

theorem walkFrom_pieces {pieces : List Piece} {tail : Bytes}
    (hlimit : (pieces.flatMap Piece.bytes).length < 2 ^ 31) (htail : tail.length < headerLen)
    (offset : Nat) :
    walkFrom offset (pieces.flatMap Piece.bytes ++ tail) =
      (pieces.map Piece.record).map .ok := by
  induction pieces generalizing offset with
  | nil => exact walkFrom_of_short htail offset
  | cons p pieces ih =>
    rw [List.flatMap_cons, List.length_append] at hlimit
    rw [List.flatMap_cons, List.append_assoc, walkFrom_piece_append p _ (by omega),
      ih (by omega)]
    rfl

/-- `ds` are named by `data`, four bytes each; an incomplete name at the end does not count. -/
def Names (data : Bytes) (ds : List Descriptor) : Prop :=
  ∃ rest, data = ds.flatMap Descriptor.encode ++ rest ∧ rest.length < 4

theorem names_descriptors (data : Bytes) : Names data (descriptors data) := by
  fun_induction descriptors data with
  | case1 a b c d data ih =>
    obtain ⟨rest, hdata, hrest⟩ := ih
    have hname : (Descriptor.decode [a, b, c, d]).encode = [a, b, c, d] := ofNat_toInt32 rfl
    refine ⟨rest, ?_, hrest⟩
    rw [List.flatMap_cons, hname, List.append_assoc, ← hdata]
    rfl
  | case2 data hshort =>
    refine ⟨data, rfl, ?_⟩
    rcases data with _ | ⟨a, _ | ⟨b, _ | ⟨c, _ | ⟨d, rest⟩⟩⟩⟩
    case cons.cons.cons.cons => exact absurd rfl (hshort a b c d rest)
    all_goals simp

theorem named_eq_flatMap_filter (records : List Record) :
    named records = (records.filter (·.IsRights)).flatMap fun r => descriptors r.data := by
  induction records with
  | nil => rfl
  | cons r records ih =>
    by_cases hr : r.IsRights
    · rw [named_cons, ih, Record.carried_of_isRights hr,
        List.filter_cons_of_pos (by simpa using hr), List.flatMap_cons]
    · rw [named_cons, ih, Record.carried_of_not_isRights hr, List.nil_append,
        List.filter_cons_of_neg (by simpa using hr)]

theorem rights_rightsRecord (ds : List Descriptor) : (rightsRecord ds).rights = .ok ds := by
  rw [Record.rights_of_isRights ⟨rfl, rfl⟩, carried_rightsRecord]

/-- What was put into control data is what comes out of it, record by record and descriptor by
descriptor. -/
theorem parse_pieces (pieces : List Piece) (tail : Bytes)
    (hlimit : (pieces.flatMap Piece.bytes).length < 2 ^ 31) (htail : tail.length < headerLen) :
    let bytes := pieces.flatMap Piece.bytes ++ tail
    let records := pieces.map Piece.record
    parse bytes = .ok records ∧
    (∀ ds, .rights ds ∈ pieces → (Piece.rights ds).record.rights = .ok ds) ∧
    (∀ r ∈ records, r.IsRights →
      r.rights = .ok (descriptors r.data) ∧ Names r.data (descriptors r.data)) ∧
    (∀ r ∈ records, ¬ r.IsRights → r.rights = .error (.notRights r.level r.kind)) ∧
    take bytes = .ok ((records.filter (·.IsRights)).flatMap fun r => descriptors r.data) := by
  intro bytes records
  have hparse : parse bytes = .ok records := by
    rw [parse, walk, walkFrom_pieces hlimit htail, mapM_map_ok]
  refine ⟨hparse, fun ds _ => rights_rightsRecord ds, ?_, ?_, ?_⟩
  · intro r _ hr
    exact ⟨if_pos hr, names_descriptors r.data⟩
  · intro r _ hr
    exact Record.rights_of_not_isRights hr
  · rw [take, hparse, ← named_eq_flatMap_filter]
    rfl

/-- A record of odd length between two rights records, another that ends within a name, and a tail
of three bytes. -/
theorem parse_pieces_odd :
    let pieces : List Piece :=
      [.rights [⟨3⟩], .foreign ⟨1, 127, [97, 98, 99]⟩ [9, 9, 9, 9, 9] rfl,
        .foreign ⟨1, 1, [7, 0, 0, 0, 1]⟩ [0, 0, 0] rfl, .rights [⟨4⟩, ⟨5⟩, ⟨6⟩]]
    let bytes := pieces.flatMap Piece.bytes ++ [0, 0, 0]
    (pieces.flatMap Piece.bytes).length < 2 ^ 31 ∧ ([0, 0, 0] : Bytes).length < headerLen ∧
      parse bytes = .ok [rightsRecord [⟨3⟩], ⟨1, 127, [97, 98, 99]⟩, ⟨1, 1, [7, 0, 0, 0, 1]⟩,
        rightsRecord [⟨4⟩, ⟨5⟩, ⟨6⟩]] ∧
      take bytes = .ok [⟨3⟩, ⟨7⟩, ⟨4⟩, ⟨5⟩, ⟨6⟩] := by
  intro pieces bytes
  have hlimit : (pieces.flatMap Piece.bytes).length < 2 ^ 31 := by decide
  have htail : ([0, 0, 0] : Bytes).length < headerLen := by decide
  obtain ⟨hparse, -, -, -, htake⟩ := parse_pieces pieces [0, 0, 0] hlimit htail
  refine ⟨hlimit, htail, hparse, htake.trans (congrArg Except.ok ?_)⟩
  decide

end Control

end FramedWire
