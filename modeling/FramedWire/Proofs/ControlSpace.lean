import FramedWire.Proofs.Rights
import FramedWire.Socket

/-!
# Room for control data

A receive gets room for the descriptors it asks for. The number is multiplied with 64 bits, and
the length that comes of it has 32. Up to `spaciousMax` descriptors nothing is lost by that: the
room grows with the number, holds a rights record of so many descriptors, and a receive delivers
them all. For no larger number is there room enough.
-/
namespace FramedWire

namespace Control

/-- The most descriptors for which there is room enough. -/
def spaciousMax : Nat := 2 ^ 30 - 6

/-- The header and four bytes for each descriptor, brought to a multiple of eight. -/
def exactSpace (maxFds : Nat) : Nat := headerLen + (4 * maxFds + 7) / 8 * 8

theorem dvd_spaceForBytes (dataLen : Nat) : 8 ∣ spaceForBytes dataLen := by
  unfold spaceForBytes headerLen UInt32.size
  omega

theorem spaceForBytes_lt (dataLen : Nat) : spaceForBytes dataLen < 2 ^ 32 :=
  Nat.mod_lt _ (by decide)

theorem headerLen_add_le_exactSpace (n : Nat) : headerLen + 4 * n ≤ exactSpace n := by
  unfold exactSpace
  omega

theorem exactSpace_mono {m n : Nat} (h : m ≤ n) : exactSpace m ≤ exactSpace n := by
  unfold exactSpace
  omega

theorem spaceForBytes_four_mul {n : Nat} (h : n ≤ spaciousMax) :
    spaceForBytes (4 * n) = exactSpace n := by
  unfold spaceForBytes exactSpace headerLen UInt32.size
  unfold spaciousMax at h
  omega

theorem space_of_le {n : Nat} (h : n ≤ spaciousMax) : space n = exactSpace n := by
  have hproduct : n * 4 % UInt64.size = 4 * n := by
    unfold UInt64.size
    unfold spaciousMax at h
    omega
  rw [space, hproduct, spaceForBytes_four_mul h]

/-- The room is a multiple of eight below `2 ^ 32`, so that the descriptors decide whether it is
enough. -/
theorem headerLen_add_le_space_iff {n : Nat} :
    headerLen + 4 * n ≤ space n ↔ n ≤ spaciousMax := by
  constructor
  · intro h
    have hdvd : 8 ∣ space n := dvd_spaceForBytes _
    have hlt : space n < 2 ^ 32 := spaceForBytes_lt _
    unfold headerLen at h
    unfold spaciousMax
    omega
  · intro h
    rw [space_of_le h]
    exact headerLen_add_le_exactSpace n

theorem length_encodeRights {ds : List Descriptor} (h : ds.length ≤ spaciousMax) :
    (encodeRights ds).length = exactSpace ds.length := by
  have hdata : (rightsRecord ds).data.length = 4 * ds.length := by
    simp only [rightsRecord, List.length_flatMap, Descriptor.length_encode, List.map_const',
      List.sum_replicate_nat]
    exact Nat.mul_comm _ _
  have hspace : spaceForBytes (4 * ds.length) = exactSpace ds.length := spaceForBytes_four_mul h
  have hroom : headerLen + 4 * ds.length ≤ exactSpace ds.length :=
    headerLen_add_le_exactSpace ds.length
  simp only [encodeRights, Record.encode, List.length_append, Record.length_header, Bytes.zeros,
    List.length_replicate, hdata, hspace]
  omega

theorem length_encodeRights_le {n : Nat} (h : n ≤ spaciousMax) {ds : List Descriptor}
    (hds : ds.length ≤ n) : (encodeRights ds).length ≤ space n := by
  rw [length_encodeRights (Nat.le_trans hds h), space_of_le h]
  exact exactSpace_mono hds

end Control

namespace SocketPair

theorem le_capacity {n : Nat} (h : n ≤ Control.spaciousMax) : n ≤ capacity n := by
  have hroom := Control.headerLen_add_le_space_iff.mpr h
  unfold capacity
  omega

theorem receive_of_length_le {side : Side} {pair after : SocketPair} {room n : Nat}
    {bytes : Bytes} {rights : List Descriptor}
    (harrive : pair.arrive side room = (.ok (bytes, rights), after))
    (hfit : rights.length ≤ capacity n) :
    pair.receive side room n =
      ⟨after, if rights = [] then [] else Control.encodeRights rights, .ok bytes⟩ := by
  have hall : rights.take (capacity n) = rights := List.take_of_length_le hfit
  have hnone : rights.drop (capacity n) = [] := List.drop_of_length_le hfit
  have hstate : after.discard [] = after := by
    unfold discard
    rw [List.append_nil]
  simp only [receive, harrive, hall, hnone, hstate, if_true]

end SocketPair

namespace Control

/-- For up to `spaciousMax` descriptors, and for no more, the room is what it should be. -/
theorem space_exact (n : Nat) :
    8 ∣ space n ∧
    (space n = exactSpace n ↔ n ≤ spaciousMax) ∧
    (headerLen + 4 * n ≤ space n ↔ n ≤ spaciousMax) ∧
    (n ≤ spaciousMax →
      (∀ m ≤ n, space m ≤ space n) ∧
      (∀ ds : List Descriptor, ds.length ≤ n → (encodeRights ds).length ≤ space n) ∧
      ∀ (side : Side) (pair after : SocketPair) (room : Nat) (bytes : Bytes)
        (rights : List Descriptor),
        pair.arrive side room = (.ok (bytes, rights), after) → rights.length ≤ n →
        pair.receive side room n =
          ⟨after, if rights = [] then [] else encodeRights rights, .ok bytes⟩) := by
  refine ⟨dvd_spaceForBytes _, ⟨?_, space_of_le⟩, headerLen_add_le_space_iff, ?_⟩
  · intro h
    rw [← headerLen_add_le_space_iff, h]
    exact headerLen_add_le_exactSpace n
  · intro h
    refine ⟨?_, fun ds => length_encodeRights_le h, ?_⟩
    · intro m hm
      rw [space_of_le h, space_of_le (Nat.le_trans hm h)]
      exact exactSpace_mono hm
    · intro side pair after room bytes rights harrive hfit
      exact SocketPair.receive_of_length_le harrive
        (Nat.le_trans hfit (SocketPair.le_capacity h))

/-- With `2 ^ 30` descriptors asked for there is room for the header alone, less than for one
descriptor, and a receive loses the first that arrives. -/
theorem space_two_pow_thirty :
    space (2 ^ 30) = 16 ∧ ¬ headerLen + 4 * 2 ^ 30 ≤ space (2 ^ 30) ∧
      ¬ space 1 ≤ space (2 ^ 30) ∧
      let pair : SocketPair := { right := { inbox := [⟨[0], [⟨7⟩]⟩] } }
      (pair.receive .right 8 (2 ^ 30)).outcome = .error (.ancillaryTruncated (2 ^ 30)) ∧
        (pair.receive .right 8 1).outcome = .ok [0] := by
  refine ⟨by decide, by decide, by decide, ?_, ?_⟩
  · rfl
  · rfl

end Control

end FramedWire
