import FramedWire.Proofs.Journal
import FramedWire.Proofs.Series
import Mathlib.Data.List.Permutation

/-!
# Blocking and polled readers

Two readers of the same streams. The blocking one makes an interrupted receive again and never
asks for room for no descriptors at all; the polled one does neither. On a stream that sees to
its own repetitions they differ in nothing but that room.
-/
namespace FramedWire

variable {σ : Type}

namespace Source

/-- No failure of the source asks for another try. -/
def Steady (src : Source σ) : Prop :=
  ∀ s room maxFds e, (src.receive s room maxFds).outcome = .error e → e.toIo.isTransient = false

theorem Steady.journaled {src : Source σ} (h : src.Steady) : src.journaled.Steady :=
  fun s => h s.1

theorem Steady.not_interruption {src : Source σ} (h : src.Steady) {s : σ} {room maxFds : Nat}
    {e : TransportError} (he : (src.receive s room maxFds).outcome = .error e) :
    ¬ e.toIo.isInterruption := by
  have htransient : e.toIo.isTransient = false := h s room maxFds e he
  intro hint
  unfold IoError.isTransient at htransient
  unfold IoError.isInterruption at hint
  rw [hint] at htransient
  cases htransient

theorem Steady.fillOnce_eq_fill {src : Source σ} (h : src.Steady) (maxFds room : Nat) (s : σ) :
    src.fillOnce maxFds room s = src.fill maxFds room s := by
  fun_induction Source.fillOnce src maxFds room s with
  | case1 s => exact (fill_zero src maxFds s).symm
  | case2 room s hroom receipt hout =>
    rw [fill_eq_goOn src maxFds hroom]
    simp only [goOn, receipt, hout]
  | case3 room s hroom receipt b bs hout ih =>
    rw [ih, fill_eq_goOn src maxFds hroom]
    simp only [goOn, receipt, hout]
  | case4 room s hroom receipt e hout =>
    have hint : ¬ e.toIo.isInterruption := h.not_interruption hout
    rw [fill_eq_goOn src maxFds hroom]
    simp only [goOn, receipt, hout, if_neg hint]

end Source

/-- Bytes that arrive together, with control data that needs room for some descriptors. -/
structure Burst where
  data : Bytes
  control : Bytes := []
  fds : Nat := 0

namespace Burst

/-- A receive takes no more than one burst, and fails without room for its descriptors. -/
def receive (bursts : List Burst) (room maxFds : Nat) : Receipt (List Burst) :=
  match bursts with
  | [] => ⟨[], [], .ok []⟩
  | burst :: bursts =>
    if maxFds < burst.fds then ⟨bursts, [], .error (.ancillaryTruncated maxFds)⟩
    else
      { state :=
          if burst.data.length ≤ room then bursts else { data := burst.data.drop room } :: bursts
        control := burst.control
        outcome := .ok (burst.data.take room) }

theorem eq_truncated_of_receive {bursts : List Burst} {room maxFds : Nat} {e : TransportError}
    (h : (receive bursts room maxFds).outcome = .error e) : e = .ancillaryTruncated maxFds := by
  unfold receive at h
  split at h
  · cases h
  split at h
  · cases h
    rfl
  · cases h

def source : Source (List Burst) where
  receive := receive
  patience _ := 0
  length_le bursts room maxFds bytes h := by
    unfold receive at h
    split at h
    · cases h
      exact Nat.zero_le room
    split at h
    · cases h
    · cases h
      exact List.length_take_le _ _
  patience_lt bursts room maxFds h := by
    unfold Receipt.Interrupted at h
    split at h
    · exact h.elim
    · rename_i e he
      rw [eq_truncated_of_receive he] at h
      cases h

theorem steady_source : source.Steady := by
  intro bursts room maxFds e he
  have htruncated : e = .ancillaryTruncated maxFds := eq_truncated_of_receive he
  rw [htruncated]
  rfl

end Burst

namespace Reader

/-- The blocking reader is the polled one with room for at least one descriptor. -/
theorem readMessage_eq_polled {src : Source σ} (h : src.Steady) (config : FrameConfig) :
    readMessage src config =
      PolledReader.readMessage src { config with maxFdsPerRead := roomForFds config } := by
  have hfill : src.fillOnce (roomForFds config) = src.fill (roomForFds config) := by
    funext room s
    exact h.fillOnce_eq_fill (roomForFds config) room s
  funext s
  unfold PolledReader.readMessage
  rw [hfill]
  rfl

end Reader

namespace PolledReader

theorem readMessage_eq {src : Source σ} (h : src.Steady) {config : FrameConfig}
    (hfds : 0 < config.maxFdsPerRead) : readMessage src config = Reader.readMessage src config := by
  have hroom : Reader.roomForFds config = config.maxFdsPerRead := Nat.max_eq_left hfds
  rw [Reader.readMessage_eq_polled h, hroom]

/-- With room for at least one descriptor both readers go in lockstep: they make the same
receives, give the same messages and errors, and close the same descriptors. -/
theorem series_readMessage_eq {src : Source σ} (h : src.Steady) {config : FrameConfig}
    (hfds : 0 < config.maxFdsPerRead) (n : Nat) (s : σ) :
    Step.series (readMessage src config) n s = Step.series (Reader.readMessage src config) n s ∧
    Step.series (readMessage src.journaled config) n (s, []) =
      Step.series (Reader.readMessage src.journaled config) n (s, []) := by
  refine ⟨?_, ?_⟩
  · rw [readMessage_eq h hfds]
  · rw [readMessage_eq h.journaled hfds]

/-- A message with a descriptor, and a byte of another one. -/
theorem series_readMessage_eq_bursts :
    let bursts : List Burst :=
      [{ data := [1, 0, 0, 0], control := Control.encodeRights [⟨7⟩], fds := 1 },
        { data := [3, 0, 8, 0, 1] }]
    let config : FrameConfig := { order := .little, maxFdsPerRead := 1 }
    Burst.source.Steady ∧ 0 < config.maxFdsPerRead ∧
      Step.series (readMessage Burst.source config) 2 bursts =
        ⟨[.ok (.framed ⟨1, 3, 8⟩ [] [⟨7⟩] .little), .error (.truncated 8 1)], [], []⟩ ∧
      Step.series (Reader.readMessage Burst.source config) 2 bursts =
        ⟨[.ok (.framed ⟨1, 3, 8⟩ [] [⟨7⟩] .little), .error (.truncated 8 1)], [], []⟩ := by
  intro bursts config
  have hsteady : Burst.source.Steady := Burst.steady_source
  have hfds : 0 < config.maxFdsPerRead := by decide
  have hpolled : Step.series (readMessage Burst.source config) 2 bursts =
      ⟨[.ok (.framed ⟨1, 3, 8⟩ [] [⟨7⟩] .little), .error (.truncated 8 1)], [], []⟩ := by
    simp only [bursts, config]
    cbv
  obtain ⟨hsame, -⟩ := series_readMessage_eq hsteady hfds 2 bursts
  exact ⟨hsteady, hfds, hpolled, hsame ▸ hpolled⟩

/-- With room for no descriptors the polled reader loses a message that the blocking one reads. -/
theorem readMessage_ne_of_no_room :
    let bursts : List Burst :=
      [{ data := [1, 0, 0, 0], control := Control.encodeRights [⟨7⟩], fds := 1 },
        { data := [3, 0, 8, 0] }]
    let config : FrameConfig := { order := .little, maxFdsPerRead := 0 }
    Burst.source.Steady ∧
      (readMessage Burst.source config bursts).result =
        .error (.transport (.ancillaryTruncated 0)) ∧
      (Reader.readMessage Burst.source config bursts).result =
        .ok (.framed ⟨1, 3, 8⟩ [] [⟨7⟩] .little) := by
  intro bursts config
  refine ⟨Burst.steady_source, ?_, ?_⟩
  · simp only [bursts, config]
    cbv
  · simp only [bursts, config]
    cbv

end PolledReader

end FramedWire
