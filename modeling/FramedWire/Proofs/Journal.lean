import FramedWire.Reader

/-!
# Journals of receives

Which receives a reader makes, and which control bytes each of them brings. The source keeps the
journal, so that the very same reader runs with it and without it: `readMessage_journaled` says
that nothing else changes, and that the journal holds all control bytes that were handed over.
-/
namespace FramedWire

structure Receive where
  room : Nat
  maxFds : Nat
  control : Bytes
  deriving DecidableEq, Repr

abbrev Journal := List Receive

/-- All control bytes in the order in which they came. -/
def Journal.control (journal : Journal) : Bytes := journal.flatMap (·.control)

theorem Journal.control_append (journal journal' : Journal) :
    control (journal ++ journal') = control journal ++ control journal' :=
  List.flatMap_append

variable {σ : Type}

namespace Source

/-- The same source, with a journal of its receives. -/
def journaled (src : Source σ) : Source (σ × Journal) where
  receive s room maxFds :=
    let receipt := src.receive s.1 room maxFds
    { state := (receipt.state, s.2 ++ [⟨room, maxFds, receipt.control⟩])
      control := receipt.control
      outcome := receipt.outcome }
  patience s := src.patience s.1
  length_le s := src.length_le s.1
  patience_lt s := src.patience_lt s.1

theorem fill_zero (src : Source σ) (maxFds : Nat) (s : σ) :
    src.fill maxFds 0 s = ⟨s, [], .ok []⟩ := by
  rw [fill, dif_pos rfl]

/-- How filling a buffer of `room` bytes goes on after its first receive. -/
def goOn (src : Source σ) (maxFds room : Nat) (receipt : Receipt σ) : Filled σ :=
  match receipt.outcome with
  | .ok [] => ⟨receipt.state, receipt.control, .ok []⟩
  | .ok (b :: bs) =>
    (src.fill maxFds (room - (b :: bs).length) receipt.state).after receipt.control (b :: bs)
  | .error e =>
    if e.toIo.isInterruption then (src.fill maxFds room receipt.state).after receipt.control []
    else ⟨receipt.state, receipt.control, .error e.toIo⟩

theorem fill_eq_goOn (src : Source σ) (maxFds : Nat) {room : Nat} (hroom : room ≠ 0) (s : σ) :
    src.fill maxFds room s = src.goOn maxFds room (src.receive s room maxFds) := by
  rw [fill, dif_neg hroom]
  dsimp only
  split
  all_goals
    rename_i hout
    simp only [goOn, hout]
  rfl

end Source

/-- The same with a journal beside the state. -/
def Filled.logged (f : Filled σ) (journal : Journal) : Filled (σ × Journal) :=
  ⟨(f.state, journal), f.control, f.outcome⟩

namespace Source

/-- Beside the journal nothing changes, and the journal has all control bytes. -/
theorem fill_journaled (src : Source σ) (maxFds room : Nat) (s : σ) (journal : Journal) :
    ∃ entries : Journal,
      src.journaled.fill maxFds room (s, journal) =
        (src.fill maxFds room s).logged (journal ++ entries) ∧
      entries.control = (src.fill maxFds room s).control := by
  -- the entry of this receive goes before those of the rest, for any journal so far
  fun_induction Source.fill src maxFds room s generalizing journal with
  | case1 s =>
    refine ⟨[], ?_, rfl⟩
    rw [fill_zero, List.append_nil]
    rfl
  | case2 room s hroom receipt hout =>
    refine ⟨[⟨room, maxFds, receipt.control⟩], ?_, List.append_nil _⟩
    rw [fill_eq_goOn _ _ hroom]
    simp only [goOn, journaled, receipt, hout]
    rfl
  | case3 room s hroom receipt b bs hout ih =>
    obtain ⟨entries, hfill, hcontrol⟩ := ih (journal ++ [⟨room, maxFds, receipt.control⟩])
    refine ⟨⟨room, maxFds, receipt.control⟩ :: entries, ?_, ?_⟩
    · rw [fill_eq_goOn _ _ hroom, List.append_cons]
      have hreceive :
          (src.journaled.receive (s, journal) room maxFds).outcome = .ok (b :: bs) := hout
      simp only [goOn, hreceive]
      exact congrArg (·.after receipt.control (b :: bs)) hfill
    · exact congrArg (receipt.control ++ ·) hcontrol
  | case4 room s hroom receipt e hout hint ih =>
    obtain ⟨entries, hfill, hcontrol⟩ := ih (journal ++ [⟨room, maxFds, receipt.control⟩])
    refine ⟨⟨room, maxFds, receipt.control⟩ :: entries, ?_, ?_⟩
    · rw [fill_eq_goOn _ _ hroom, List.append_cons]
      have hreceive : (src.journaled.receive (s, journal) room maxFds).outcome = .error e := hout
      simp only [goOn, hreceive, if_pos hint]
      exact congrArg (·.after receipt.control []) hfill
    · exact congrArg (receipt.control ++ ·) hcontrol
  | case5 room s hroom receipt e hout hint =>
    refine ⟨[⟨room, maxFds, receipt.control⟩], ?_, List.append_nil _⟩
    rw [fill_eq_goOn _ _ hroom]
    have hreceive : (src.journaled.receive (s, journal) room maxFds).outcome = .error e := hout
    simp only [goOn, hreceive, if_neg hint]
    rfl

end Source

namespace Framing

variable {α : Type}

/-- The same with a journal beside the state. -/
def Envelope.logged (e : Envelope σ α) (journal : Journal) : Envelope (σ × Journal) α :=
  ⟨(e.state, journal), e.control, e.outcome⟩

/-- `e'` is `e` with a journal, which goes on from `journal` with all control bytes of `e`. -/
def Envelope.Journals (journal : Journal) (e : Envelope σ α) (e' : Envelope (σ × Journal) α) :
    Prop :=
  ∃ entries : Journal, e' = e.logged (journal ++ entries) ∧ entries.control = e.control

section

variable {fill : (room : Nat) → σ → Filled σ}
  {fill' : (room : Nat) → σ × Journal → Filled (σ × Journal)}
  (hfill : ∀ room s journal, ∃ entries : Journal,
    fill' room (s, journal) = (fill room s).logged (journal ++ entries) ∧
      entries.control = (fill room s).control)

include hfill

theorem readHeader_journaled (config : FrameConfig) (s : σ) (journal : Journal) :
    (readHeader fill config s).Journals journal (readHeader fill' config (s, journal)) := by
  obtain ⟨entries₁, hfill₁, hcontrol₁⟩ := hfill 4 s journal
  unfold readHeader
  rw [hfill₁]
  generalize fill 4 s = first at hcontrol₁ ⊢
  obtain ⟨s₁, control₁, outcome₁⟩ := first
  cases outcome₁ with
  | error e => exact ⟨entries₁, rfl, hcontrol₁⟩
  | ok bytes₁ =>
    dsimp only [Filled.logged]
    split
    · exact ⟨entries₁, rfl, hcontrol₁⟩
    split
    · exact ⟨entries₁, rfl, hcontrol₁⟩
    obtain ⟨entries₂, hfill₂, hcontrol₂⟩ := hfill 4 s₁ (journal ++ entries₁)
    have hcontrol : Journal.control (entries₁ ++ entries₂) = control₁ ++ (fill 4 s₁).control := by
      rw [Journal.control_append, hcontrol₁, hcontrol₂]
    rw [hfill₂, List.append_assoc]
    generalize fill 4 s₁ = second at hcontrol ⊢
    obtain ⟨s₂, control₂, outcome₂⟩ := second
    cases outcome₂ with
    | error e => exact ⟨entries₁ ++ entries₂, rfl, hcontrol⟩
    | ok bytes₂ =>
      dsimp only [Filled.logged]
      split
      · exact ⟨entries₁ ++ entries₂, rfl, hcontrol⟩
      · exact ⟨entries₁ ++ entries₂, rfl, hcontrol⟩

theorem readPayload_journaled (header : Header) (s : σ) (journal : Journal) :
    (readPayload fill header s).Journals journal (readPayload fill' header (s, journal)) := by
  obtain ⟨entries, hfill, hcontrol⟩ := hfill header.payloadLen s journal
  unfold readPayload
  rw [hfill]
  generalize fill header.payloadLen s = body at hcontrol ⊢
  obtain ⟨s', control, outcome⟩ := body
  cases outcome with
  | error e => exact ⟨entries, rfl, hcontrol⟩
  | ok payload =>
    dsimp only [Filled.logged]
    split
    · exact ⟨entries, rfl, hcontrol⟩
    · exact ⟨entries, rfl, hcontrol⟩

theorem readEnvelope_journaled (config : FrameConfig) (s : σ) (journal : Journal) :
    (readEnvelope fill config s).Journals journal (readEnvelope fill' config (s, journal)) := by
  obtain ⟨entries₁, hheader, hcontrol₁⟩ := readHeader_journaled hfill config s journal
  unfold readEnvelope
  rw [hheader]
  generalize readHeader fill config s = head at hcontrol₁ ⊢
  obtain ⟨s₁, control₁, outcome₁⟩ := head
  cases outcome₁ with
  | error e => exact ⟨entries₁, rfl, hcontrol₁⟩
  | ok header =>
    obtain ⟨entries₂, hpayload, hcontrol₂⟩ :=
      readPayload_journaled hfill header s₁ (journal ++ entries₁)
    have hcontrol : Journal.control (entries₁ ++ entries₂) =
        control₁ ++ (readPayload fill header s₁).control := by
      rw [Journal.control_append, hcontrol₁, hcontrol₂]
    dsimp only [Envelope.logged]
    rw [hpayload, List.append_assoc]
    exact ⟨entries₁ ++ entries₂, rfl, hcontrol⟩

end

theorem finishEnvelope_logged (config : FrameConfig) (e : Envelope σ (Header × Bytes))
    (journal : Journal) :
    finishEnvelope config (e.logged journal) =
      { result := (finishEnvelope config e).result
        state := ((finishEnvelope config e).state, journal)
        closed := (finishEnvelope config e).closed } := by
  obtain ⟨s, control, outcome⟩ := e
  cases outcome with
  | error err => rfl
  | ok framed =>
    simp only [finishEnvelope, Envelope.logged]
    cases Control.take control with
    | error err => rfl
    | ok queue => rfl

end Framing

namespace Reader

/-- The envelope that one call reads. -/
def envelope (src : Source σ) (config : FrameConfig) (s : σ) :
    Framing.Envelope σ (Header × Bytes) :=
  Framing.readEnvelope (src.fill (roomForFds config)) config s

/-- A reader reads the same from a source that keeps a journal, and the journal goes on with all
control bytes of the message. -/
theorem readMessage_journaled (src : Source σ) (config : FrameConfig) (s : σ)
    (journal : Journal) :
    ∃ entries : Journal,
      readMessage src.journaled config (s, journal) =
        { result := (readMessage src config s).result
          state := ((readMessage src config s).state, journal ++ entries)
          closed := (readMessage src config s).closed } ∧
      entries.control = (envelope src config s).control := by
  have hfill : ∀ room s journal, ∃ entries : Journal,
      src.journaled.fill (roomForFds config) room (s, journal) =
        (src.fill (roomForFds config) room s).logged (journal ++ entries) ∧
      entries.control = (src.fill (roomForFds config) room s).control :=
    src.fill_journaled (roomForFds config)
  obtain ⟨entries, henvelope, hcontrol⟩ :=
    Framing.readEnvelope_journaled hfill config s journal
  refine ⟨entries, ?_, hcontrol⟩
  rw [readMessage, henvelope, Framing.finishEnvelope_logged]
  rfl

end Reader

end FramedWire
