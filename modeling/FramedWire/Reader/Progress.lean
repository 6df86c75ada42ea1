import FramedWire.Reader
import FramedWire.Source.Finite

/-!
# Progress of readers

A message takes at least its header from the stream, so a stream with only so many bytes
holds only so many messages.
-/
namespace FramedWire

variable {σ : Type}

namespace Framing

section

variable {fill : Nat → σ → Filled σ} {supply : σ → Nat}
  (hfill : ∀ room s, (fill room s).delivered + supply (fill room s).state ≤ supply s)

include hfill

/-- A header lessens the supply by at least half of it. -/
theorem supply_readHeader_lt {config : FrameConfig} {s : σ} {header : Header}
    (h : (readHeader fill config s).outcome = .ok header) :
    supply (readHeader fill config s).state < supply s := by
  unfold readHeader at h ⊢
  rcases h₁ : fill 4 s with ⟨s₁, c₁, e | first⟩
  · simp [h₁] at h
  · have hle₁ := hfill 4 s
    simp only [h₁, Filled.delivered] at hle₁ h ⊢
    split at h
    · cases h
    · split at h
      · cases h
      · rename_i hempty hshort
        rw [if_neg hempty, if_neg hshort]
        rcases h₂ : fill 4 s₁ with ⟨s₂, c₂, e | second⟩
        · simp [h₂] at h
        · have hle₂ := hfill 4 s₁
          simp only [h₂, Filled.delivered] at hle₂ h ⊢
          split at h
          · cases h
          · rename_i hshort₂
            rw [if_neg hshort₂]
            simp only
            omega

theorem supply_readPayload_le (header : Header) (s : σ) :
    supply (readPayload fill header s).state ≤ supply s := by
  have hle := hfill header.payloadLen s
  unfold readPayload
  rcases hread : fill header.payloadLen s with ⟨s', c, e | payload⟩
  · simp only [hread] at hle ⊢
    omega
  · simp only [hread] at hle ⊢
    split <;> simp only <;> omega

/-- The bytes of a message lessen the supply. -/
theorem supply_readEnvelope_lt {config : FrameConfig} {s : σ} {received : Header × Bytes}
    (h : (readEnvelope fill config s).outcome = .ok received) :
    supply (readEnvelope fill config s).state < supply s := by
  unfold readEnvelope at h ⊢
  rcases hread : readHeader fill config s with ⟨s₁, c, e | header⟩
  · simp [hread] at h
  · have hlt : supply s₁ < supply s := by
      have hheader := supply_readHeader_lt hfill (congrArg (·.outcome) hread)
      rw [hread] at hheader
      exact hheader
    have hle := supply_readPayload_le hfill header s₁
    simp only
    omega

end

end Framing

namespace Reader

/-- Every message that is read lessens the supply. -/
theorem supply_readMessage_lt (src : FiniteSource σ) {config : FrameConfig} {s : σ} {m : Message}
    (h : (readMessage src.toSource config s).result = .ok m) :
    src.supply (readMessage src.toSource config s).state < src.supply s := by
  have hfill := src.delivered_fill_le (roomForFds config)
  unfold readMessage Framing.finishEnvelope at h ⊢
  split at h
  · cases h
  · rename_i header payload houtcome
    have hlt := Framing.supply_readEnvelope_lt hfill houtcome
    split at h
    · cases h
    · rename_i queue hqueue
      exact hlt

end Reader

end FramedWire
