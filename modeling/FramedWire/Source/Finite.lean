import FramedWire.Source

/-!
# Finite sources

A source with only so many bytes to deliver. Whatever is read from it lessens its supply,
so a loop that gets at least one byte in every round comes to an end.
-/
namespace FramedWire

/-- How many bytes a receive delivered. -/
def Receipt.delivered {σ : Type} (r : Receipt σ) : Nat :=
  match r.outcome with
  | .ok bytes => bytes.length
  | .error _ => 0

/-- How many bytes filling a buffer delivered. -/
def Filled.delivered {σ : Type} (f : Filled σ) : Nat :=
  match f.outcome with
  | .ok bytes => bytes.length
  | .error _ => 0

structure FiniteSource (σ : Type) extends Source σ where
  /-- A bound on the bytes still to come. -/
  supply : σ → Nat
  supply_le : ∀ s room maxFds,
    (receive s room maxFds).delivered + supply (receive s room maxFds).state ≤ supply s

namespace Filled

variable {σ : Type}

@[simp] theorem state_after (control bytes : Bytes) (f : Filled σ) :
    (f.after control bytes).state = f.state := rfl

theorem delivered_after_le (control bytes : Bytes) (f : Filled σ) :
    (f.after control bytes).delivered ≤ bytes.length + f.delivered := by
  unfold delivered after
  cases f.outcome <;> simp [Except.map]

end Filled

namespace FiniteSource

variable {σ : Type}

/-- Filling a buffer takes no more than is there. -/
theorem delivered_fill_le (src : FiniteSource σ) (maxFds room : Nat) (s : σ) :
    (src.fill maxFds room s).delivered + src.supply (src.fill maxFds room s).state ≤
      src.supply s := by
  fun_induction Source.fill src.toSource maxFds room s with
  | case1 s => simp [Filled.delivered]
  | case2 room s _ receipt hout =>
    have hle : receipt.delivered + src.supply receipt.state ≤ src.supply s :=
      src.supply_le s room maxFds
    simp only [Filled.delivered, List.length_nil]
    omega
  | case3 room s _ receipt b bs hout ih =>
    have hle : receipt.delivered + src.supply receipt.state ≤ src.supply s :=
      src.supply_le s room maxFds
    have hdelivered : receipt.delivered = (b :: bs).length := by
      unfold Receipt.delivered
      rw [hout]
    have hafter := Filled.delivered_after_le receipt.control (b :: bs)
      (src.fill maxFds (room - (b :: bs).length) receipt.state)
    rw [Filled.state_after]
    omega
  | case4 room s _ receipt e hout _ ih =>
    have hle : receipt.delivered + src.supply receipt.state ≤ src.supply s :=
      src.supply_le s room maxFds
    have hafter := Filled.delivered_after_le receipt.control []
      (src.fill maxFds room receipt.state)
    rw [List.length_nil] at hafter
    rw [Filled.state_after]
    omega
  | case5 room s _ receipt e hout _ =>
    have hle : receipt.delivered + src.supply receipt.state ≤ src.supply s :=
      src.supply_le s room maxFds
    simp only [Filled.delivered]
    omega

end FiniteSource

end FramedWire
