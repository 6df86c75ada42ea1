import FramedWire.Descriptor
import FramedWire.TransportError

/-!
# Sinks

A stream that takes bytes and, with them, descriptors. A send may take fewer bytes than it
is offered, and it may fail in a way that asks only for another try. `patience` bounds how
often in a row that happens, so sending everything always comes to an end.
-/
namespace FramedWire

structure Sink (σ : Type) where
  /-- One send of `bytes` with descriptors attached to the first of them; the result is how
  many bytes were taken. -/
  send : σ → (bytes : Bytes) → (attached : List Descriptor) → Step σ IoError Nat
  flush : σ → Step σ IoError Unit
  patience : σ → Nat
  send_le : ∀ s bytes attached n, (send s bytes attached).result = .ok n → n ≤ bytes.length
  send_patience_lt : ∀ s bytes attached e, (send s bytes attached).result = .error e →
    e.isTransient → patience (send s bytes attached).state < patience s
  flush_patience_lt : ∀ s e, (flush s).result = .error e → e.isTransient →
    patience (flush s).state < patience s

end FramedWire
