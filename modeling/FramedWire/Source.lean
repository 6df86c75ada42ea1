import FramedWire.TransportError
import FramedWire.Bytes

/-!
# Sources

A stream that delivers bytes and, beside them, control bytes. One receive may be
interrupted and made again, but not for ever: `patience` bounds how often in a row. With
that bound in the type, reading until a buffer is full always comes to an end.
-/
namespace FramedWire

/-- The outcome of one receive. Control bytes may come with a failure as well. -/
structure Receipt (σ : Type) where
  state : σ
  control : Bytes
  outcome : Except TransportError Bytes

namespace Receipt

/-- The receive was interrupted and is to be made again. -/
def Interrupted {σ : Type} (r : Receipt σ) : Prop :=
  match r.outcome with
  | .ok _ => False
  | .error e => e.toIo.isInterruption

end Receipt

structure Source (σ : Type) where
  /-- One receive of at most `room` bytes, with room for `maxFds` descriptors. No bytes at
  all mean that the stream has ended. -/
  receive : σ → (room maxFds : Nat) → Receipt σ
  patience : σ → Nat
  length_le : ∀ s room maxFds bytes,
    (receive s room maxFds).outcome = .ok bytes → bytes.length ≤ room
  patience_lt : ∀ s room maxFds, (receive s room maxFds).Interrupted →
    patience (receive s room maxFds).state < patience s

/-- What came of filling a buffer. -/
structure Filled (σ : Type) where
  state : σ
  /-- The control bytes of all receives, in order. -/
  control : Bytes
  outcome : Except IoError Bytes

/-- What was received before the rest. -/
def Filled.after {σ : Type} (control bytes : Bytes) (f : Filled σ) : Filled σ :=
  { state := f.state, control := control ++ f.control, outcome := f.outcome.map (bytes ++ ·) }

namespace Source

variable {σ : Type}

/-- Receive until `room` bytes are there or the stream ends. An interrupted receive is
made again. -/
def fill (src : Source σ) (maxFds room : Nat) (s : σ) : Filled σ :=
  if _hroom : room = 0 then ⟨s, [], .ok []⟩
  else
    let receipt := src.receive s room maxFds
    match _hout : receipt.outcome with
    | .ok [] => ⟨receipt.state, receipt.control, .ok []⟩
    | .ok (b :: bs) =>
      (fill src maxFds (room - (b :: bs).length) receipt.state).after receipt.control (b :: bs)
    | .error e =>
      if _hint : e.toIo.isInterruption then
        (fill src maxFds room receipt.state).after receipt.control []
      else ⟨receipt.state, receipt.control, .error e.toIo⟩
termination_by (room, src.patience s)
decreasing_by
  · apply Prod.Lex.left
    simp only [List.length_cons]
    omega
  · apply Prod.Lex.right
    apply src.patience_lt
    change match receipt.outcome with | .ok _ => False | .error e => _
    rw [_hout]
    exact _hint

/-- Receive until `room` bytes are there or the stream ends. Every failure ends it. -/
def fillOnce (src : Source σ) (maxFds room : Nat) (s : σ) : Filled σ :=
  if _hroom : room = 0 then ⟨s, [], .ok []⟩
  else
    let receipt := src.receive s room maxFds
    match receipt.outcome with
    | .ok [] => ⟨receipt.state, receipt.control, .ok []⟩
    | .ok (b :: bs) =>
      (fillOnce src maxFds (room - (b :: bs).length) receipt.state).after receipt.control (b :: bs)
    | .error e => ⟨receipt.state, receipt.control, .error e.toIo⟩
termination_by room
decreasing_by
  simp only [List.length_cons]
  omega

/-- Receive exactly `room` bytes; it is an error if the stream ends before. -/
def readExact (src : Source σ) (maxFds room : Nat) (s : σ) : Filled σ :=
  let filled := src.fill maxFds room s
  match filled.outcome with
  | .error _ => filled
  | .ok bytes =>
    if bytes.length < room then
      { filled with outcome := .error (.described .unexpectedEof "failed to fill whole buffer") }
    else filled

end Source

end FramedWire
