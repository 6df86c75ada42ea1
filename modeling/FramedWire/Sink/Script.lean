import FramedWire.Sink

/-!
# Scripted sinks

A sink that follows a script of outcomes, one for each send and one for each flush, and
accepts everything once they are used up. It keeps a record of every send: the bytes that
were accepted and the descriptors that were offered.
-/
namespace FramedWire

/-- What a send meets: room for so many bytes, or a failure. -/
inductive SendOutcome where
  | accept (atMost : Nat)
  | fail (e : IoError)

structure SendRecord where
  accepted : Bytes
  offered : List Descriptor
  deriving DecidableEq, Repr

structure SinkScript where
  outcomes : List SendOutcome := []
  flushes : List (Option IoError) := []
  /-- Every send so far, the latest first. -/
  sent : List SendRecord := []
  /-- How many flushes there were. -/
  flushed : Nat := 0

namespace SinkScript

/-- A send that takes the first `n` of `bytes`. -/
def taking (s : SinkScript) (n : Nat) (bytes : Bytes) (attached : List Descriptor) :
    Step SinkScript IoError Nat :=
  .done (min n bytes.length) { s with sent := ⟨bytes.take n, attached⟩ :: s.sent }

def send (s : SinkScript) (bytes : Bytes) (attached : List Descriptor) :
    Step SinkScript IoError Nat :=
  match s.outcomes with
  | [] => s.taking bytes.length bytes attached
  | .accept n :: outcomes => { s with outcomes }.taking n bytes attached
  | .fail e :: outcomes => .fail e { s with outcomes, sent := ⟨[], attached⟩ :: s.sent }

def flush (s : SinkScript) : Step SinkScript IoError Unit :=
  match s.flushes with
  | [] => .done () { s with flushed := s.flushed + 1 }
  | none :: flushes => .done () { s with flushes, flushed := s.flushed + 1 }
  | some e :: flushes => .fail e { s with flushes, flushed := s.flushed + 1 }

def sink : Sink SinkScript where
  send := send
  flush := flush
  patience s := s.outcomes.length + s.flushes.length
  send_le s bytes attached n h := by
    unfold send taking at h
    split at h <;> cases h <;> exact Nat.min_le_right _ _
  send_patience_lt s bytes attached e h _ := by
    unfold send taking at h ⊢
    split at h <;> cases h
    simp_all
  flush_patience_lt s e h _ := by
    unfold flush at h ⊢
    split at h <;> cases h
    simp_all

end SinkScript

end FramedWire
