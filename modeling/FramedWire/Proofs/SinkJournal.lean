import FramedWire.Writer

/-!
# Journals of sends

Which calls are made of a sink, and what comes of each. The sink keeps the journal, so that the
very same writer runs with it and without it. How a writer goes on after a call is said once, by
`Writer.goOn` and the three rules for a flush; all that follows of its loops is derived from these.
-/
namespace FramedWire

structure Attempt where
  offered : Bytes
  attached : List Descriptor
  outcome : Except IoError Nat

inductive SinkCall where
  | send (attempt : Attempt)
  | flush (outcome : Except IoError Unit)

namespace Attempt

/-- The bytes that were taken. -/
def accepted (a : Attempt) : Bytes :=
  match a.outcome with
  | .ok n => a.offered.take n
  | .error _ => []

/-- All bytes that were taken in a row of sends. -/
def acceptedAll (attempts : List Attempt) : Bytes := attempts.flatMap accepted

end Attempt

/-- The same step with a journal beside the state. -/
def Step.logged {σ ε α : Type} (step : Step σ ε α) (journal : List SinkCall) :
    Step (σ × List SinkCall) ε α :=
  { result := step.result, state := (step.state, journal), closed := step.closed }

namespace Sink

variable {σ : Type}

/-- The same sink, with a journal of its calls. -/
def journaled (sink : Sink σ) : Sink (σ × List SinkCall) where
  send s bytes attached :=
    let step := sink.send s.1 bytes attached
    step.logged (s.2 ++ [.send ⟨bytes, attached, step.result⟩])
  flush s :=
    let step := sink.flush s.1
    step.logged (s.2 ++ [.flush step.result])
  patience s := sink.patience s.1
  send_le s := sink.send_le s.1
  send_patience_lt s := sink.send_patience_lt s.1
  flush_patience_lt s := sink.flush_patience_lt s.1

/-- The same sink, with nothing to flush: what was sent is not kept back. -/
def unbuffered (sink : Sink σ) : Sink σ where
  send := sink.send
  flush := .done ()
  patience := sink.patience
  send_le := sink.send_le
  send_patience_lt := sink.send_patience_lt
  flush_patience_lt _ _ h _ := nomatch h

end Sink

namespace Writer

variable {σ : Type}

/-- How sending all of `bytes` goes on after the first send. -/
def goOn (sink : Sink σ) (bytes : Bytes) (pending : List Descriptor) (first : Step σ IoError Nat) :
    Step σ FrameError Unit :=
  match first.result with
  | .ok 0 => .fail .connectionClosed first.state
  | .ok (n + 1) => sendAll sink (bytes.drop (n + 1)) [] first.state
  | .error e =>
    if e.isTransient then sendAll sink bytes pending first.state
    else .fail (.ofSend e) first.state

section

variable (sink : Sink σ) (bytes : Bytes) (pending : List Descriptor) {first : Step σ IoError Nat}

theorem goOn_of_zero (h : first.result = .ok 0) :
    goOn sink bytes pending first = .fail .connectionClosed first.state := by
  rw [goOn, h]

theorem goOn_of_taken {n : Nat} (h : first.result = .ok (n + 1)) :
    goOn sink bytes pending first = sendAll sink (bytes.drop (n + 1)) [] first.state := by
  rw [goOn, h]

theorem goOn_of_transient {e : IoError} (h : first.result = .error e) (he : e.isTransient) :
    goOn sink bytes pending first = sendAll sink bytes pending first.state := by
  rw [goOn, h]
  exact if_pos he

theorem goOn_of_failed {e : IoError} (h : first.result = .error e) (he : ¬ e.isTransient) :
    goOn sink bytes pending first = .fail (.ofSend e) first.state := by
  rw [goOn, h]
  exact if_neg he

end

theorem sendAll_nil (sink : Sink σ) (pending : List Descriptor) (s : σ) :
    sendAll sink [] pending s = .done () s := by
  rw [sendAll, dif_pos rfl]

theorem sendAll_eq_goOn (sink : Sink σ) {bytes : Bytes} (hbytes : bytes ≠ [])
    (pending : List Descriptor) (s : σ) :
    sendAll sink bytes pending s = goOn sink bytes pending (sink.send s bytes pending) := by
  rw [sendAll, dif_neg hbytes]
  dsimp only
  split
  all_goals
    rename_i hres
    simp only [goOn, hres]
  rfl

section

variable {sink : Sink σ} {s : σ}

theorem flush_of_ok (h : (sink.flush s).result = .ok ()) :
    flush sink s = .done () (sink.flush s).state := by
  rw [flush]
  split
  · rfl
  · rename_i e he
    cases h.symm.trans he

theorem flush_of_transient {e : IoError} (h : (sink.flush s).result = .error e)
    (htransient : e.isTransient) : flush sink s = flush sink (sink.flush s).state := by
  rw [flush]
  split
  · rename_i hok
    cases h.symm.trans hok
  · rename_i e' he
    cases h.symm.trans he
    rw [dif_pos htransient]

theorem flush_of_failed {e : IoError} (h : (sink.flush s).result = .error e)
    (hfinal : ¬ e.isTransient) : flush sink s = .fail (.io e) (sink.flush s).state := by
  rw [flush]
  split
  · rename_i hok
    cases h.symm.trans hok
  · rename_i e' he
    cases h.symm.trans he
    rw [dif_neg hfinal]

end

end Writer

end FramedWire
