import FramedWire.Sink

/-!
# Sinks over a bare socket

A bare socket reports every interruption and every "not now". A blocking stream makes an
interrupted send again itself; a polled stream also waits until a send is possible. Both
layers are sinks over the same bare one and make the same calls of it.
-/
namespace FramedWire

namespace Sink

variable {σ : Type}

/-- Send once, again and again while `retries` says so of the failure. -/
def sendWhile (bare : Sink σ) (retries : IoError → Bool)
    (hretries : ∀ e, retries e → e.isTransient) (s : σ) (bytes : Bytes)
    (attached : List Descriptor) : Step σ IoError Nat :=
  let step := bare.send s bytes attached
  match _hres : step.result with
  | .ok n => { result := .ok n, state := step.state, closed := step.closed }
  | .error e =>
    if _htry : retries e then
      (sendWhile bare retries hretries step.state bytes attached).closing step.closed
    else { result := .error e, state := step.state, closed := step.closed }
termination_by bare.patience s
decreasing_by exact bare.send_patience_lt s bytes attached e _hres (hretries e _htry)

variable {bare : Sink σ} {retries : IoError → Bool} {hretries : ∀ e, retries e → e.isTransient}

theorem sendWhile_le {s : σ} {bytes : Bytes} {attached : List Descriptor} {n : Nat}
    (h : (sendWhile bare retries hretries s bytes attached).result = .ok n) :
    n ≤ bytes.length := by
  fun_induction sendWhile bare retries hretries s bytes attached with
  | case1 s step m hres =>
    cases h
    exact bare.send_le _ _ _ _ hres
  | case2 s step e hres htry ih => exact ih h
  | case3 s step e hres htry => cases h

/-- A retried failure is never seen above the layer. -/
theorem retries_of_sendWhile_eq_error {s : σ} {bytes : Bytes} {attached : List Descriptor}
    {e : IoError} (h : (sendWhile bare retries hretries s bytes attached).result = .error e) :
    retries e = false := by
  fun_induction sendWhile bare retries hretries s bytes attached with
  | case1 s step m hres => cases h
  | case2 s step e' hres htry ih => exact ih h
  | case3 s step e' hres htry =>
    cases h
    simpa using htry

theorem patience_sendWhile_lt {s : σ} {bytes : Bytes} {attached : List Descriptor}
    {e : IoError} (h : (sendWhile bare retries hretries s bytes attached).result = .error e)
    (he : e.isTransient) :
    bare.patience (sendWhile bare retries hretries s bytes attached).state < bare.patience s := by
  fun_induction sendWhile bare retries hretries s bytes attached with
  | case1 s step m hres => cases h
  | case2 s step e' hres htry ih =>
    exact Nat.lt_trans (ih h) (bare.send_patience_lt _ _ _ _ hres (hretries _ htry))
  | case3 s step e' hres htry =>
    cases h
    exact bare.send_patience_lt _ _ _ _ hres he

/-- A layer that repeats the sends whose failure `retries` names. -/
def retrying (bare : Sink σ) (retries : IoError → Bool)
    (hretries : ∀ e, retries e → e.isTransient) : Sink σ where
  send := bare.sendWhile retries hretries
  flush := bare.flush
  patience := bare.patience
  send_le _ _ _ _ h := sendWhile_le h
  send_patience_lt _ _ _ _ h he := patience_sendWhile_lt h he
  flush_patience_lt := bare.flush_patience_lt

/-- A blocking stream: an interrupted send is made again. -/
def blocking (bare : Sink σ) : Sink σ :=
  bare.retrying IoError.isInterruption
    (fun e h => by simp_all [IoError.isInterruption, IoError.isTransient])

/-- A polled stream: a send is made again until it succeeds or fails for good. -/
def polled (bare : Sink σ) : Sink σ := bare.retrying IoError.isTransient (fun _ h => h)

end Sink

end FramedWire
