import FramedWire.Proofs.SinkJournal
import FramedWire.Sink.Layers

/-!
# Retries in different layers

A send that failed for the moment is made again, and it makes no difference who sees to it. A
blocking stream repeats an interrupted send itself and leaves the other failures to the writer
above it; a polled stream repeats both kinds, and its writer none. Either way the bare sink below
gets the calls that a writer makes of it directly.
-/
namespace FramedWire

variable {σ : Type}

namespace Sink

/-- No failure of the sink asks for another try. -/
def Steady (sink : Sink σ) : Prop :=
  ∀ s bytes attached e, (sink.send s bytes attached).result = .error e → e.isTransient = false

theorem steady_polled (bare : Sink σ) : bare.polled.Steady :=
  fun _ _ _ _ h => retries_of_sendWhile_eq_error h

section

variable {bare : Sink σ} {retries : IoError → Bool} {h : ∀ e, retries e → e.isTransient}
  {s : σ} {bytes : Bytes} {attached : List Descriptor}

theorem sendWhile_of_ok {n : Nat} (hres : (bare.send s bytes attached).result = .ok n) :
    sendWhile bare retries h s bytes attached = bare.send s bytes attached := by
  rw [sendWhile]
  split
  · rename_i m hm
    rw [← hm]
  · rename_i e he
    cases hres.symm.trans he

theorem sendWhile_of_final {e : IoError} (hres : (bare.send s bytes attached).result = .error e)
    (hfinal : ¬ retries e) :
    sendWhile bare retries h s bytes attached = bare.send s bytes attached := by
  rw [sendWhile]
  split
  · rename_i m hm
    cases hres.symm.trans hm
  · rename_i e' he'
    cases hres.symm.trans he'
    rw [dif_neg hfinal, ← he']

theorem sendWhile_of_retried {e : IoError} (hres : (bare.send s bytes attached).result = .error e)
    (hagain : retries e) :
    sendWhile bare retries h s bytes attached =
      (sendWhile bare retries h (bare.send s bytes attached).state bytes attached).closing
        (bare.send s bytes attached).closed := by
  rw [sendWhile]
  split
  · rename_i m hm
    cases hres.symm.trans hm
  · rename_i e' he'
    cases hres.symm.trans he'
    rw [dif_pos hagain]

end

end Sink

namespace Writer

theorem closed_sendAll (sink : Sink σ) (bytes : Bytes) (pending : List Descriptor) (s : σ) :
    (sendAll sink bytes pending s).closed = [] := by
  fun_induction sendAll sink bytes pending s with
  | case1 => rfl
  | case2 => rfl
  | case3 bytes pending s hbytes step n hres ih => exact ih
  | case4 bytes pending s hbytes step e hres htry ih => exact ih
  | case5 => rfl

/-- The sends that a layer below the writer makes again, the writer would make itself. -/
theorem sendAll_retrying (bare : Sink σ) (retries : IoError → Bool)
    (h : ∀ e, retries e → e.isTransient) (bytes : Bytes) (pending : List Descriptor) (s : σ) :
    sendAll (bare.retrying retries h) bytes pending s = sendAll bare bytes pending s := by
  -- The induction is on the calls of the bare sink. After a repeated send the layer is where it
  -- would be if it had been called anew, so that the same hypothesis serves either layer.
  fun_induction sendAll bare bytes pending s with
  | case1 pending s => exact sendAll_nil _ pending s
  | case2 bytes pending s hbytes step hres =>
    have hsend : (bare.retrying retries h).send s bytes pending = step := Sink.sendWhile_of_ok hres
    rw [sendAll_eq_goOn _ hbytes, hsend, goOn_of_zero _ _ _ hres]
  | case3 bytes pending s hbytes step n hres ih =>
    have hsend : (bare.retrying retries h).send s bytes pending = step := Sink.sendWhile_of_ok hres
    rw [sendAll_eq_goOn _ hbytes, hsend, goOn_of_taken _ _ _ hres, ih]
  | case4 bytes pending s hbytes step e hres htry ih =>
    rw [← ih, sendAll_eq_goOn _ hbytes]
    by_cases hagain : retries e
    · have hsend : (bare.retrying retries h).send s bytes pending =
          ((bare.retrying retries h).send step.state bytes pending).closing step.closed :=
        Sink.sendWhile_of_retried hres hagain
      rw [hsend, sendAll_eq_goOn _ hbytes]
      rfl
    · have hsend : (bare.retrying retries h).send s bytes pending = step :=
        Sink.sendWhile_of_final hres hagain
      rw [hsend, goOn_of_transient _ _ _ hres htry]
  | case5 bytes pending s hbytes step e hres htry =>
    have hsend : (bare.retrying retries h).send s bytes pending = step :=
      Sink.sendWhile_of_final hres fun hagain => htry (h e hagain)
    rw [sendAll_eq_goOn _ hbytes, hsend, goOn_of_failed _ _ _ hres htry]

end Writer

namespace PolledWriter

theorem sendAll_eq {sink : Sink σ} (h : sink.Steady) (bytes : Bytes) (pending : List Descriptor)
    (s : σ) : sendAll sink bytes pending s = Writer.sendAll sink bytes pending s := by
  fun_induction sendAll sink bytes pending s with
  | case1 pending s => exact (Writer.sendAll_nil sink pending s).symm
  | case2 bytes pending s hbytes step hres =>
    rw [Writer.sendAll_eq_goOn sink hbytes, Writer.goOn_of_zero _ _ _ hres]
  | case3 bytes pending s hbytes step n hres ih =>
    rw [ih, Writer.sendAll_eq_goOn sink hbytes, Writer.goOn_of_taken _ _ _ hres]
  | case4 bytes pending s hbytes step e hres =>
    have hfinal : ¬ e.isTransient := by
      rw [h s bytes pending e hres]
      exact Bool.false_ne_true
    rw [Writer.sendAll_eq_goOn sink hbytes, Writer.goOn_of_failed _ _ _ hres hfinal]

/-- Over a stream that repeats sends on its own, this writer makes the calls of a blocking one. -/
theorem sendAll_polled (bare : Sink σ) (bytes : Bytes) (pending : List Descriptor) (s : σ) :
    sendAll bare.polled bytes pending s = Writer.sendAll bare.blocking bytes pending s := by
  have hpolled : Writer.sendAll bare.polled bytes pending s =
      Writer.sendAll bare bytes pending s := Writer.sendAll_retrying bare _ _ bytes pending s
  have hblocking : Writer.sendAll bare.blocking bytes pending s =
      Writer.sendAll bare bytes pending s := Writer.sendAll_retrying bare _ _ bytes pending s
  rw [sendAll_eq bare.steady_polled, hpolled, hblocking]

theorem send_unbuffered (bare : Sink σ) (config : FrameConfig) (m : Outgoing) (s : σ) :
    send bare.unbuffered.polled config m s =
      Writer.send bare.unbuffered.blocking config m s := by
  simp only [send, Writer.send]
  cases Framing.checkSize m.header config.sizeLimit with
  | error e => rfl
  | ok _ =>
    have hclosed := Writer.closed_sendAll bare.unbuffered.blocking m.bytes m.descriptors s
    dsimp only
    rw [sendAll_polled]
    generalize Writer.sendAll bare.unbuffered.blocking m.bytes m.descriptors s = step
      at hclosed ⊢
    obtain ⟨e | _, s', closed⟩ := step
    · cases hclosed
      rfl
    · cases hclosed
      have hflush : Writer.flush bare.unbuffered.blocking s' = .done () s' :=
        Writer.flush_of_ok rfl
      dsimp only
      rw [hflush]
      rfl

/-- Whatever each send of a bare socket comes to, the two writers make the same calls of it, with
the same bytes and descriptors. They end with the same result, leave the socket in the same state
and close the same descriptors. -/
theorem send_eq_blocking (bare : Sink σ) (config : FrameConfig) (m : Outgoing) (s : σ)
    (journal : List SinkCall) :
    send bare.unbuffered.polled config m s =
      Writer.send bare.unbuffered.blocking config m s ∧
    send bare.journaled.unbuffered.polled config m (s, journal) =
      Writer.send bare.journaled.unbuffered.blocking config m (s, journal) :=
  -- the journal is kept by the bare socket, so it is one of the sockets this is about
  ⟨send_unbuffered bare config m s, send_unbuffered bare.journaled config m (s, journal)⟩

end PolledWriter

end FramedWire
