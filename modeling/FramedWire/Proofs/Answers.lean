import FramedWire.Proofs.Series
import FramedWire.Proofs.Settlement

/-!
# What a reader knows of its source

A reader uses its source only by receiving from it. So the answers it gets determine what it does,
and any other source that gives these answers is read in the same way, whatever is in store behind
them. What is found out about one source in this way holds of all that answer like it: of a source
that keeps a journal, of a reader's own buffer for control bytes, and of a source that is going to
fail later.
-/
namespace FramedWire

structure Exchange where
  room : Nat
  maxFds : Nat
  control : Bytes
  outcome : Except TransportError Bytes

/-- What a journal has of a receive. -/
def Exchange.entry (x : Exchange) : Receive := ⟨x.room, x.maxFds, x.control⟩

inductive Source.Answers {σ : Type} (src : Source σ) : List Exchange → σ → σ → Prop
  | nil (s : σ) : Answers src [] s s
  | cons {x : Exchange} {xs : List Exchange} {s s₁ s₂ : σ} :
      src.receive s x.room x.maxFds = ⟨s₁, x.control, x.outcome⟩ → Answers src xs s₁ s₂ →
      Answers src (x :: xs) s s₂

section

variable {σ τ α ε : Type}

/-- The same, but the source that is left is in another state. -/
def Filled.leaving (f : Filled σ) (t : τ) : Filled τ := ⟨t, f.control, f.outcome⟩

def Framing.Envelope.leaving (e : Framing.Envelope σ α) (t : τ) : Framing.Envelope τ α :=
  ⟨t, e.control, e.outcome⟩

def Step.leaving (step : Step σ ε α) (t : τ) : Step τ ε α := ⟨step.result, t, step.closed⟩

end

namespace Source

variable {σ τ : Type} {src : Source σ}

theorem Answers.append {xs ys : List Exchange} {s s₁ s₂ : σ} (h : src.Answers xs s s₁)
    (h' : src.Answers ys s₁ s₂) : src.Answers (xs ++ ys) s s₂ := by
  induction h with
  | nil s => exact h'
  | cons hreceive _ ih => exact .cons hreceive (ih h')

theorem Answers.of_append {xs ys : List Exchange} {s s₂ : σ} (h : src.Answers (xs ++ ys) s s₂) :
    ∃ s₁, src.Answers xs s s₁ ∧ src.Answers ys s₁ s₂ := by
  induction xs generalizing s with
  | nil => exact ⟨s, .nil s, h⟩
  | cons x xs ih =>
    cases h with
    | cons hreceive hrest =>
      obtain ⟨s₁, hxs, hys⟩ := ih hrest
      exact ⟨s₁, .cons hreceive hxs, hys⟩

theorem Answers.journaled {xs : List Exchange} {s s' : σ} (h : src.Answers xs s s')
    (journal : Journal) :
    src.journaled.Answers xs (s, journal) (s', journal ++ xs.map Exchange.entry) := by
  induction h generalizing journal with
  | nil s =>
    rw [List.map_nil, List.append_nil]
    exact .nil _
  | @cons x xs s s₁ s₂ hreceive _ ih =>
    rw [List.map_cons, List.append_cons]
    apply Answers.cons _ (ih (journal ++ [x.entry]))
    simp only [Source.journaled, hreceive]
    rfl

theorem receive_of_outcome {s : σ} {room maxFds : Nat} {outcome : Except TransportError Bytes}
    (h : (src.receive s room maxFds).outcome = outcome) :
    src.receive s room maxFds =
      ⟨(src.receive s room maxFds).state, (src.receive s room maxFds).control, outcome⟩ := by
  rw [← h]

theorem fill_answers (src : Source σ) (maxFds room : Nat) (s : σ) :
    ∃ xs, src.Answers xs s (src.fill maxFds room s).state ∧
      ∀ (τ : Type) (src' : Source τ) (t t' : τ), src'.Answers xs t t' →
        src'.fill maxFds room t = (src.fill maxFds room s).leaving t' := by
  fun_induction Source.fill src maxFds room s with
  | case1 s =>
    refine ⟨[], .nil s, ?_⟩
    intro τ src' t t' h
    cases h
    exact fill_zero src' maxFds t
  | case2 room s hroom receipt hout =>
    refine ⟨[⟨room, maxFds, receipt.control, .ok []⟩], ?_, ?_⟩
    · exact .cons (receive_of_outcome hout) (.nil receipt.state)
    · intro τ src' t t' h
      cases h with
      | cons hreceive hrest =>
        cases hrest
        rw [fill_eq_goOn src' maxFds hroom, hreceive]
        rfl
  | case3 room s hroom receipt b bs hout ih =>
    obtain ⟨xs, hxs, hfill⟩ := ih
    refine ⟨⟨room, maxFds, receipt.control, .ok (b :: bs)⟩ :: xs, ?_, ?_⟩
    · exact .cons (receive_of_outcome hout) hxs
    · intro τ src' t t' h
      cases h with
      | cons hreceive hrest =>
        rw [fill_eq_goOn src' maxFds hroom, hreceive]
        dsimp only [goOn]
        rw [hfill τ src' _ t' hrest]
        rfl
  | case4 room s hroom receipt e hout hint ih =>
    obtain ⟨xs, hxs, hfill⟩ := ih
    refine ⟨⟨room, maxFds, receipt.control, .error e⟩ :: xs, ?_, ?_⟩
    · exact .cons (receive_of_outcome hout) hxs
    · intro τ src' t t' h
      cases h with
      | cons hreceive hrest =>
        rw [fill_eq_goOn src' maxFds hroom, hreceive]
        dsimp only [goOn]
        rw [if_pos hint, hfill τ src' _ t' hrest]
        rfl
  | case5 room s hroom receipt e hout hint =>
    refine ⟨[⟨room, maxFds, receipt.control, .error e⟩], ?_, ?_⟩
    · exact .cons (receive_of_outcome hout) (.nil receipt.state)
    · intro τ src' t t' h
      cases h with
      | cons hreceive hrest =>
        cases hrest
        rw [fill_eq_goOn src' maxFds hroom, hreceive]
        dsimp only [goOn]
        rw [if_neg hint]
        rfl

end Source

namespace Framing

variable {σ : Type} (src : Source σ) (maxFds : Nat)

theorem readHeader_answers (config : FrameConfig) (s : σ) :
    ∃ xs, src.Answers xs s (readHeader (src.fill maxFds) config s).state ∧
      ∀ (τ : Type) (src' : Source τ) (t t' : τ), src'.Answers xs t t' →
        readHeader (src'.fill maxFds) config t =
          (readHeader (src.fill maxFds) config s).leaving t' := by
  obtain ⟨xs, hxs, hfirst⟩ := src.fill_answers maxFds 4 s
  unfold readHeader
  generalize src.fill maxFds 4 s = f at hxs hfirst ⊢
  obtain ⟨s₁, control₁, e | first⟩ := f
  · refine ⟨xs, hxs, ?_⟩
    intro τ src' t t' h
    rw [hfirst τ src' t t' h]
    rfl
  dsimp only
  by_cases hnone : first.length = 0
  · refine ⟨xs, ?_, ?_⟩
    · rw [if_pos hnone]
      exact hxs
    · intro τ src' t t' h
      rw [hfirst τ src' t t' h]
      simp only [Filled.leaving, if_pos hnone]
      rfl
  by_cases hshort : first.length < 4
  · refine ⟨xs, ?_, ?_⟩
    · rw [if_neg hnone, if_pos hshort]
      exact hxs
    · intro τ src' t t' h
      rw [hfirst τ src' t t' h]
      simp only [Filled.leaving, if_neg hnone, if_pos hshort]
      rfl
  obtain ⟨ys, hys, hsecond⟩ := src.fill_answers maxFds 4 s₁
  rw [if_neg hnone, if_neg hshort]
  generalize src.fill maxFds 4 s₁ = f at hys hsecond ⊢
  refine ⟨xs ++ ys, ?_, ?_⟩
  · obtain ⟨s₂, control₂, e | second⟩ := f
    · exact hxs.append hys
    · dsimp only
      split
      · exact hxs.append hys
      · exact hxs.append hys
  · intro τ src' t t' h
    obtain ⟨t₁, h₁, h₂⟩ := h.of_append
    rw [hfirst τ src' t t₁ h₁]
    simp only [Filled.leaving, if_neg hnone, if_neg hshort, hsecond τ src' t₁ t' h₂]
    obtain ⟨s₂, control₂, e | second⟩ := f
    · rfl
    · dsimp only
      split
      · rfl
      · rfl

theorem readPayload_answers (header : Header) (s : σ) :
    ∃ xs, src.Answers xs s (readPayload (src.fill maxFds) header s).state ∧
      ∀ (τ : Type) (src' : Source τ) (t t' : τ), src'.Answers xs t t' →
        readPayload (src'.fill maxFds) header t =
          (readPayload (src.fill maxFds) header s).leaving t' := by
  obtain ⟨xs, hxs, hfill⟩ := src.fill_answers maxFds header.payloadLen s
  unfold readPayload
  generalize src.fill maxFds header.payloadLen s = f at hxs hfill ⊢
  refine ⟨xs, ?_, ?_⟩
  · obtain ⟨s₁, control, e | payload⟩ := f
    · exact hxs
    · dsimp only
      split
      · exact hxs
      · exact hxs
  · intro τ src' t t' h
    rw [hfill τ src' t t' h]
    obtain ⟨s₁, control, e | payload⟩ := f
    · rfl
    · dsimp only [Filled.leaving]
      split
      · rfl
      · rfl

theorem readEnvelope_answers (config : FrameConfig) (s : σ) :
    ∃ xs, src.Answers xs s (readEnvelope (src.fill maxFds) config s).state ∧
      ∀ (τ : Type) (src' : Source τ) (t t' : τ), src'.Answers xs t t' →
        readEnvelope (src'.fill maxFds) config t =
          (readEnvelope (src.fill maxFds) config s).leaving t' := by
  obtain ⟨xs, hxs, hhead⟩ := readHeader_answers src maxFds config s
  unfold readEnvelope
  generalize readHeader (src.fill maxFds) config s = head at hxs hhead ⊢
  obtain ⟨s₁, control, e | header⟩ := head
  · refine ⟨xs, hxs, ?_⟩
    intro τ src' t t' h
    rw [hhead τ src' t t' h]
    rfl
  · obtain ⟨ys, hys, hbody⟩ := readPayload_answers src maxFds header s₁
    refine ⟨xs ++ ys, hxs.append hys, ?_⟩
    intro τ src' t t' h
    obtain ⟨t₁, h₁, h₂⟩ := h.of_append
    rw [hhead τ src' t t₁ h₁]
    simp only [Envelope.leaving, hbody τ src' t₁ t' h₂]

theorem finishEnvelope_leaving {τ : Type} (config : FrameConfig) (e : Envelope σ (Header × Bytes))
    (t : τ) : finishEnvelope config (e.leaving t) = (finishEnvelope config e).leaving t := by
  obtain ⟨s, control, err | ⟨header, payload⟩⟩ := e
  · rfl
  · simp only [finishEnvelope, Envelope.leaving]
    cases Control.take control with
    | error err => rfl
    | ok queue => rfl

theorem state_finishEnvelope (config : FrameConfig) (e : Envelope σ (Header × Bytes)) :
    (finishEnvelope config e).state = e.state := by
  obtain ⟨s, control, err | ⟨header, payload⟩⟩ := e
  · rfl
  · simp only [finishEnvelope]
    cases Control.take control with
    | error err => rfl
    | ok queue => rfl

end Framing

namespace Reader

section

variable {σ : Type} (src : Source σ) (config : FrameConfig) (s : σ)

theorem envelope_answers :
    ∃ xs, src.Answers xs s (envelope src config s).state ∧
      Journal.control (xs.map Exchange.entry) = (envelope src config s).control ∧
      ∀ (τ : Type) (src' : Source τ) (t t' : τ), src'.Answers xs t t' →
        envelope src' config t = (envelope src config s).leaving t' := by
  obtain ⟨xs, hxs, hread⟩ := Framing.readEnvelope_answers src (roomForFds config) config s
  refine ⟨xs, hxs, ?_, hread⟩
  -- the journal, once as it is kept and once as the answers determine it
  obtain ⟨entries, hlogged, hcontrol⟩ :=
    Framing.readEnvelope_journaled (src.fill_journaled (roomForFds config)) config s []
  rw [hread _ src.journaled (s, []) _ (hxs.journaled [])] at hlogged
  have hentries : xs.map Exchange.entry = entries :=
    congrArg (fun e => e.state.2) hlogged
  rw [hentries]
  exact hcontrol

/-- What a reader makes of a source hangs on the answers it gets. -/
theorem readMessage_answers :
    ∃ xs, src.Answers xs s (readMessage src config s).state ∧
      ∀ (τ : Type) (src' : Source τ) (t t' : τ), src'.Answers xs t t' →
        readMessage src' config t = (readMessage src config s).leaving t' := by
  obtain ⟨xs, hxs, -, hread⟩ := envelope_answers src config s
  refine ⟨xs, ?_, ?_⟩
  · rw [readMessage, Framing.state_finishEnvelope]
    exact hxs
  · intro τ src' t t' h
    have henvelope := congrArg (Framing.finishEnvelope config) (hread τ src' t t' h)
    rw [Framing.finishEnvelope_leaving] at henvelope
    exact henvelope

theorem call_answers :
    ∃ xs, src.Answers xs s (readMessage src config s).state ∧
      (call src config s).journal = xs.map Exchange.entry ∧
      ∀ (τ : Type) (src' : Source τ) (t t' : τ), src'.Answers xs t t' →
        call src' config t = call src config s ∧ (readMessage src' config t).state = t' := by
  obtain ⟨xs, hxs, hread⟩ := readMessage_answers src config s
  have hcall (τ : Type) (src' : Source τ) (t t' : τ) (h : src'.Answers xs t t') :
      call src' config t = ⟨(readMessage src config s).result, (readMessage src config s).closed,
        xs.map Exchange.entry⟩ := by
    rw [call, hread τ src' t t' h, hread _ src'.journaled (t, []) _ (h.journaled [])]
    rfl
  have hself := hcall σ src s _ hxs
  refine ⟨xs, hxs, congrArg Call.journal hself, ?_⟩
  intro τ src' t t' h
  refine ⟨(hcall τ src' t t' h).trans hself.symm, ?_⟩
  rw [hread τ src' t t' h]
  rfl

end

section

variable {σ : Type} (src : Source σ) (config : FrameConfig)

/-- The stream after `n` calls. -/
def after (n : Nat) (s : σ) : σ := (Step.series (readMessage src config) n s).state

@[simp] theorem after_zero (s : σ) : after src config 0 s = s := rfl

theorem after_succ (n : Nat) (s : σ) :
    after src config (n + 1) s = after src config n (readMessage src config s).state := rfl

@[simp] theorem length_calls (n : Nat) (s : σ) : (calls src config n s).length = n := by
  induction n generalizing s with
  | zero => rfl
  | succ n ih => rw [calls, List.length_cons, ih]

theorem after_add (n k : Nat) (s : σ) :
    after src config (n + k) s = after src config k (after src config n s) := by
  induction n generalizing s with
  | zero => rw [Nat.zero_add, after_zero]
  | succ n ih => rw [Nat.succ_add, after_succ, after_succ, ih]

theorem calls_add (n k : Nat) (s : σ) :
    calls src config (n + k) s =
      calls src config n s ++ calls src config k (after src config n s) := by
  induction n generalizing s with
  | zero => rw [Nat.zero_add, calls, after_zero, List.nil_append]
  | succ n ih => rw [Nat.succ_add, calls, calls, ih, after_succ, List.cons_append]

/-- How many receives some calls made. -/
def receives (cs : List Call) : Nat := (cs.flatMap (·.journal)).length

/-- Any number of calls hangs on the answers, of which there is one for each receive. -/
theorem calls_answers (n : Nat) (s : σ) :
    ∃ xs, src.Answers xs s (after src config n s) ∧
      receives (calls src config n s) = xs.length ∧
      ∀ (τ : Type) (src' : Source τ) (t t' : τ), src'.Answers xs t t' →
        calls src' config n t = calls src config n s ∧ after src' config n t = t' := by
  induction n generalizing s with
  | zero =>
    refine ⟨[], .nil s, rfl, ?_⟩
    intro τ src' t t' h
    cases h
    exact ⟨rfl, rfl⟩
  | succ n ih =>
    obtain ⟨xs, hxs, hjournal, hfirst⟩ := call_answers src config s
    obtain ⟨ys, hys, hreceives, hrest⟩ := ih (readMessage src config s).state
    refine ⟨xs ++ ys, hxs.append hys, ?_, ?_⟩
    · rw [calls, receives, List.flatMap_cons, List.length_append, hjournal, List.length_map,
        List.length_append, ← hreceives, receives]
    · intro τ src' t t' h
      obtain ⟨t₁, h₁, h₂⟩ := h.of_append
      obtain ⟨hcall, hstate⟩ := hfirst τ src' t t₁ h₁
      rw [calls, calls, after_succ, hcall, hstate, (hrest τ src' t₁ t' h₂).1]
      exact ⟨rfl, (hrest τ src' t₁ t' h₂).2⟩

end

end Reader

/-- A reader between two calls: its stream, and the buffer for control bytes as the last call has
left it. -/
structure Reader.Kept (σ : Type) where
  inner : σ
  ancillary : Bytes

variable {σ : Type}

/-- The stream of a reader; control bytes are appended to the reader's buffer. -/
def Source.buffered (src : Source σ) : Source (Reader.Kept σ) where
  receive kept room maxFds :=
    let receipt := src.receive kept.inner room maxFds
    { state := ⟨receipt.state, kept.ancillary ++ receipt.control⟩
      control := receipt.control
      outcome := receipt.outcome }
  patience kept := src.patience kept.inner
  length_le kept := src.length_le kept.inner
  patience_lt kept := src.patience_lt kept.inner

theorem Source.Answers.buffered {src : Source σ} {xs : List Exchange} {s s' : σ}
    (h : src.Answers xs s s') (ancillary : Bytes) :
    src.buffered.Answers xs ⟨s, ancillary⟩
      ⟨s', ancillary ++ Journal.control (xs.map Exchange.entry)⟩ := by
  induction h generalizing ancillary with
  | nil s =>
    rw [List.map_nil, Journal.control, List.flatMap_nil, List.append_nil]
    exact .nil _
  | @cons x xs s s₁ s₂ hreceive _ ih =>
    rw [List.map_cons, Journal.control, List.flatMap_cons, ← List.append_assoc]
    apply Answers.cons _ (ih (ancillary ++ x.entry.control))
    simp only [Source.buffered, hreceive]
    rfl

namespace Reader.Kept

/-- Read the next message. The buffer is cleared first, and what is in it in the end goes with the
message or is closed. -/
def readMessage (src : Source σ) (config : FrameConfig) (kept : Kept σ) :
    Step (Kept σ) FrameError Message :=
  let e := envelope src.buffered config { kept with ancillary := [] }
  Framing.finishEnvelope config { e with control := e.state.ancillary }

/-- Nothing hangs on what an earlier call has left in the buffer. -/
theorem readMessage_eq (src : Source σ) (config : FrameConfig) (kept : Kept σ) :
    readMessage src config kept =
      (Reader.readMessage src config kept.inner).leaving
        ⟨(Reader.readMessage src config kept.inner).state,
          (envelope src config kept.inner).control⟩ := by
  obtain ⟨xs, hxs, hcontrol, hread⟩ := envelope_answers src config kept.inner
  have hbuffered := hread _ src.buffered _ _ (hxs.buffered [])
  rw [List.nil_append, hcontrol] at hbuffered
  rw [readMessage, hbuffered]
  have hstate : (Reader.readMessage src config kept.inner).state =
      (envelope src config kept.inner).state := Framing.state_finishEnvelope config _
  rw [hstate]
  exact Framing.finishEnvelope_leaving config _ _

/-- So its calls are those of a reader without a buffer. -/
theorem series_readMessage (src : Source σ) (config : FrameConfig) (n : Nat) (kept : Kept σ) :
    let series := Step.series (readMessage src config) n kept
    series.results = (calls src config n kept.inner).map (·.result) ∧
      series.closed = (calls src config n kept.inner).flatMap (·.closed) := by
  induction n generalizing kept with
  | zero => exact ⟨rfl, rfl⟩
  | succ n ih =>
    obtain ⟨hresults, hclosed⟩ := ih (readMessage src config kept).state
    dsimp only [Step.series, calls, List.map_cons, List.flatMap_cons]
    rw [hresults, hclosed, readMessage_eq]
    exact ⟨rfl, rfl⟩

end Reader.Kept

end FramedWire
