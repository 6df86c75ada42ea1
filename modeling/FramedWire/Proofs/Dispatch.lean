import FramedWire.Sink.Script
import FramedWire.Proofs.Sealed
import FramedWire.Proofs.Transmission
import Mathlib.Data.List.Permutation

/-!
# Dispatches

Messages that are sent in turn, each with the calls that were made for it. A message goes out
once, whatever the outcomes of the sends are, and its descriptors are closed in the end. Outcomes
that ask for another try can be struck out of a script: what is left are the same calls.
-/
namespace FramedWire

variable {σ τ : Type}

structure Dispatch where
  message : Outgoing
  result : Except FrameError Unit
  closed : List Descriptor
  calls : List SinkCall

namespace SinkCall

/-- The bytes that were taken. -/
def accepted : SinkCall → Bytes
  | .send attempt => attempt.accepted
  | .flush _ => []

/-- The call failed and asked for another try. -/
def isTransient : SinkCall → Bool
  | .send ⟨_, _, .error e⟩ => e.isTransient
  | .flush (.error e) => e.isTransient
  | _ => false

theorem flatMap_accepted_send (attempts : List Attempt) :
    (attempts.map send).flatMap accepted = Attempt.acceptedAll attempts := by
  rw [List.flatMap_map]
  rfl

theorem flatMap_accepted_flush (outcomes : List (Except IoError Unit)) :
    (outcomes.map flush).flatMap accepted = [] := by
  rw [List.flatMap_map]
  exact List.flatMap_eq_nil_iff.mpr fun _ _ => rfl

/-- The calls without those that failed only for the moment. -/
def calm (calls : List SinkCall) : List SinkCall := calls.filter fun call => !call.isTransient

theorem calm_concat_of_transient {calls : List SinkCall} {call : SinkCall}
    (h : call.isTransient) : calm (calls ++ [call]) = calm calls := by
  have hnone : calm [call] = [] := List.filter_cons_of_neg (by simp [h])
  rw [calm, List.filter_append, ← calm, ← calm, hnone, List.append_nil]

theorem calm_concat {calls : List SinkCall} {call : SinkCall} (h : ¬ call.isTransient) :
    calm (calls ++ [call]) = calm calls ++ [call] := by
  have hkept : calm [call] = [call] := List.filter_cons_of_pos (by simp [h])
  rw [calm, List.filter_append, ← calm, ← calm, hkept]

end SinkCall

namespace Dispatch

/-- The bytes that were taken for the message. -/
def accepted (d : Dispatch) : Bytes := d.calls.flatMap SinkCall.accepted

structure Faithful (config : FrameConfig) (d : Dispatch) : Prop where
  course : Course config d.message d.calls d.result
  closed : d.closed = d.message.descriptors

theorem Faithful.accepted_of_ok {config : FrameConfig} {d : Dispatch} (h : d.Faithful config)
    (hok : d.result = .ok ()) : d.accepted = d.message.bytes := by
  obtain ⟨m, result, closed, calls⟩ := d
  cases hok
  have hcourse : Course config m calls (.ok ()) := h.course
  cases hcourse with
  | sent hsmall htransmits hflushing =>
    rw [accepted, List.flatMap_append, SinkCall.flatMap_accepted_send,
      SinkCall.flatMap_accepted_flush, List.append_nil]
    exact htransmits.acceptedAll_of_ok

/-- The same without the calls that failed only for the moment. -/
def calm (d : Dispatch) : Dispatch := { d with calls := SinkCall.calm d.calls }

end Dispatch

namespace Writer

/-- A send as a dispatch, with the calls that a sink notes which keeps a journal. -/
def dispatch (sink : Sink σ) (config : FrameConfig) (m : Outgoing) (s : σ) : Dispatch where
  message := m
  result := (send sink config m s).result
  closed := (send sink config m s).closed
  calls := (send sink.journaled config m (s, [])).state.2

/-- Send one message after the other, whatever comes of each. -/
def dispatches (sink : Sink σ) (config : FrameConfig) : List Outgoing → σ → List Dispatch
  | [], _ => []
  | m :: msgs, s =>
    dispatch sink config m s :: dispatches sink config msgs (send sink config m s).state

theorem closed_flush (sink : Sink σ) (s : σ) : (flush sink s).closed = [] := by
  fun_induction flush sink s with
  | case1 => rfl
  | case2 s step e hres htry ih => exact ih
  | case3 => rfl

theorem closed_send (sink : Sink σ) (config : FrameConfig) (m : Outgoing) (s : σ) :
    (send sink config m s).closed = m.descriptors := by
  simp only [send]
  split
  · exact List.append_nil _
  split
  · exact List.append_nil _
  · rename_i s' _ _
    change m.descriptors ++ (flush sink s').closed = m.descriptors
    rw [closed_flush, List.append_nil]

theorem faithful_dispatch (sink : Sink σ) (config : FrameConfig) (m : Outgoing) (s : σ) :
    (dispatch sink config m s).Faithful config := by
  obtain ⟨calls, hsend, hcourse⟩ := send_journaled sink config m s []
  refine ⟨?_, closed_send sink config m s⟩
  simp only [dispatch, hsend]
  exact hcourse

theorem faithful_of_mem_dispatches {sink : Sink σ} {config : FrameConfig} {msgs : List Outgoing}
    {s : σ} {d : Dispatch} (hd : d ∈ dispatches sink config msgs s) : d.Faithful config := by
  induction msgs generalizing s with
  | nil => cases hd
  | cons m msgs ih =>
    rcases List.mem_cons.mp hd with rfl | hd
    · exact faithful_dispatch sink config m s
    · exact ih hd

theorem map_message_dispatches (sink : Sink σ) (config : FrameConfig) (msgs : List Outgoing)
    (s : σ) : (dispatches sink config msgs s).map (·.message) = msgs := by
  induction msgs generalizing s with
  | nil => rfl
  | cons m msgs ih => exact congrArg (m :: ·) (ih _)

end Writer

/-- One sink does what the other does, but for failures that ask for another try: of these it may
have fewer. -/
structure Sink.Calms (sink : Sink σ) (sink' : Sink τ) (R : σ → τ → Prop) : Prop where
  send : ∀ {s s'}, R s s' → ∀ bytes attached,
    (∃ e, (sink.send s bytes attached).result = .error e ∧ e.isTransient ∧
      R (sink.send s bytes attached).state s') ∨
    ((sink'.send s' bytes attached).result = (sink.send s bytes attached).result ∧
      R (sink.send s bytes attached).state (sink'.send s' bytes attached).state)
  flush : ∀ {s s'}, R s s' →
    (∃ e, (sink.flush s).result = .error e ∧ e.isTransient ∧ R (sink.flush s).state s') ∨
    ((sink'.flush s').result = (sink.flush s).result ∧
      R (sink.flush s).state (sink'.flush s').state)

namespace Writer

variable {sink : Sink σ} {sink' : Sink τ} {R : σ → τ → Prop} (h : sink.Calms sink' R)

include h

theorem sendAll_of_calms (bytes : Bytes) (pending : List Descriptor) (s : σ) :
    ∀ s', R s s' →
      (sendAll sink' bytes pending s').result = (sendAll sink bytes pending s).result ∧
      R (sendAll sink bytes pending s).state (sendAll sink' bytes pending s').state := by
  fun_induction sendAll sink bytes pending s with
  | case1 pending s =>
    intro s' hR
    rw [sendAll_nil]
    exact ⟨rfl, hR⟩
  | case2 bytes pending s hbytes step hres =>
    intro s' hR
    obtain ⟨e, he, -, -⟩ | ⟨hsame, hR'⟩ := h.send hR bytes pending
    · cases hres.symm.trans he
    · rw [sendAll_eq_goOn _ hbytes, goOn_of_zero _ _ _ (hsame.trans hres)]
      exact ⟨rfl, hR'⟩
  | case3 bytes pending s hbytes step n hres ih =>
    intro s' hR
    obtain ⟨e, he, -, -⟩ | ⟨hsame, hR'⟩ := h.send hR bytes pending
    · cases hres.symm.trans he
    · rw [sendAll_eq_goOn _ hbytes, goOn_of_taken _ _ _ (hsame.trans hres)]
      exact ih _ hR'
  | case4 bytes pending s hbytes step e hres htry ih =>
    intro s' hR
    obtain ⟨e', -, -, hR'⟩ | ⟨hsame, hR'⟩ := h.send hR bytes pending
    · exact ih _ hR'
    · rw [sendAll_eq_goOn _ hbytes, goOn_of_transient _ _ _ (hsame.trans hres) htry]
      exact ih _ hR'
  | case5 bytes pending s hbytes step e hres htry =>
    intro s' hR
    obtain ⟨e', he', htransient, -⟩ | ⟨hsame, hR'⟩ := h.send hR bytes pending
    · cases hres.symm.trans he'
      exact absurd htransient htry
    · rw [sendAll_eq_goOn _ hbytes, goOn_of_failed _ _ _ (hsame.trans hres) htry]
      exact ⟨rfl, hR'⟩

theorem flush_of_calms (s : σ) :
    ∀ s', R s s' →
      (flush sink' s').result = (flush sink s).result ∧
      R (flush sink s).state (flush sink' s').state := by
  fun_induction flush sink s with
  | case1 s step hres =>
    intro s' hR
    obtain ⟨e, he, -, -⟩ | ⟨hsame, hR'⟩ := h.flush hR
    · cases hres.symm.trans he
    · rw [flush_of_ok (hsame.trans hres)]
      exact ⟨rfl, hR'⟩
  | case2 s step e hres htry ih =>
    intro s' hR
    obtain ⟨e', -, -, hR'⟩ | ⟨hsame, hR'⟩ := h.flush hR
    · exact ih _ hR'
    · rw [flush_of_transient (hsame.trans hres) htry]
      exact ih _ hR'
  | case3 s step e hres htry =>
    intro s' hR
    obtain ⟨e', he', htransient, -⟩ | ⟨hsame, hR'⟩ := h.flush hR
    · cases hres.symm.trans he'
      exact absurd htransient htry
    · rw [flush_of_failed (hsame.trans hres) htry]
      exact ⟨rfl, hR'⟩

theorem send_of_calms (config : FrameConfig) (m : Outgoing) {s : σ} {s' : τ} (hR : R s s') :
    (send sink' config m s').result = (send sink config m s).result ∧
      R (send sink config m s).state (send sink' config m s').state := by
  simp only [send]
  cases Framing.checkSize m.header config.sizeLimit with
  | error e => exact ⟨rfl, hR⟩
  | ok _ =>
    obtain ⟨hresult, hstate⟩ := sendAll_of_calms h m.bytes m.descriptors s s' hR
    dsimp only
    generalize sendAll sink m.bytes m.descriptors s = step at hresult hstate ⊢
    generalize sendAll sink' m.bytes m.descriptors s' = step' at hresult hstate ⊢
    obtain ⟨result, s₁, closed⟩ := step
    obtain ⟨result', s₁', closed'⟩ := step'
    cases hresult
    cases result with
    | error e => exact ⟨rfl, hstate⟩
    | ok _ => exact flush_of_calms h s₁ s₁' hstate

end Writer

namespace SinkScript

variable {e : IoError}

def calmOutcomes (outcomes : List SendOutcome) : List SendOutcome :=
  outcomes.filter fun outcome =>
    match outcome with
    | .accept _ => true
    | .fail e => !e.isTransient

theorem calmOutcomes_fail_of_transient (outcomes : List SendOutcome) (he : e.isTransient) :
    calmOutcomes (.fail e :: outcomes) = calmOutcomes outcomes :=
  List.filter_cons_of_neg (by simp [he])

theorem calmOutcomes_fail (outcomes : List SendOutcome) (he : ¬ e.isTransient) :
    calmOutcomes (.fail e :: outcomes) = .fail e :: calmOutcomes outcomes :=
  List.filter_cons_of_pos (by simp [he])

def calmFlushes (flushes : List (Option IoError)) : List (Option IoError) :=
  flushes.filter (Option.all fun e => !e.isTransient)

theorem calmFlushes_some_of_transient (flushes : List (Option IoError)) (he : e.isTransient) :
    calmFlushes (some e :: flushes) = calmFlushes flushes :=
  List.filter_cons_of_neg (by simp [he])

theorem calmFlushes_some (flushes : List (Option IoError)) (he : ¬ e.isTransient) :
    calmFlushes (some e :: flushes) = some e :: calmFlushes flushes :=
  List.filter_cons_of_pos (by simp [he])

/-- The script without the outcomes that ask for another try. -/
def calm (script : SinkScript) : SinkScript :=
  { script with
    outcomes := calmOutcomes script.outcomes
    flushes := calmFlushes script.flushes }

/-- The other script is what is left of the one, and so is its journal. -/
structure CalmedBy (t t' : SinkScript × List SinkCall) : Prop where
  outcomes : t'.1.outcomes = calmOutcomes t.1.outcomes
  flushes : t'.1.flushes = calmFlushes t.1.flushes
  calls : SinkCall.calm t.2 = t'.2

theorem calms_journaled : sink.journaled.Calms sink.journaled CalmedBy where
  send := by
    rintro ⟨⟨outcomes, flushes, sent, flushed⟩, journal⟩
      ⟨⟨outcomes', flushes', sent', flushed'⟩, journal'⟩ ⟨houtcomes, hflushes, hcalls⟩
      bytes attached
    cases hcalls
    cases outcomes with
    | nil =>
      cases houtcomes
      exact .inr ⟨rfl, rfl, hflushes, SinkCall.calm_concat Bool.false_ne_true⟩
    | cons outcome outcomes =>
      cases outcome with
      | accept n =>
        cases houtcomes
        exact .inr ⟨rfl, rfl, hflushes, SinkCall.calm_concat Bool.false_ne_true⟩
      | fail e =>
        by_cases he : e.isTransient
        · refine .inl ⟨e, rfl, he, ?_, hflushes, ?_⟩
          · exact houtcomes.trans (calmOutcomes_fail_of_transient outcomes he)
          · exact SinkCall.calm_concat_of_transient he
        · cases houtcomes.trans (calmOutcomes_fail outcomes he)
          exact .inr ⟨rfl, rfl, hflushes, SinkCall.calm_concat he⟩
  flush := by
    rintro ⟨⟨outcomes, flushes, sent, flushed⟩, journal⟩
      ⟨⟨outcomes', flushes', sent', flushed'⟩, journal'⟩ ⟨houtcomes, hflushes, hcalls⟩
    cases hcalls
    cases flushes with
    | nil =>
      cases hflushes
      exact .inr ⟨rfl, houtcomes, rfl, SinkCall.calm_concat Bool.false_ne_true⟩
    | cons outcome flushes =>
      cases outcome with
      | none =>
        cases hflushes
        exact .inr ⟨rfl, houtcomes, rfl, SinkCall.calm_concat Bool.false_ne_true⟩
      | some e =>
        by_cases he : e.isTransient
        · refine .inl ⟨e, rfl, he, houtcomes, ?_, ?_⟩
          · exact hflushes.trans (calmFlushes_some_of_transient flushes he)
          · exact SinkCall.calm_concat_of_transient he
        · cases hflushes.trans (calmFlushes_some flushes he)
          exact .inr ⟨rfl, houtcomes, rfl, SinkCall.calm_concat he⟩

end SinkScript

namespace Writer

theorem send_eq_journaled (sink : Sink σ) (config : FrameConfig) (m : Outgoing) (s : σ) :
    (send sink.journaled config m (s, [])).result = (send sink config m s).result ∧
      (send sink.journaled config m (s, [])).state =
        ((send sink config m s).state, (dispatch sink config m s).calls) := by
  obtain ⟨calls, hsend, -⟩ := send_journaled sink config m s []
  simp only [dispatch, hsend]
  exact ⟨rfl, rfl⟩

/-- Outcomes that ask for another try only add calls. -/
theorem dispatches_calm (config : FrameConfig) (msgs : List Outgoing) {script script' : SinkScript}
    (houtcomes : script'.outcomes = SinkScript.calmOutcomes script.outcomes)
    (hflushes : script'.flushes = SinkScript.calmFlushes script.flushes) :
    dispatches SinkScript.sink config msgs script' =
      (dispatches SinkScript.sink config msgs script).map Dispatch.calm := by
  induction msgs generalizing script script' with
  | nil => rfl
  | cons m msgs ih =>
    have hstart : SinkScript.CalmedBy (script, []) (script', []) := ⟨houtcomes, hflushes, rfl⟩
    obtain ⟨hresult, hrest⟩ := send_of_calms SinkScript.calms_journaled config m hstart
    obtain ⟨hresult₁, hstate₁⟩ := send_eq_journaled SinkScript.sink config m script
    obtain ⟨hresult₂, hstate₂⟩ := send_eq_journaled SinkScript.sink config m script'
    rw [hresult₁, hresult₂] at hresult
    rw [hstate₁, hstate₂] at hrest
    have hcalls : (dispatch SinkScript.sink config m script').calls =
        SinkCall.calm (dispatch SinkScript.sink config m script).calls := hrest.calls.symm
    have hclosed := (closed_send SinkScript.sink config m script').trans
      (closed_send SinkScript.sink config m script).symm
    rw [dispatches, dispatches, List.map_cons, ih hrest.outcomes hrest.flushes]
    congr 1
    simp only [Dispatch.calm, ← hcalls]
    simp only [dispatch, hresult, hclosed]

/-- Messages that are sent in turn go out in order, each of them once and whole unless its own
send fails, and what asks for another try makes no difference to it. -/
theorem dispatches_faithful (sink : Sink σ) (config : FrameConfig) (msgs : List Outgoing) (s : σ)
    (script : SinkScript) :
    (dispatches sink config msgs s).map (·.message) = msgs ∧
    (∀ d ∈ dispatches sink config msgs s, d.Faithful config) ∧
    ((∀ d ∈ dispatches sink config msgs s, d.result = .ok ()) →
      (dispatches sink config msgs s).flatMap Dispatch.accepted = msgs.flatMap Outgoing.bytes) ∧
    dispatches SinkScript.sink config msgs script.calm =
      (dispatches SinkScript.sink config msgs script).map Dispatch.calm := by
  refine ⟨map_message_dispatches sink config msgs s, ?_, ?_, dispatches_calm config msgs rfl rfl⟩
  · intro d hd
    exact faithful_of_mem_dispatches hd
  · intro hok
    have heach : ∀ d ∈ dispatches sink config msgs s, d.accepted = d.message.bytes := by
      intro d hd
      exact (faithful_of_mem_dispatches hd).accepted_of_ok (hok d hd)
    calc (dispatches sink config msgs s).flatMap Dispatch.accepted
        = (dispatches sink config msgs s).flatMap fun d => d.message.bytes :=
          List.flatMap_congr heach
      _ = ((dispatches sink config msgs s).map (·.message)).flatMap Outgoing.bytes := by
          rw [List.flatMap_map]
      _ = msgs.flatMap Outgoing.bytes := by rw [map_message_dispatches]

/-- An interruption, three bytes taken, a wait, and an interrupted flush. -/
theorem dispatches_faithful_two :
    let first := Builder.sealed ⟨1, 2, .little, [], [⟨7⟩]⟩
    let second := Builder.sealed ⟨3, 4, .little, [1, 2, 3, 4], []⟩
    let interrupted : IoError := .plain .interrupted
    let script : SinkScript :=
      { outcomes := [.fail interrupted, .accept 3, .fail (.plain .wouldBlock)]
        flushes := [some interrupted] }
    let ds := dispatches SinkScript.sink {} [first, second] script
    (∀ d ∈ ds, d.result = .ok ()) ∧
      ds.flatMap Dispatch.accepted =
        [1, 0, 0, 0, 2, 0, 8, 0, 3, 0, 0, 0, 4, 0, 12, 0, 1, 2, 3, 4] := by
  intro first second interrupted script ds
  have hresults : ds.map (·.result) = [.ok (), .ok ()] := by
    simp only [ds, script, interrupted, first, second]
    cbv
  have hok : ∀ d ∈ ds, d.result = .ok () := by
    intro d hd
    have hresult := List.mem_map_of_mem (f := (·.result)) hd
    rw [hresults] at hresult
    simpa using hresult
  obtain ⟨-, -, haccepted, -⟩ :=
    dispatches_faithful SinkScript.sink {} [first, second] script script
  exact ⟨hok, haccepted hok⟩

end Writer

end FramedWire
