import FramedWire.Proofs.SinkJournal

/-!
# Transmission

What a writer makes of the outcomes that it meets. Every send offers just the bytes that were not
taken yet, with all descriptors of the message until a byte was taken and with none from then on.
A send that fails for the moment is made again and changes nothing else; any other failure ends
the transmission, and so does a send that takes nothing.
-/
namespace FramedWire

variable {σ : Type}

namespace Attempt

/-- Why the transmission ends with this send, if it does. -/
def failure? (a : Attempt) : Option FrameError :=
  match a.outcome with
  | .ok 0 => some .connectionClosed
  | .ok (_ + 1) => none
  | .error e => if e.isTransient then none else some (.ofSend e)

@[simp] theorem acceptedAll_cons (a : Attempt) (attempts : List Attempt) :
    acceptedAll (a :: attempts) = a.accepted ++ acceptedAll attempts := rfl

theorem acceptedAll_append (attempts attempts' : List Attempt) :
    acceptedAll (attempts ++ attempts') = acceptedAll attempts ++ acceptedAll attempts' :=
  List.flatMap_append

end Attempt

open Attempt (acceptedAll)

/-- The sends of a transmission of `bytes`, with `pending` attached until a byte is taken, and
the result with which it ends. -/
inductive Sending : (bytes : Bytes) → (pending : List Descriptor) → List Attempt →
    Except FrameError Unit → Prop
  | done (pending : List Descriptor) : Sending [] pending [] (.ok ())
  | closed {bytes : Bytes} (pending : List Descriptor) : bytes ≠ [] →
      Sending bytes pending [⟨bytes, pending, .ok 0⟩] (.error .connectionClosed)
  | taken {bytes : Bytes} (pending : List Descriptor) {n : Nat} {attempts : List Attempt}
      {result : Except FrameError Unit} : n + 1 ≤ bytes.length →
      Sending (bytes.drop (n + 1)) [] attempts result →
      Sending bytes pending (⟨bytes, pending, .ok (n + 1)⟩ :: attempts) result
  | again {bytes : Bytes} {pending : List Descriptor} {e : IoError} {attempts : List Attempt}
      {result : Except FrameError Unit} : e.isTransient → Sending bytes pending attempts result →
      Sending bytes pending (⟨bytes, pending, .error e⟩ :: attempts) result
  | failed (bytes : Bytes) (pending : List Descriptor) {e : IoError} : ¬ e.isTransient →
      Sending bytes pending [⟨bytes, pending, .error e⟩] (.error (.ofSend e))

inductive Flushing : List (Except IoError Unit) → Except FrameError Unit → Prop
  | done : Flushing [.ok ()] (.ok ())
  | again {e : IoError} {outcomes : List (Except IoError Unit)}
      {result : Except FrameError Unit} : e.isTransient → Flushing outcomes result →
      Flushing (.error e :: outcomes) result
  | failed {e : IoError} : ¬ e.isTransient → Flushing [.error e] (.error (.io e))

namespace Sending

variable {bytes : Bytes} {pending : List Descriptor} {attempts : List Attempt}
  {result : Except FrameError Unit}

/-- After some sends the transmission goes on with the bytes that none of them took. -/
theorem rest {before after : List Attempt} {a : Attempt}
    (h : Sending bytes pending (before ++ a :: after) result) :
    ∃ left, acceptedAll before ++ left = bytes ∧
      Sending left (if acceptedAll before = [] then pending else []) (a :: after) result := by
  induction before generalizing bytes pending with
  | nil => exact ⟨bytes, rfl, h⟩
  | cons first before ih =>
    rw [List.cons_append] at h
    generalize hlater : before ++ a :: after = later at h
    have hsome : later ≠ [] := by
      rw [← hlater]
      exact List.append_ne_nil_of_right_ne_nil _ (List.cons_ne_nil _ _)
    cases h with
    | closed => exact absurd rfl hsome
    | failed => exact absurd rfl hsome
    | again he hrest =>
      rw [← hlater] at hrest
      exact ih hrest
    | @taken _ _ n _ _ hn hrest =>
      rw [← hlater] at hrest
      obtain ⟨left, hleft, hsending⟩ := ih hrest
      have hfirst : acceptedAll (⟨bytes, pending, .ok (n + 1)⟩ :: before) =
          bytes.take (n + 1) ++ acceptedAll before := rfl
      have hpos : bytes.take (n + 1) ++ acceptedAll before ≠ [] := by
        apply List.append_ne_nil_of_left_ne_nil
        rw [← List.length_pos_iff, List.length_take_of_le hn]
        exact Nat.succ_pos n
      rw [ite_self] at hsending
      rw [hfirst, if_neg hpos]
      refine ⟨left, ?_, hsending⟩
      rw [List.append_assoc, hleft]
      exact List.take_append_drop _ _

theorem offered_eq {a : Attempt} (h : Sending bytes pending (a :: attempts) result) :
    a.offered = bytes := by
  cases h <;> rfl

theorem attached_eq {a : Attempt} (h : Sending bytes pending (a :: attempts) result) :
    a.attached = pending := by
  cases h <;> rfl

theorem ends_of_failure {a : Attempt} (h : Sending bytes pending (a :: attempts) result)
    {e : FrameError} (he : a.failure? = some e) : attempts = [] ∧ result = .error e := by
  cases h with
  | closed =>
    cases he
    exact ⟨rfl, rfl⟩
  | taken => cases he
  | again htransient =>
    simp only [Attempt.failure?, if_pos htransient] at he
    cases he
  | failed _ _ hfinal =>
    simp only [Attempt.failure?, if_neg hfinal] at he
    cases he
    exact ⟨rfl, rfl⟩

theorem acceptedAll_prefix (h : Sending bytes pending attempts result) :
    acceptedAll attempts <+: bytes := by
  induction h with
  | done => exact List.nil_prefix
  | closed => exact List.nil_prefix
  | @taken bytes _ n _ _ _ _ ih =>
    obtain ⟨left, hleft⟩ := ih
    refine ⟨left, ?_⟩
    rw [Attempt.acceptedAll_cons, List.append_assoc, hleft]
    exact List.take_append_drop _ _
  | again _ _ ih => exact ih
  | failed => exact List.nil_prefix

theorem acceptedAll_of_ok (h : Sending bytes pending attempts (.ok ())) :
    acceptedAll attempts = bytes := by
  generalize hresult : Except.ok () = result at h
  induction h with
  | done => rfl
  | closed => cases hresult
  | @taken bytes _ n _ _ _ _ ih =>
    rw [Attempt.acceptedAll_cons, ih hresult]
    exact List.take_append_drop _ _
  | again _ _ ih => exact ih hresult
  | failed => cases hresult

theorem result_of_no_failure (h : Sending bytes pending attempts result)
    (hnone : ∀ a ∈ attempts, a.failure? = none) : result = .ok () := by
  induction h with
  | done => rfl
  | closed => cases hnone _ List.mem_cons_self
  | taken _ _ _ ih => exact ih fun a ha => hnone a (List.mem_cons_of_mem _ ha)
  | again _ _ ih => exact ih fun a ha => hnone a (List.mem_cons_of_mem _ ha)
  | failed _ _ hfinal =>
    have hfirst := hnone _ List.mem_cons_self
    simp only [Attempt.failure?, if_neg hfinal] at hfirst
    cases hfirst

end Sending

/-- What the sends of a message are like, from the first to the last. -/
structure Transmits (m : Outgoing) (attempts : List Attempt) (result : Except FrameError Unit) :
    Prop where
  /-- No byte is offered again once it was taken, and none is left out. -/
  offered : ∀ before a after, attempts = before ++ a :: after →
    acceptedAll before ++ a.offered = m.bytes
  /-- The descriptors are offered up to the first send that takes a byte. -/
  attached : ∀ before a after, attempts = before ++ a :: after →
    a.attached = if acceptedAll before = [] then m.descriptors else []
  accepted : ∀ before, before <+: attempts → acceptedAll before <+: m.bytes
  /-- The first failure is the end. -/
  failed : ∀ before a after e, attempts = before ++ a :: after → a.failure? = some e →
    after = [] ∧ result = .error e
  completed : (∀ a ∈ attempts, a.failure? = none) →
    result = .ok () ∧ acceptedAll attempts = m.bytes

theorem Sending.transmits {m : Outgoing} {attempts : List Attempt}
    {result : Except FrameError Unit} (h : Sending m.bytes m.descriptors attempts result) :
    Transmits m attempts result where
  offered before a after hsplit := by
    rw [hsplit] at h
    obtain ⟨left, hleft, hsending⟩ := h.rest
    rw [hsending.offered_eq, hleft]
  attached before a after hsplit := by
    rw [hsplit] at h
    obtain ⟨left, -, hsending⟩ := h.rest
    exact hsending.attached_eq
  accepted before hbefore := by
    obtain ⟨later, rfl⟩ := hbefore
    refine List.IsPrefix.trans ?_ h.acceptedAll_prefix
    rw [Attempt.acceptedAll_append]
    exact List.prefix_append _ _
  failed before a after e hsplit he := by
    rw [hsplit] at h
    obtain ⟨left, -, hsending⟩ := h.rest
    exact hsending.ends_of_failure he
  completed hnone := by
    have hresult := h.result_of_no_failure hnone
    rw [hresult] at h
    exact ⟨hresult, h.acceptedAll_of_ok⟩

theorem Transmits.acceptedAll_of_ok {m : Outgoing} {attempts : List Attempt}
    (h : Transmits m attempts (.ok ())) : acceptedAll attempts = m.bytes := by
  refine (h.completed ?_).2
  intro a ha
  obtain ⟨before, after, hsplit⟩ := List.append_of_mem ha
  cases hfailure : a.failure? with
  | none => rfl
  | some e => cases (h.failed before a after e hsplit hfailure).2

inductive Course (config : FrameConfig) (m : Outgoing) : List SinkCall →
    Except FrameError Unit → Prop
  /-- Of a message that is too large nothing is sent. -/
  | refused : config.sizeLimit < m.header.size.toNat →
      Course config m []
        (.error (.messageTooLarge m.header.size.toNat config.sizeLimit))
  | broken {attempts : List Attempt} {e : FrameError} :
      m.header.size.toNat ≤ config.sizeLimit → Transmits m attempts (.error e) →
      Course config m (attempts.map .send) (.error e)
  /-- When all is sent the sink is flushed. -/
  | sent {attempts : List Attempt} {outcomes : List (Except IoError Unit)}
      {result : Except FrameError Unit} :
      m.header.size.toNat ≤ config.sizeLimit → Transmits m attempts (.ok ()) →
      Flushing outcomes result →
      Course config m (attempts.map .send ++ outcomes.map .flush) result

namespace Writer

/-- Beside the journal nothing changes, and the sends in it are those of a transmission. -/
theorem sendAll_journaled (sink : Sink σ) (bytes : Bytes) (pending : List Descriptor) (s : σ)
    (journal : List SinkCall) :
    ∃ attempts,
      sendAll sink.journaled bytes pending (s, journal) =
        (sendAll sink bytes pending s).logged (journal ++ attempts.map .send) ∧
      Sending bytes pending attempts (sendAll sink bytes pending s).result := by
  -- the entry of this send goes before those of the rest, for any journal so far
  fun_induction sendAll sink bytes pending s generalizing journal with
  | case1 pending s =>
    refine ⟨[], ?_, .done pending⟩
    rw [sendAll_nil, List.map_nil, List.append_nil]
    rfl
  | case2 bytes pending s hbytes step hres =>
    have hjournaled : (sink.journaled.send (s, journal) bytes pending).result = .ok 0 := hres
    refine ⟨[⟨bytes, pending, step.result⟩], ?_, ?_⟩
    · rw [sendAll_eq_goOn _ hbytes, goOn_of_zero _ _ _ hjournaled]
      rfl
    · rw [hres]
      exact .closed pending hbytes
  | case3 bytes pending s hbytes step n hres ih =>
    obtain ⟨attempts, hrest, hsending⟩ := ih (journal ++ [.send ⟨bytes, pending, step.result⟩])
    have hjournaled : (sink.journaled.send (s, journal) bytes pending).result = .ok (n + 1) := hres
    refine ⟨⟨bytes, pending, step.result⟩ :: attempts, ?_, ?_⟩
    · rw [sendAll_eq_goOn _ hbytes, goOn_of_taken _ _ _ hjournaled, List.map_cons,
        List.append_cons]
      exact hrest
    · rw [hres]
      exact .taken pending (sink.send_le s bytes pending _ hres) hsending
  | case4 bytes pending s hbytes step e hres htry ih =>
    obtain ⟨attempts, hrest, hsending⟩ := ih (journal ++ [.send ⟨bytes, pending, step.result⟩])
    have hjournaled : (sink.journaled.send (s, journal) bytes pending).result = .error e := hres
    refine ⟨⟨bytes, pending, step.result⟩ :: attempts, ?_, ?_⟩
    · rw [sendAll_eq_goOn _ hbytes, goOn_of_transient _ _ _ hjournaled htry, List.map_cons,
        List.append_cons]
      exact hrest
    · rw [hres]
      exact .again htry hsending
  | case5 bytes pending s hbytes step e hres htry =>
    have hjournaled : (sink.journaled.send (s, journal) bytes pending).result = .error e := hres
    refine ⟨[⟨bytes, pending, step.result⟩], ?_, ?_⟩
    · rw [sendAll_eq_goOn _ hbytes, goOn_of_failed _ _ _ hjournaled htry]
      rfl
    · rw [hres]
      exact .failed bytes pending htry

theorem flush_journaled (sink : Sink σ) (s : σ) (journal : List SinkCall) :
    ∃ outcomes,
      flush sink.journaled (s, journal) =
        (flush sink s).logged (journal ++ outcomes.map .flush) ∧
      Flushing outcomes (flush sink s).result := by
  fun_induction flush sink s generalizing journal with
  | case1 s step hres =>
    have hjournaled : (sink.journaled.flush (s, journal)).result = .ok () := hres
    refine ⟨[step.result], ?_, ?_⟩
    · rw [flush_of_ok hjournaled]
      rfl
    · rw [hres]
      exact .done
  | case2 s step e hres htry ih =>
    obtain ⟨outcomes, hrest, hflushing⟩ := ih (journal ++ [.flush step.result])
    have hjournaled : (sink.journaled.flush (s, journal)).result = .error e := hres
    refine ⟨step.result :: outcomes, ?_, ?_⟩
    · rw [flush_of_transient hjournaled htry, List.map_cons, List.append_cons]
      exact hrest
    · rw [hres]
      exact .again htry hflushing
  | case3 s step e hres htry =>
    have hjournaled : (sink.journaled.flush (s, journal)).result = .error e := hres
    refine ⟨[step.result], ?_, ?_⟩
    · rw [flush_of_failed hjournaled htry]
      rfl
    · rw [hres]
      exact .failed htry

/-- A message is sent alike to a sink that keeps a journal, which goes on with the calls. -/
theorem send_journaled (sink : Sink σ) (config : FrameConfig) (m : Outgoing) (s : σ)
    (journal : List SinkCall) :
    ∃ calls,
      send sink.journaled config m (s, journal) =
        (send sink config m s).logged (journal ++ calls) ∧
      Course config m calls (send sink config m s).result := by
  rcases Nat.lt_or_ge config.sizeLimit m.header.size.toNat with hlarge | hsmall
  · have hcheck : Framing.checkSize m.header config.sizeLimit =
        .error (.messageTooLarge m.header.size.toNat config.sizeLimit) := if_pos hlarge
    simp only [send, hcheck]
    refine ⟨[], ?_, .refused hlarge⟩
    rw [List.append_nil]
    rfl
  have hcheck : Framing.checkSize m.header config.sizeLimit = .ok () :=
    if_neg (Nat.not_lt.mpr hsmall)
  obtain ⟨attempts, hsent, hsending⟩ :=
    sendAll_journaled sink m.bytes m.descriptors s journal
  have htransmits := hsending.transmits
  simp only [send, hcheck]
  rw [hsent]
  generalize sendAll sink m.bytes m.descriptors s = step at htransmits ⊢
  obtain ⟨e | _, s', closed⟩ := step
  · exact ⟨attempts.map .send, rfl, .broken hsmall htransmits⟩
  · obtain ⟨outcomes, hflush, hflushing⟩ :=
      flush_journaled sink s' (journal ++ attempts.map .send)
    refine ⟨attempts.map .send ++ outcomes.map .flush, ?_, .sent hsmall htransmits hflushing⟩
    simp only [Step.logged]
    rw [hflush, List.append_assoc]
    rfl

end Writer

end FramedWire
