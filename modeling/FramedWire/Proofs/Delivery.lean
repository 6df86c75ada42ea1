import FramedWire.Proofs.Chunking
import FramedWire.Proofs.Link
import FramedWire.Proofs.Sealed
import FramedWire.Proofs.Series
import FramedWire.Writer

/-!
# Delivery

Messages that are sent over a link are read at its other end, one by one and each with its
descriptors, in whatever order the two ends make their calls. The writer puts the bytes of a
message into the link in as many segments as it takes, of which the first carries all
descriptors; for the line of the link that is the same as one segment. The reader takes just the
bytes of one message off the line, so it finds the descriptors of that message and no others.
-/
namespace FramedWire

namespace Channel

@[simp] theorem line_append (c c' : Channel) : line (c ++ c') = line c ++ line c' :=
  List.flatMap_append

end Channel

/-- What a send put into a channel is on the line with its descriptors, also if it is nothing. -/
theorem SendRecord.line_segments (r : SendRecord) :
    Channel.line r.segments = Segment.line ⟨r.accepted, r.offered⟩ := by
  unfold SendRecord.segments
  split
  · rename_i hnone
    rw [hnone]
    rfl
  · exact List.append_nil _

namespace SendOutcome

/-- The send takes something, or asks only for another try. -/
def IsWilling : SendOutcome → Prop
  | .accept n => 0 < n
  | .fail e => e.isTransient

end SendOutcome

namespace SinkScript

structure Willing (s : SinkScript) : Prop where
  outcomes : ∀ outcome ∈ s.outcomes, outcome.IsWilling
  flushes : ∀ e, some e ∈ s.flushes → e.isTransient

/-- What was sent so far. -/
def line (s : SinkScript) : Line := Channel.line (s.sent.reverse.flatMap SendRecord.segments)

theorem line_cons (s : SinkScript) (r : SendRecord) :
    line { s with sent := r :: s.sent } = s.line ++ Segment.line ⟨r.accepted, r.offered⟩ := by
  rw [← r.line_segments, line, line, List.reverse_cons, List.flatMap_append, Channel.line_append]
  simp

theorem Willing.tail {outcome : SendOutcome} {outcomes : List SendOutcome}
    {flushes : List (Option IoError)} {sent : List SendRecord} {flushed : Nat}
    (h : Willing ⟨outcome :: outcomes, flushes, sent, flushed⟩) :
    outcome.IsWilling ∧ Willing ⟨outcomes, flushes, sent, flushed⟩ := by
  refine ⟨h.outcomes outcome List.mem_cons_self, ?_, h.flushes⟩
  intro next hnext
  exact h.outcomes next (List.mem_cons_of_mem outcome hnext)

section

variable {s : SinkScript} (hs : s.Willing) {bytes : Bytes} {attached : List Descriptor}

include hs

theorem taking_of_willing (hbytes : bytes ≠ []) {m n : Nat} (hm : 0 < m)
    (h : (s.taking m bytes attached).result = .ok n) :
    0 < n ∧ (s.taking m bytes attached).state.Willing ∧
      (s.taking m bytes attached).state.line =
        s.line ++ Segment.line ⟨bytes.take n, attached⟩ := by
  have hlength := List.length_pos_iff.mpr hbytes
  have hn : min m bytes.length = n := Except.ok.inj h
  have htake : bytes.take n = bytes.take m := by rw [← hn, ← List.take_eq_take_min]
  refine ⟨by omega, ⟨hs.outcomes, hs.flushes⟩, ?_⟩
  rw [htake]
  exact line_cons s ⟨bytes.take m, attached⟩

theorem send_of_ok (hbytes : bytes ≠ []) {n : Nat} (h : (s.send bytes attached).result = .ok n) :
    0 < n ∧ (s.send bytes attached).state.Willing ∧
      (s.send bytes attached).state.line =
        s.line ++ Segment.line ⟨bytes.take n, attached⟩ := by
  obtain ⟨outcomes, flushes, sent, flushed⟩ := s
  cases outcomes with
  | nil => exact taking_of_willing hs hbytes (List.length_pos_iff.mpr hbytes) h
  | cons outcome outcomes =>
    obtain ⟨hfirst, hlater⟩ := hs.tail
    cases outcome with
    | accept m => exact taking_of_willing hlater hbytes hfirst h
    | fail e => cases h

theorem send_of_error {e : IoError} (h : (s.send bytes attached).result = .error e) :
    e.isTransient ∧ (s.send bytes attached).state.Willing ∧
      (s.send bytes attached).state.line = s.line := by
  obtain ⟨outcomes, flushes, sent, flushed⟩ := s
  cases outcomes with
  | nil => cases h
  | cons outcome outcomes =>
    obtain ⟨hfirst, hlater⟩ := hs.tail
    cases outcome with
    | accept m => cases h
    | fail e =>
      cases h
      have hline := line_cons ⟨outcomes, flushes, sent, flushed⟩ ⟨[], attached⟩
      rw [show Segment.line ⟨[], attached⟩ = [] from rfl, List.append_nil] at hline
      exact ⟨hfirst, ⟨hlater.outcomes, hlater.flushes⟩, hline⟩

theorem flush_of_error {e : IoError} (h : s.flush.result = .error e) : e.isTransient := by
  obtain ⟨outcomes, flushes, sent, flushed⟩ := s
  cases flushes with
  | nil => cases h
  | cons first flushes =>
    cases first with
    | none => cases h
    | some e =>
      cases h
      exact hs.flushes e List.mem_cons_self

theorem willing_flush : s.flush.state.Willing := by
  refine ⟨?_, ?_⟩
  · unfold flush
    split <;> exact hs.outcomes
  · intro e he
    unfold flush at he
    split at he
    · exact hs.flushes e he
    · rename_i hcons
      exact hs.flushes e (by rw [hcons]; exact List.mem_cons_of_mem _ he)
    · rename_i hcons
      exact hs.flushes e (by rw [hcons]; exact List.mem_cons_of_mem _ he)

end

theorem line_flush (s : SinkScript) : s.flush.state.line = s.line := by
  unfold flush
  split <;> rfl

end SinkScript

theorem Segment.line_eq_append (bytes : Bytes) (rights : List Descriptor) {n : Nat} (hn : 0 < n) :
    Segment.line ⟨bytes, rights⟩ =
      Segment.line ⟨bytes.take n, rights⟩ ++ Segment.line ⟨bytes.drop n, []⟩ := by
  have hplain : Segment.line ⟨bytes.drop n, []⟩ = Line.plain (bytes.drop n) := Line.tagged_nil _
  rw [hplain]
  exact Line.tagged_eq_append _ bytes hn

namespace Writer

/-- The bytes come to be on the line, with their descriptors, in whatever pieces they are
taken. -/
theorem sendAll_of_willing {s : SinkScript} (hs : s.Willing) (bytes : Bytes)
    (pending : List Descriptor) :
    ∃ s', s'.Willing ∧ sendAll SinkScript.sink bytes pending s = .done () s' ∧
      s'.line = s.line ++ Segment.line ⟨bytes, pending⟩ := by
  fun_induction sendAll SinkScript.sink bytes pending s with
  | case1 pending s => exact ⟨s, hs, rfl, (List.append_nil _).symm⟩
  | case2 bytes pending s hbytes step hres =>
    obtain ⟨hpos, -⟩ := SinkScript.send_of_ok hs hbytes hres
    exact absurd hpos (Nat.lt_irrefl 0)
  | case3 bytes pending s hbytes step n hres ih =>
    obtain ⟨hpos, hwilling, hline⟩ := SinkScript.send_of_ok hs hbytes hres
    -- The rest is sent without descriptors, so on the line it continues the first piece.
    obtain ⟨s', hs', hsend, hrest⟩ := ih hwilling
    refine ⟨s', hs', hsend, ?_⟩
    rw [hrest, show step.state.line = _ from hline, List.append_assoc,
      ← Segment.line_eq_append bytes pending hpos]
  | case4 bytes pending s hbytes step e hres htry ih =>
    obtain ⟨-, hwilling, hline⟩ := SinkScript.send_of_error hs hres
    obtain ⟨s', hs', hsend, hrest⟩ := ih hwilling
    refine ⟨s', hs', hsend, ?_⟩
    rw [hrest, show step.state.line = _ from hline]
  | case5 bytes pending s hbytes step e hres htry =>
    exact absurd (SinkScript.send_of_error hs hres).1 htry

theorem flush_of_willing {s : SinkScript} (hs : s.Willing) :
    ∃ s', s'.Willing ∧ flush SinkScript.sink s = .done () s' ∧ s'.line = s.line := by
  fun_induction flush SinkScript.sink s with
  | case1 s step hres =>
    exact ⟨step.state, SinkScript.willing_flush hs, rfl, SinkScript.line_flush s⟩
  | case2 s step e hres htry ih =>
    obtain ⟨s', hs', hflush, hline⟩ := ih (SinkScript.willing_flush hs)
    exact ⟨s', hs', hflush, hline.trans (SinkScript.line_flush s)⟩
  | case3 s step e hres htry =>
    exact absurd (SinkScript.flush_of_error hs hres) htry

theorem send_of_willing {config : FrameConfig} {m : Outgoing} {s : SinkScript} (hs : s.Willing)
    (hsize : m.header.size.toNat ≤ config.sizeLimit) :
    ∃ s', s'.Willing ∧ s'.line = s.line ++ Segment.line ⟨m.bytes, m.descriptors⟩ ∧
      send SinkScript.sink config m s = ⟨.ok (), s', m.descriptors⟩ := by
  have hcheck : Framing.checkSize m.header config.sizeLimit = .ok () :=
    if_neg (Nat.not_lt.mpr hsize)
  obtain ⟨s₁, hs₁, hsend, hline⟩ := sendAll_of_willing hs m.bytes m.descriptors
  obtain ⟨s₂, hs₂, hflush, hkept⟩ := flush_of_willing hs₁
  refine ⟨s₂, hs₂, hkept.trans hline, ?_⟩
  simp only [send, hcheck, hsend, Step.done, hflush, Step.closing, List.append_nil]

theorem collect_send_of_willing {config : FrameConfig} {msgs : List Outgoing} {s : SinkScript}
    (hs : s.Willing) (hsize : ∀ m ∈ msgs, m.header.size.toNat ≤ config.sizeLimit) :
    ∃ s', s'.Willing ∧
      s'.line = s.line ++ Channel.line (msgs.map fun m => ⟨m.bytes, m.descriptors⟩) ∧
      Step.collect (fun _ => []) (send SinkScript.sink config) msgs s =
        ⟨.ok (msgs.map fun _ => ()), s', msgs.flatMap (·.descriptors)⟩ := by
  induction msgs generalizing s with
  | nil => exact ⟨s, hs, (List.append_nil _).symm, rfl⟩
  | cons m msgs ih =>
    obtain ⟨s₁, hs₁, hline₁, hsend⟩ := send_of_willing hs (hsize m List.mem_cons_self)
    obtain ⟨s₂, hs₂, hline₂, hrest⟩ :=
      ih hs₁ (fun m' hm' => hsize m' (List.mem_cons_of_mem m hm'))
    refine ⟨s₂, hs₂, ?_, ?_⟩
    · rw [hline₂, hline₁, List.append_assoc]
      rfl
    · simp only [Step.collect, hsend, hrest]
      rfl

end Writer

/-- A message that a builder finished in the byte order of the configuration and within its
size limit, with so few descriptors that the system can reckon the length of their record. -/
structure Outgoing.Sendable (config : FrameConfig) (m : Outgoing) : Prop where
  built : ∃ b : Builder, b.order = config.order ∧ b.finish.result = .ok m
  size_le : m.header.size.toNat ≤ config.sizeLimit
  rights_lt : (Control.encodeRights m.descriptors).length < 2 ^ 31

/-- What stands in front of the line is the message, and just its bytes are taken. -/
theorem Framing.examine_of_sendable {config : FrameConfig} {m : Outgoing}
    (hm : m.Sendable config) (rest : Bytes) :
    examine config (m.bytes ++ rest) = ⟨.ok (m.header, m.payload), m.bytes.length⟩ := by
  obtain ⟨⟨b, horder, hfinish⟩, hsmall, -⟩ := hm
  obtain ⟨hfits, rfl⟩ := Builder.finish_eq_ok_iff.mp hfinish
  have hdecode := decode_sealed_append hfits rest
  rw [horder] at hdecode
  have hlength : b.sealed.header.size.toNat = b.sealed.bytes.length := by
    rw [Builder.toNat_size_sealed hfits, Builder.length_bytes_sealed]
  rw [examine_of_message hdecode hsmall, Builder.payload_sealed, ← hlength]
  rfl

theorem Segment.take_control {ds : List Descriptor}
    (h : (Control.encodeRights ds).length < 2 ^ 31) (bytes : Bytes) :
    Control.take (Segment.control ⟨bytes, ds⟩) = .ok ds := by
  unfold Segment.control
  split
  · rename_i hnone
    have hds : ds = [] := hnone
    rw [hds]
    exact Control.take_nil
  · exact Control.take_encodeRights h

namespace Reader

variable {σ : Type} {src : Source σ} {holds : σ → Line → Prop} (h : src.Follows holds)
  {config : FrameConfig}

include h

/-- The reader takes the message in front and leaves what follows it, also its descriptors. -/
theorem readMessage_of_sendable {m : Outgoing} (hm : m.Sendable config) {s : σ} {rest : Line}
    (hs : holds s (Segment.line ⟨m.bytes, m.descriptors⟩ ++ rest)) :
    ∃ s', holds s' rest ∧ readMessage src config s =
      ⟨.ok (.framed m.header m.payload m.descriptors config.order), s', []⟩ := by
  have hbytes : Line.bytes (Segment.line ⟨m.bytes, m.descriptors⟩) = m.bytes :=
    Line.bytes_tagged _ _
  have hlength : (Segment.line ⟨m.bytes, m.descriptors⟩).length = m.bytes.length := by
    rw [← Line.length_bytes, hbytes]
  have hsome : m.bytes ≠ [] := by
    obtain ⟨⟨b, -, hfinish⟩, -, -⟩ := hm
    obtain ⟨-, rfl⟩ := Builder.finish_eq_ok_iff.mp hfinish
    intro hnone
    have hempty := Builder.length_bytes_sealed b
    rw [hnone, List.length_nil, Header.headerSize] at hempty
    omega
  have hcontrol : Line.control (Segment.line ⟨m.bytes, m.descriptors⟩)
      = Segment.control ⟨m.bytes, m.descriptors⟩ := Line.control_tagged _ hsome
  obtain ⟨s', hs', hread⟩ := readMessage_of_follows h config hs
  rw [Line.bytes_append, hbytes, Framing.examine_of_sendable hm] at hs' hread
  rw [List.drop_left' hlength] at hs'
  rw [List.take_left' hlength, hcontrol,
    Framing.finishEnvelope_of_take (Segment.take_control hm.rights_lt _)] at hread
  exact ⟨s', hs', hread⟩

theorem readMessage_of_end {s : σ} (hs : holds s []) :
    ∃ s', holds s' [] ∧ readMessage src config s = ⟨.error .connectionClosed, s', []⟩ := by
  obtain ⟨s', hs', hread⟩ := readMessage_of_follows h config hs
  refine ⟨s', hs', ?_⟩
  rw [hread]
  change (⟨_, _, Control.close []⟩ : Step σ FrameError Message) = _
  rw [Control.close_nil]

/-- A series of calls reads the messages on the line in their order, and then finds it closed. -/
theorem series_readMessage_of_sendable {msgs : List Outgoing}
    (hmsgs : ∀ m ∈ msgs, m.Sendable config) {s : σ}
    (hs : holds s (Channel.line (msgs.map fun m => ⟨m.bytes, m.descriptors⟩))) (calls : Nat) :
    ∃ s', Step.series (readMessage src config) calls s =
      ⟨(msgs.take calls).map (fun m =>
          .ok (.framed m.header m.payload m.descriptors config.order)) ++
        List.replicate (calls - msgs.length) (.error .connectionClosed), s', []⟩ := by
  induction calls generalizing msgs s with
  | zero => exact ⟨s, by simp⟩
  | succ calls ih =>
    cases msgs with
    | nil =>
      obtain ⟨s₁, hs₁, hread⟩ := readMessage_of_end h hs
      obtain ⟨s₂, hrest⟩ := ih hmsgs hs₁
      refine ⟨s₂, ?_⟩
      rw [Step.series_succ_of_eq hread, hrest]
      simp [List.replicate_succ]
    | cons m msgs =>
      obtain ⟨s₁, hs₁, hread⟩ := readMessage_of_sendable h (hmsgs m List.mem_cons_self) hs
      obtain ⟨s₂, hrest⟩ := ih (fun m' hm' => hmsgs m' (List.mem_cons_of_mem m hm')) hs₁
      refine ⟨s₂, ?_⟩
      rw [Step.series_succ_of_eq hread, hrest]
      simp

end Reader

namespace Link

/-- The sink that the events give to the sending end. -/
def sinkOf (events : List Event) : SinkScript :=
  { outcomes := events.filterMap Event.sendOutcome? }

/-- The link with the given sends to come. -/
def ofSent (s : SinkScript) (events : List Event) : Link := ⟨[], s.sent.reverse, events⟩

theorem willing_sinkOf (events : List Event) : (sinkOf events).Willing := by
  refine ⟨?_, fun e he => nomatch he⟩
  intro outcome houtcome
  obtain ⟨event, -, hevent⟩ := List.mem_filterMap.mp houtcome
  cases event with
  | send more =>
    cases hevent
    exact Nat.succ_pos more
  | sendInterrupted =>
    cases hevent
    rfl
  | receive => cases hevent
  | receiveInterrupted => cases hevent

theorem holds_ofSent (s : SinkScript) (events : List Event) : Holds (ofSent s events) s.line :=
  ⟨fun _ hseg => (nomatch hseg), rfl⟩

/-- Whatever the order of the calls at the two ends and whatever they meet, every message is
sent, and the reader returns the messages in the order they were sent, each with its
descriptors. After the last it finds the stream closed. It never closes a descriptor. -/
theorem series_readMessage_of_send (config : FrameConfig) (msgs : List Outgoing)
    (hmsgs : ∀ m ∈ msgs, m.Sendable config) (events : List Event) (calls : Nat) :
    let sent := Step.collect (fun _ => []) (Writer.send SinkScript.sink config) msgs (sinkOf events)
    let received :=
      Step.series (Reader.readMessage source config) calls (ofSent sent.state events)
    sent.result = .ok (msgs.map fun _ => ()) ∧
    received.results =
      (msgs.take calls).map
          (fun m => .ok (.framed m.header m.payload m.descriptors config.order)) ++
        List.replicate (calls - msgs.length) (.error .connectionClosed) ∧
    received.closed = [] := by
  intro sent received
  obtain ⟨s, -, hline, hsent⟩ :=
    Writer.collect_send_of_willing (willing_sinkOf events) (fun m hm => (hmsgs m hm).size_le)
  have hstate : sent = ⟨.ok (msgs.map fun _ => ()), s, msgs.flatMap (·.descriptors)⟩ := hsent
  have hholds := holds_ofSent s events
  rw [hline] at hholds
  obtain ⟨l, hreceived⟩ := Reader.series_readMessage_of_sendable follows hmsgs hholds calls
  have hseries : received =
      Step.series (Reader.readMessage source config) calls (ofSent s events) := by
    simp only [received, hstate]
  rw [hseries, hreceived, hstate]
  exact ⟨rfl, rfl, rfl⟩

/-- A message of nothing but a header, with a descriptor, and one with a payload, in pieces that
end within the messages. -/
theorem series_readMessage_of_send_two :
    let first := Builder.sealed ⟨1, 2, .little, [], [⟨7⟩]⟩
    let second := Builder.sealed ⟨3, 4, .little, [1, 2, 3, 4], []⟩
    let events : List Event :=
      [.sendInterrupted, .send 2, .receive 1, .receiveInterrupted, .send 9, .receive 0, .send 1]
    let sent :=
      Step.collect (fun _ => []) (Writer.send SinkScript.sink {}) [first, second] (sinkOf events)
    (∀ m ∈ [first, second], m.Sendable {}) ∧
    (Step.series (Reader.readMessage source {}) 3 (ofSent sent.state events)).results =
      [.ok (.framed ⟨1, 2, 8⟩ [] [⟨7⟩] .little),
        .ok (.framed ⟨3, 4, 12⟩ [1, 2, 3, 4] [] .little), .error .connectionClosed] := by
  intro first second events sent
  have hmsgs : ∀ m ∈ [first, second], m.Sendable {} := by
    intro m hm
    simp only [List.mem_cons, List.not_mem_nil, or_false] at hm
    obtain rfl | rfl := hm
    · exact ⟨⟨⟨1, 2, .little, [], [⟨7⟩]⟩, rfl, rfl⟩, by decide, by decide⟩
    · exact ⟨⟨⟨3, 4, .little, [1, 2, 3, 4], []⟩, rfl, rfl⟩, by decide, by decide⟩
  obtain ⟨-, hresults, -⟩ := series_readMessage_of_send {} [first, second] hmsgs events 3
  exact ⟨hmsgs, hresults⟩

end Link

end FramedWire
