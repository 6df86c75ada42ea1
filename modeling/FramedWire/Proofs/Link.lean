import FramedWire.Channel
import FramedWire.Proofs.Line
import FramedWire.Proofs.Rights
import FramedWire.Sink.Script

/-!
# Links

A stream that joins two ends: a queue of segments, one for each send of which something was
accepted. The two ends make their calls in any order, and no call knows of the other end
except by what it meets. A list of events is such an order of calls together with what each of
them meets.

A send never waits for a receive, so what the sending end does is the same whenever its calls
are made: it can be recorded beforehand, and the events say when each recorded send happens.
-/
namespace FramedWire

inductive Event where
  /-- A send of which up to `more + 1` bytes are accepted. -/
  | send (more : Nat)
  | sendInterrupted
  /-- A receive of up to `more + 1` bytes. -/
  | receive (more : Nat)
  | receiveInterrupted
  deriving DecidableEq, Repr

/-- What the sends among the events meet. -/
def Event.sendOutcome? : Event → Option SendOutcome
  | .send more => some (.accept (more + 1))
  | .sendInterrupted => some (.fail (.plain .interrupted))
  | .receive _ | .receiveInterrupted => none

/-- What a send puts into the queue. -/
def SendRecord.segments (r : SendRecord) : Channel :=
  if r.accepted = [] then [] else [⟨r.accepted, r.offered⟩]

namespace Segment

/-- The control bytes that arrive with the first byte. -/
def control (seg : Segment) : Bytes :=
  if seg.rights = [] then [] else Control.encodeRights seg.rights

def line (seg : Segment) : Line := Line.tagged seg.control seg.bytes

/-- What stays of a segment when `n` bytes of it were received. -/
def remainder (seg : Segment) (n : Nat) : Channel :=
  if seg.bytes.drop n = [] then [] else [⟨seg.bytes.drop n, []⟩]

end Segment

def Channel.line (c : Channel) : Line := c.flatMap Segment.line

structure Link where
  /-- What was sent and has not been received, the oldest first. -/
  queue : Channel
  /-- The sends that are still to be made. After the last of them the stream is closed. -/
  coming : List SendRecord
  events : List Event

namespace Link

/-- All segments that are still to be received. -/
def segments (l : Link) : Channel := l.queue ++ l.coming.flatMap SendRecord.segments

/-- A receive of up to `n` bytes from the front segment, or of none at all if the queue is
empty. -/
def takeFront (l : Link) (n : Nat) : Receipt Link :=
  match l.queue with
  | [] => ⟨l, [], .ok []⟩
  | seg :: segs =>
    ⟨{ l with queue := seg.remainder n ++ segs }, seg.control, .ok (seg.bytes.take n)⟩

/-- A receive waits for its turn among the events and, if there is nothing to receive, for
the next send or the end of the stream. When there are no events left, all sends are made. -/
def receiveAfter (queue : Channel) (coming : List SendRecord) (room : Nat) :
    List Event → Receipt Link
  | [] => takeFront ⟨queue ++ coming.flatMap SendRecord.segments, [], []⟩ room
  | .receive more :: events =>
    if queue = [] ∧ coming ≠ [] then receiveAfter queue coming room events
    else takeFront ⟨queue, coming, events⟩ (min (more + 1) room)
  | .receiveInterrupted :: events =>
    ⟨⟨queue, coming, events⟩, [], .error (.receive (some (.plain .interrupted)) none)⟩
  | .send _ :: events | .sendInterrupted :: events =>
    match coming with
    | [] => receiveAfter queue [] room events
    | r :: coming => receiveAfter (queue ++ r.segments) coming room events

theorem length_takeFront_le (l : Link) (n : Nat) {bytes : Bytes}
    (h : (l.takeFront n).outcome = .ok bytes) : bytes.length ≤ n := by
  unfold takeFront at h
  split at h <;> cases h
  · exact Nat.zero_le n
  · exact List.length_take_le n _

theorem length_receiveAfter_le (queue : Channel) (coming : List SendRecord) (room : Nat)
    (events : List Event) {bytes : Bytes}
    (h : (receiveAfter queue coming room events).outcome = .ok bytes) : bytes.length ≤ room := by
  fun_induction receiveAfter queue coming room events with
  | case1 => exact length_takeFront_le _ _ h
  | case2 _ _ _ _ _ ih => exact ih h
  | case3 _ _ more _ _ =>
    have hle := length_takeFront_le _ _ h
    omega
  | case4 => cases h
  | case5 _ _ _ ih => exact ih h
  | case6 _ _ _ _ _ ih => exact ih h
  | case7 _ _ ih => exact ih h
  | case8 _ _ _ _ ih => exact ih h

theorem patience_receiveAfter_lt (queue : Channel) (coming : List SendRecord) (room : Nat)
    (events : List Event) (h : (receiveAfter queue coming room events).Interrupted) :
    (receiveAfter queue coming room events).state.events.length < events.length := by
  have hfront : ∀ (l : Link) (n : Nat), ¬ (l.takeFront n).Interrupted := by
    intro l n hint
    unfold takeFront at hint
    split at hint <;> exact hint
  fun_induction receiveAfter queue coming room events with
  | case1 => exact absurd h (hfront _ _)
  | case2 _ _ _ _ _ ih => exact Nat.lt_succ_of_lt (ih h)
  | case3 => exact absurd h (hfront _ _)
  | case4 => exact Nat.lt_succ_self _
  | case5 _ _ _ ih => exact Nat.lt_succ_of_lt (ih h)
  | case6 _ _ _ _ _ ih => exact Nat.lt_succ_of_lt (ih h)
  | case7 _ _ ih => exact Nat.lt_succ_of_lt (ih h)
  | case8 _ _ _ _ ih => exact Nat.lt_succ_of_lt (ih h)

/-- The receiving end. -/
def source : Source Link where
  receive l room _ := receiveAfter l.queue l.coming room l.events
  patience l := l.events.length
  length_le l room _ _ h := length_receiveAfter_le l.queue l.coming room l.events h
  patience_lt l room _ h := patience_receiveAfter_lt l.queue l.coming room l.events h

structure Holds (l : Link) (line : Line) : Prop where
  full : ∀ seg ∈ l.queue, seg.bytes ≠ []
  line_eq : line = l.segments.line

theorem bytes_ne_nil_of_mem_segments {r : SendRecord} {seg : Segment} (h : seg ∈ r.segments) :
    seg.bytes ≠ [] := by
  unfold SendRecord.segments at h
  split at h
  · cases h
  · rename_i hsome
    cases List.mem_singleton.mp h
    exact hsome

section

variable {queue : Channel} (hfull : ∀ seg ∈ queue, seg.bytes ≠ [])

include hfull

/-- No send puts an empty segment into the queue. -/
theorem full_append_segments (r : SendRecord) : ∀ seg ∈ queue ++ r.segments, seg.bytes ≠ [] := by
  intro seg hseg
  rcases List.mem_append.mp hseg with hseg | hseg
  · exact hfull seg hseg
  · exact bytes_ne_nil_of_mem_segments hseg

theorem full_append_flatMap (records : List SendRecord) :
    ∀ seg ∈ queue ++ records.flatMap SendRecord.segments, seg.bytes ≠ [] := by
  induction records generalizing queue with
  | nil =>
    rw [List.flatMap_nil, List.append_nil]
    exact hfull
  | cons r records ih =>
    rw [List.flatMap_cons, ← List.append_assoc]
    exact ih (full_append_segments hfull r)

end

theorem line_remainder (seg : Segment) (n : Nat) :
    Channel.line (seg.remainder n) = Line.plain (seg.bytes.drop n) := by
  unfold Segment.remainder
  split
  · rename_i hnone
    rw [hnone]
    rfl
  · simp [Channel.line, Segment.line, Segment.control, Line.tagged_nil]

theorem bytes_ne_nil_of_mem_remainder {seg next : Segment} {n : Nat} (h : next ∈ seg.remainder n) :
    next.bytes ≠ [] := by
  unfold Segment.remainder at h
  split at h
  · cases h
  · rename_i hsome
    cases List.mem_singleton.mp h
    exact hsome

theorem takes_takeFront {l : Link} {n : Nat} (hn : 0 < n) (hfull : ∀ seg ∈ l.queue, seg.bytes ≠ [])
    (hend : l.queue = [] → l.coming = []) :
    (l.takeFront n).Takes Holds l.segments.line := by
  obtain ⟨queue, coming, events⟩ := l
  cases queue with
  | nil =>
    cases hend rfl
    exact .of_end ⟨hfull, rfl⟩
  | cons seg segs =>
    apply Receipt.Takes.of_tagged hn (hfull seg List.mem_cons_self)
    refine ⟨?_, ?_⟩
    · intro next hnext
      rcases List.mem_append.mp hnext with hfirst | hnext
      · exact bytes_ne_nil_of_mem_remainder hfirst
      · exact hfull next (List.mem_cons_of_mem seg hnext)
    · rw [← line_remainder, segments, List.append_assoc]
      exact List.flatMap_append.symm

/-- Which sends are made before a receive makes no difference to what is still to come. -/
theorem takes_receiveAfter {queue : Channel} {room : Nat} (hroom : 0 < room)
    (hfull : ∀ seg ∈ queue, seg.bytes ≠ []) (coming : List SendRecord) (events : List Event) :
    (receiveAfter queue coming room events).Takes Holds
      (Channel.line (queue ++ coming.flatMap SendRecord.segments)) := by
  -- A send only moves a segment from the sends to come to the end of the queue, and everything
  -- else that happens before the receive leaves both as they are.
  fun_induction receiveAfter queue coming room events with
  | case1 queue coming =>
    have hall := full_append_flatMap hfull coming
    have htakes := takes_takeFront (l := ⟨_, [], []⟩) hroom hall (fun _ => rfl)
    rw [segments, List.flatMap_nil, List.append_nil] at htakes
    exact htakes
  | case2 queue coming more events hwait ih => exact ih hfull
  | case3 queue coming more events hready =>
    have hend : queue = [] → coming = [] := by
      intro hnone
      apply Classical.byContradiction
      intro hsome
      exact hready ⟨hnone, hsome⟩
    exact takes_takeFront (l := ⟨queue, coming, events⟩) (by omega) hfull hend
  | case4 queue coming events => exact .interruption rfl ⟨hfull, rfl⟩
  | case5 queue more events ih => exact ih hfull
  | case6 queue more events r coming ih =>
    have htakes := ih (full_append_segments hfull r)
    rw [List.append_assoc] at htakes
    exact htakes
  | case7 queue events ih => exact ih hfull
  | case8 queue events r coming ih =>
    have htakes := ih (full_append_segments hfull r)
    rw [List.append_assoc] at htakes
    exact htakes

theorem follows : source.Follows Holds := by
  intro l line room maxFds hl hroom
  obtain ⟨hfull, rfl⟩ := hl
  exact takes_receiveAfter hroom hfull l.coming l.events

end Link

end FramedWire
