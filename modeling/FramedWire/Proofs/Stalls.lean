import FramedWire.Proofs.Answers
import FramedWire.Source.Script

/-!
# Receives that fail between two messages

A receive that fails between two calls, such as one that waited too long, costs one call and
nothing else: that call reports the failure, and all others are as they would have been without
it. A reader holds nothing back between its calls, and its source is left where it was.

The failures are put into a stream in two ways: into any source, after so many of its receives,
and into a script, as one of its items.
-/
namespace FramedWire

/-- A failure that does not ask for another try. -/
abbrev Stall := { e : TransportError // e.toIo.isInterruption = false }

/-- How the failure of a receive is reported. A failure that names nothing but an I/O error is
reported as that, unless the I/O error carries a transport error itself. -/
def FrameError.reporting : TransportError → FrameError
  | .io (.carrying _ inner) => .transport inner
  | .io source => .io source
  | .receive (some (.carrying _ inner)) none => .transport inner
  | .receive (some source) none => .io source
  | e => .transport e

/-- The error that is meant gets through an interface that knows only I/O errors. -/
theorem FrameError.ofRead_toIo (e : TransportError) : ofRead e.toIo = reporting e := by
  cases e with
  | io source => cases source <;> rfl
  | receive received handedOver =>
    cases received with
    | none => rfl
    | some source => cases source <;> cases handedOver <;> rfl
  | _ => rfl

variable {σ : Type}

structure Stalling (σ : Type) where
  inner : σ
  /-- Each failure with the number of receives between it and the one before. -/
  stalls : List (Nat × Stall)

/-- The answer of the source itself, with the failures that are still to come. -/
def Receipt.stalling (r : Receipt σ) (stalls : List (Nat × Stall)) : Receipt (Stalling σ) :=
  ⟨⟨r.state, stalls⟩, r.control, r.outcome⟩

namespace Source

/-- The source, with receives that fail and leave it alone. -/
def stalling (src : Source σ) : Source (Stalling σ) where
  receive s room maxFds :=
    match s.stalls with
    | (0, e) :: stalls => ⟨⟨s.inner, stalls⟩, [], .error e.val⟩
    | (gap + 1, e) :: stalls => (src.receive s.inner room maxFds).stalling ((gap, e) :: stalls)
    | [] => (src.receive s.inner room maxFds).stalling []
  patience s := src.patience s.inner
  length_le s room maxFds bytes h := by
    split at h
    · cases h
    · exact src.length_le s.inner room maxFds bytes h
    · exact src.length_le s.inner room maxFds bytes h
  patience_lt s room maxFds h := by
    split at h
    · rename_i e _ _
      exact absurd h (by simp [Receipt.Interrupted, e.property])
    · exact src.patience_lt s.inner room maxFds h
    · exact src.patience_lt s.inner room maxFds h

variable {src : Source σ} {xs : List Exchange} {s s' : σ}

theorem Answers.stalling (h : src.Answers xs s s') (gap : Nat) (e : Stall)
    (stalls : List (Nat × Stall)) :
    src.stalling.Answers xs ⟨s, (gap + xs.length, e) :: stalls⟩ ⟨s', (gap, e) :: stalls⟩ := by
  induction h with
  | nil s => exact .nil _
  | @cons x xs s s₁ s₂ hreceive _ ih =>
    apply Answers.cons _ ih
    simp only [Source.stalling, List.length_cons, ← Nat.add_assoc, hreceive, Receipt.stalling]

theorem Answers.stalling_nil (h : src.Answers xs s s') :
    src.stalling.Answers xs ⟨s, []⟩ ⟨s', []⟩ := by
  induction h with
  | nil s => exact .nil _
  | cons hreceive _ ih =>
    apply Answers.cons _ ih
    simp only [Source.stalling, hreceive, Receipt.stalling]

end Source

namespace Reader

/-- A call that reports a failure and did nothing but meet it. -/
def refusal (config : FrameConfig) (e : Stall) : Call where
  result := .error (.reporting e.val)
  closed := []
  journal := [⟨4, roomForFds config, []⟩]

section

variable {src : Source σ} {config : FrameConfig} {s s' : σ} {e : Stall}
  (h : src.receive s 4 (roomForFds config) = ⟨s', [], .error e.val⟩)

include h

theorem readMessage_of_stall :
    readMessage src config s = ⟨.error (.reporting e.val), s', []⟩ := by
  have hfill : src.fill (roomForFds config) 4 s = ⟨s', [], .error e.val.toIo⟩ := by
    rw [Source.fill_eq_goOn _ _ (by decide), h]
    simp only [Source.goOn, e.property, Bool.false_eq_true, if_false]
  have henvelope : Framing.readEnvelope (src.fill (roomForFds config)) config s =
      ⟨s', [], .error (.ofRead e.val.toIo)⟩ := by
    simp only [Framing.readEnvelope, Framing.readHeader, hfill]
  rw [readMessage, henvelope, Framing.finishEnvelope_of_error, Control.close_nil,
    FrameError.ofRead_toIo]

theorem call_of_stall : call src config s = refusal config e := by
  have hjournaled : src.journaled.receive (s, []) 4 (roomForFds config) =
      ⟨(s', [⟨4, roomForFds config, []⟩]), [], .error e.val⟩ := by
    simp only [Source.journaled, h, List.nil_append]
  rw [call, readMessage_of_stall h, readMessage_of_stall hjournaled]
  rfl

end

/-- A failure that is met after `k` calls takes one call, and the next one begins where the failure
has left the source. -/
theorem calls_past_stall {src : Source σ} {config : FrameConfig} {s s₁ s₂ : σ} {e : Stall} {k : Nat}
    (hreached : after src config k s = s₁)
    (hstall : src.receive s₁ 4 (roomForFds config) = ⟨s₂, [], .error e.val⟩) (n : Nat) :
    calls src config (k + (n + 1)) s =
        calls src config k s ++ refusal config e :: calls src config n s₂ ∧
      after src config (k + (n + 1)) s = after src config n s₂ := by
  rw [calls_add, after_add, hreached, calls, after_succ, call_of_stall hstall,
    readMessage_of_stall hstall]
  exact ⟨rfl, rfl⟩

theorem calls_until_stall (src : Source σ) (config : FrameConfig) (k : Nat) (s : σ) (e : Stall)
    (stalls : List (Nat × Stall)) :
    let stalling : Stalling σ := ⟨s, (receives (calls src config k s), e) :: stalls⟩
    calls src.stalling config k stalling = calls src config k s ∧
      after src.stalling config k stalling = ⟨after src config k s, (0, e) :: stalls⟩ := by
  obtain ⟨xs, hxs, hreceives, hcalls⟩ := calls_answers src config k s
  have hstalling := hxs.stalling 0 e stalls
  rw [Nat.zero_add, ← hreceives] at hstalling
  exact hcalls _ _ _ _ hstalling

end Reader

/-- Failures between calls: each with the number of calls between it and the one before. -/
abbrev Schedule := List (Nat × Stall)

namespace Schedule

/-- How many calls there are before the last failure. -/
def span : Schedule → Nat
  | [] => 0
  | (k, _) :: schedule => k + span schedule

/-- The failures by receives, for calls that come to `cs` without them. -/
def stalls : Schedule → List Reader.Call → List (Nat × Stall)
  | [], _ => []
  | (k, e) :: schedule, cs => (Reader.receives (cs.take k), e) :: stalls schedule (cs.drop k)

/-- Those calls, and one that reports each failure. -/
def weave (config : FrameConfig) : Schedule → List Reader.Call → List Reader.Call
  | [], cs => cs
  | (k, e) :: schedule, cs =>
    cs.take k ++ Reader.refusal config e :: weave config schedule (cs.drop k)

theorem span_cons_add (k : Nat) (e : Stall) (schedule : Schedule) (m : Nat) :
    span ((k, e) :: schedule) + m = k + (span schedule + m) := Nat.add_assoc k _ m

/-- The calls up to the first failure, the one that meets it, and the others. -/
theorem turns_cons (k : Nat) (e : Stall) (schedule : Schedule) (m : Nat) :
    span ((k, e) :: schedule) + m + List.length ((k, e) :: schedule) =
      k + (span schedule + m + schedule.length + 1) := by
  rw [span_cons_add, List.length_cons]
  omega

section

variable {k : Nat} {cs : List Reader.Call} (hlength : cs.length = k) (e : Stall)
  (schedule : Schedule) (cs' : List Reader.Call)

include hlength

theorem stalls_cons_append :
    stalls ((k, e) :: schedule) (cs ++ cs') = (Reader.receives cs, e) :: stalls schedule cs' := by
  rw [stalls, List.take_left' hlength, List.drop_left' hlength]

theorem weave_cons_append (config : FrameConfig) :
    weave config ((k, e) :: schedule) (cs ++ cs') =
      cs ++ Reader.refusal config e :: weave config schedule cs' := by
  rw [weave, List.take_left' hlength, List.drop_left' hlength]

end

end Schedule

namespace Reader

theorem calls_stalling (src : Source σ) (config : FrameConfig) (schedule : Schedule) (m : Nat)
    (s : σ) :
    let cs := calls src config (schedule.span + m) s
    let stalling : Stalling σ := ⟨s, schedule.stalls cs⟩
    calls src.stalling config (schedule.span + m + schedule.length) stalling =
        schedule.weave config cs ∧
      after src.stalling config (schedule.span + m + schedule.length) stalling =
        ⟨after src config (schedule.span + m) s, []⟩ := by
  induction schedule generalizing s with
  | nil =>
    rw [Schedule.span, Nat.zero_add, List.length_nil, Nat.add_zero]
    obtain ⟨xs, hxs, -, hcalls⟩ := calls_answers src config m s
    exact hcalls _ _ _ _ hxs.stalling_nil
  | cons first schedule ih =>
    obtain ⟨k, e⟩ := first
    obtain ⟨hrest, hafter⟩ := ih (after src config k s)
    rw [Schedule.turns_cons, Schedule.span_cons_add]
    generalize Schedule.span schedule + m = n at hrest hafter ⊢
    have hlength := length_calls src config k s
    dsimp only
    rw [calls_add src config k n, Schedule.stalls_cons_append hlength,
      Schedule.weave_cons_append hlength]
    generalize Schedule.stalls schedule _ = stalls at hrest hafter ⊢
    obtain ⟨huntil, hreached⟩ := calls_until_stall src config k s e stalls
    obtain ⟨hcalls, hleft⟩ := calls_past_stall hreached rfl (n + schedule.length)
    rw [hcalls, hleft, huntil, hrest, hafter, after_add]
    exact ⟨rfl, rfl⟩

end Reader

/-- An item that makes one receive fail. -/
def ScriptItem.stall (e : Stall) : ScriptItem := { data := [], failure? := some e.val }

namespace Script

/-- The script with these items still to come. -/
def following (s : Script) (items : List ScriptItem) : Script := { s with items }

theorem eq_following {s : Script} {items : List ScriptItem} (h : s.items = items) :
    s = s.following items := by
  rw [← h]
  rfl

/-- A receive answers from the first item, without a look at what follows. -/
theorem exists_receive_append (s : Script) (item : ScriptItem) (items : List ScriptItem)
    (room maxFds : Nat) :
    ∃ left control outcome, ∀ later,
      receive (s.following (item :: items ++ later)) room maxFds =
        ⟨(s.seen maxFds).following (left ++ later), control, outcome⟩ := by
  cases hfail : item.failure? with
  | some e =>
    refine ⟨items, item.control, .error e, ?_⟩
    intro later
    simp only [receive, following, List.cons_append, hfail, seen]
  | none =>
    refine ⟨remainder item (s.portion item room) ++ items, item.control,
      .ok (item.data.take (s.portion item room)), ?_⟩
    intro later
    simp only [receive, following, List.cons_append, hfail, seen, portion, List.append_assoc]

theorem receive_stall (s : Script) (e : Stall) (items : List ScriptItem) (room maxFds : Nat) :
    receive (s.following (.stall e :: items)) room maxFds =
      ⟨(s.seen maxFds).following items, [], .error e.val⟩ := rfl

theorem length_receive_le (s : Script) (room maxFds : Nat) :
    (s.receive room maxFds).state.items.length ≤ s.items.length := by
  unfold receive
  split
  · exact Nat.le_refl _
  · rename_i item items hitems
    rw [hitems]
    split
    · exact Nat.le_succ _
    · simp only [remainder]
      split
      · exact Nat.le_succ _
      · exact Nat.le_refl _

theorem length_le_of_answers {xs : List Exchange} {s s' : Script} (h : source.Answers xs s s') :
    s'.items.length ≤ s.items.length := by
  induction h with
  | nil s => exact Nat.le_refl _
  | @cons x xs s s₁ s₂ hreceive _ ih =>
    have hfirst := length_receive_le s x.room x.maxFds
    have hstate : (s.receive x.room x.maxFds).state = s₁ := congrArg Receipt.state hreceive
    rw [hstate] at hfirst
    exact Nat.le_trans ih hfirst

/-- The answers up to a failing item do not depend on what comes in its place. -/
theorem answers_following {xs : List Exchange} {s s' : Script} {e : Stall}
    {us vs : List ScriptItem} (h : source.Answers xs s s') (hs : s.items = us ++ .stall e :: vs)
    (hs' : s'.items = .stall e :: vs) (ws : List ScriptItem) :
    source.Answers xs (s.following (us ++ ws)) (s'.following ws) := by
  induction h generalizing us with
  | nil s =>
    rw [hs'] at hs
    rw [List.self_eq_append_left.mp hs]
    exact .nil _
  | @cons x xs s s₁ s₂ hreceive hrest ih =>
    rw [eq_following hs] at hreceive
    cases us with
    | nil =>
      -- the failing item is gone after this receive, and no script grows
      have hstate : (s.seen x.maxFds).following vs = s₁ := congrArg Receipt.state hreceive
      have hlength := length_le_of_answers hrest
      rw [hs', ← hstate] at hlength
      exact absurd hlength (Nat.not_succ_le_self _)
    | cons item items =>
      obtain ⟨left, control, outcome, hanswer⟩ :=
        exists_receive_append s item items x.room x.maxFds
      have hwith := (hanswer (.stall e :: vs)).symm.trans hreceive
      injection hwith with hstate hcontrol houtcome
      subst hstate
      refine .cons ?_ (@ih left rfl hs')
      rw [← hcontrol, ← houtcome]
      exact hanswer ws

theorem receive_roomsSeen (s : Script) (rooms : List Nat) (room maxFds : Nat) :
    receive { s with roomsSeen := rooms } room maxFds =
      ⟨{ (s.receive room maxFds).state with roomsSeen := maxFds :: rooms },
        (s.receive room maxFds).control, (s.receive room maxFds).outcome⟩ := by
  obtain ⟨items, ending, maxChunk?, roomsSeen⟩ := s
  cases items with
  | nil => rfl
  | cons item items =>
    simp only [receive]
    cases item.failure? <;> rfl

theorem answers_roomsSeen {xs : List Exchange} {s s' : Script} (h : source.Answers xs s s')
    (rooms : List Nat) :
    ∃ rooms', source.Answers xs { s with roomsSeen := rooms } { s' with roomsSeen := rooms' } := by
  induction h generalizing rooms with
  | nil s => exact ⟨rooms, .nil _⟩
  | @cons x xs s s₁ s₂ hreceive _ ih =>
    obtain ⟨rooms', hrest⟩ := ih (x.maxFds :: rooms)
    have hanswer : s.receive x.room x.maxFds = ⟨s₁, x.control, x.outcome⟩ := hreceive
    have hreceive' := receive_roomsSeen s rooms x.room x.maxFds
    rw [hanswer] at hreceive'
    exact ⟨rooms', .cons hreceive' hrest⟩

/-- Some items of the script make a receive fail, just where calls end: each after as many calls
as the schedule says. The other items are `ws`. -/
inductive StallsBetween (config : FrameConfig) : Schedule → List ScriptItem → Script → Prop
  | nil (s : Script) : StallsBetween config [] s.items s
  | cons {s : Script} {k : Nat} {e : Stall} {schedule : Schedule} {us vs ws : List ScriptItem} :
      s.items = us ++ .stall e :: vs →
      (Reader.after source config k s).items = .stall e :: vs →
      StallsBetween config schedule ws (Reader.after source config (k + 1) s) →
      StallsBetween config ((k, e) :: schedule) (us ++ ws) s

end Script

namespace Reader

theorem calls_roomsSeen (config : FrameConfig) (n : Nat) (s : Script) (rooms : List Nat) :
    calls Script.source config n { s with roomsSeen := rooms } = calls Script.source config n s ∧
      (after Script.source config n { s with roomsSeen := rooms }).items =
        (after Script.source config n s).items := by
  obtain ⟨xs, hxs, -, hcalls⟩ := calls_answers Script.source config n s
  obtain ⟨rooms', hrooms⟩ := Script.answers_roomsSeen hxs rooms
  obtain ⟨hsame, hafter⟩ := hcalls _ _ _ _ hrooms
  refine ⟨hsame, ?_⟩
  rw [hafter]

theorem calls_script {config : FrameConfig} {schedule : Schedule} {ws : List ScriptItem}
    {s : Script} (h : s.StallsBetween config schedule ws) (m : Nat) :
    calls Script.source config (schedule.span + m + schedule.length) s =
        schedule.weave config (calls Script.source config (schedule.span + m) (s.following ws)) ∧
      (after Script.source config (schedule.span + m + schedule.length) s).items =
        (after Script.source config (schedule.span + m) (s.following ws)).items := by
  induction h with
  | nil s =>
    rw [Schedule.span, Nat.zero_add, List.length_nil, Nat.add_zero]
    exact ⟨rfl, rfl⟩
  | @cons s k e schedule us vs ws hs hreached _ ih =>
    obtain ⟨hrest, hitems⟩ := ih
    rw [Schedule.turns_cons, Schedule.span_cons_add]
    generalize Schedule.span schedule + m = n at hrest hitems ⊢
    obtain ⟨xs, hxs, -, hcalls⟩ := calls_answers Script.source config k s
    obtain ⟨hsame, hthere⟩ := hcalls _ _ _ _ (Script.answers_following hxs hs hreached ws)
    have hlength := length_calls Script.source config k s
    generalize hs₁ : after Script.source config k s = s₁ at hreached hthere
    have hstall : Script.source.receive s₁ 4 (roomForFds config) =
        ⟨(s₁.seen (roomForFds config)).following vs, [], .error e.val⟩ := by
      have hreceive := Script.receive_stall s₁ e vs 4 (roomForFds config)
      rw [← Script.eq_following hreached] at hreceive
      exact hreceive
    have hnext := (calls_past_stall hs₁ hstall 0).2
    obtain ⟨hpast, hleft⟩ := calls_past_stall hs₁ hstall (n + schedule.length)
    -- the failing receive has left its mark on the books of the script, and nowhere else
    obtain ⟨hlater, hend⟩ := calls_roomsSeen config n (s₁.following ws)
      (roomForFds config :: s₁.roomsSeen)
    rw [Nat.zero_add, after_zero] at hnext
    rw [hnext] at hrest hitems
    rw [hpast, hleft, hrest, hitems, calls_add, after_add, hsame, hthere,
      Schedule.weave_cons_append hlength, ← hlater, ← hend]
    exact ⟨rfl, rfl⟩

/-- Receives that fail between two calls, in any number: each of them is reported by one call more,
and all other calls have the results, hand out and close the descriptors and make the receives that
they have and make without any failure. It makes no difference what earlier calls have left in the
buffer for control bytes. The failures are put into a source by the number of receives before them,
and into a script as items. -/
theorem stalls_between_calls (config : FrameConfig) :
    (∀ (σ : Type) (src : Source σ) (s : σ) (schedule : Schedule) (m : Nat),
      let cs := calls src config (schedule.span + m) s
      let n := schedule.span + m + schedule.length
      let stalling : Stalling σ := ⟨s, schedule.stalls cs⟩
      calls src.stalling config n stalling = schedule.weave config cs ∧
      after src.stalling config n stalling = ⟨after src config (schedule.span + m) s, []⟩ ∧
      ∀ ancillary,
        let kept := Step.series (Kept.readMessage src.stalling config) n ⟨stalling, ancillary⟩
        kept.results = (schedule.weave config cs).map (·.result) ∧
          kept.closed = (schedule.weave config cs).flatMap (·.closed)) ∧
    ∀ (s : Script) (schedule : Schedule) (ws : List ScriptItem) (m : Nat),
      s.StallsBetween config schedule ws →
      let cs := calls Script.source config (schedule.span + m) (s.following ws)
      let n := schedule.span + m + schedule.length
      calls Script.source config n s = schedule.weave config cs ∧
      (after Script.source config n s).items =
        (after Script.source config (schedule.span + m) (s.following ws)).items := by
  refine ⟨?_, ?_⟩
  · intro σ src s schedule m cs n stalling
    obtain ⟨hcalls, hafter⟩ := calls_stalling src config schedule m s
    refine ⟨hcalls, hafter, ?_⟩
    intro ancillary
    rw [← hcalls]
    exact Kept.series_readMessage src.stalling config n ⟨stalling, ancillary⟩
  · intro s schedule ws m h
    exact calls_script h m

/-- A receive that waited too long between two messages, and another one at the end of the stream.
The system names the first one by its number; the second one carries a typed error. -/
example :
    let late : Stall := ⟨.io (.system 11), rfl⟩
    let cut : Stall := ⟨.ancillaryTruncated 4, rfl⟩
    let first : ScriptItem := { data := [1, 0, 0, 0, 3, 0, 8, 0] }
    let second : ScriptItem := { data := [2, 0, 0, 0, 4, 0, 9, 0, 7] }
    (calls Script.source { order := .little } 5
        { items := [first, .stall late, second, .stall cut] }).map (·.result) =
      [.ok (.framed ⟨1, 3, 8⟩ [] [] .little), .error (.io (.system 11)),
        .ok (.framed ⟨2, 4, 9⟩ [7] [] .little), .error (.transport (.ancillaryTruncated 4)),
        .error .connectionClosed] := by
  cbv

end Reader

end FramedWire
