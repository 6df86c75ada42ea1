import FramedWire.Source.Script

/-!
# Lines

What a stream is still to deliver, byte by byte, each byte with the control bytes that arrive
together with it. A source follows its line if every receive takes a piece off the front;
where the pieces end, and how often a receive is interrupted between them, is left open.
Filling a buffer makes up for that: it takes exactly as much as the buffer has room for.
-/
namespace FramedWire

structure Carried where
  byte : UInt8
  control : Bytes := []
  deriving DecidableEq, Repr

abbrev Line := List Carried

namespace Line

def bytes (line : Line) : Bytes := line.map (·.byte)

def control (line : Line) : Bytes := line.flatMap (·.control)

/-- Bytes without any control data. -/
def plain (bs : Bytes) : Line := bs.map fun b => { byte := b }

/-- Bytes whose control bytes come with the first of them. -/
def tagged (control : Bytes) : Bytes → Line
  | [] => []
  | b :: bs => { byte := b, control } :: plain bs

@[simp] theorem bytes_nil : bytes [] = [] := rfl

@[simp] theorem bytes_append (line line' : Line) :
    bytes (line ++ line') = bytes line ++ bytes line' := List.map_append

@[simp] theorem control_append (line line' : Line) :
    control (line ++ line') = control line ++ control line' := List.flatMap_append

@[simp] theorem length_bytes (line : Line) : (bytes line).length = line.length := List.length_map _

@[simp] theorem bytes_take (line : Line) (n : Nat) : bytes (line.take n) = (bytes line).take n :=
  List.map_take

@[simp] theorem bytes_drop (line : Line) (n : Nat) : bytes (line.drop n) = (bytes line).drop n :=
  List.map_drop

@[simp] theorem bytes_eq_nil (line : Line) : bytes line = [] ↔ line = [] := List.map_eq_nil_iff

@[simp] theorem bytes_plain (bs : Bytes) : bytes (plain bs) = bs := by
  simp [bytes, plain, Function.comp_def]

@[simp] theorem control_plain (bs : Bytes) : control (plain bs) = [] := by
  simp [control, plain]

@[simp] theorem take_plain (bs : Bytes) (n : Nat) : (plain bs).take n = plain (bs.take n) :=
  List.map_take.symm

@[simp] theorem drop_plain (bs : Bytes) (n : Nat) : (plain bs).drop n = plain (bs.drop n) :=
  List.map_drop.symm

@[simp] theorem bytes_tagged (control bs : Bytes) : bytes (tagged control bs) = bs := by
  cases bs with
  | nil => rfl
  | cons b bs => exact congrArg (b :: ·) (bytes_plain bs)

theorem tagged_nil (bs : Bytes) : tagged [] bs = plain bs := by
  cases bs <;> rfl

theorem tagged_eq_append (tag bs : Bytes) {n : Nat} (hn : 0 < n) :
    tagged tag bs = tagged tag (bs.take n) ++ plain (bs.drop n) := by
  cases bs with
  | nil => simp [tagged, plain]
  | cons b bs =>
    obtain ⟨n, rfl⟩ := Nat.exists_eq_add_one_of_ne_zero (Nat.ne_of_gt hn)
    have hplain : plain bs = plain (bs.take n) ++ plain (bs.drop n) := by
      rw [← take_plain, ← drop_plain, List.take_append_drop]
    simp only [List.take_succ_cons, List.drop_succ_cons, tagged, List.cons_append, ← hplain]

theorem tagged_eq_nil {tag bs : Bytes} (h : tagged tag bs = []) : bs = [] := by
  rw [← bytes_tagged tag bs, h, bytes_nil]

theorem control_tagged (tag : Bytes) {bs : Bytes} (h : bs ≠ []) : control (tagged tag bs) = tag := by
  cases bs with
  | nil => exact absurd rfl h
  | cons b bs =>
    have hrest : control (plain bs) = [] := control_plain bs
    rw [tagged, control, List.flatMap_cons]
    exact (congrArg (tag ++ ·) hrest).trans (List.append_nil tag)

end Line

variable {σ : Type}

/-- A receive takes a piece off the front of the line, with the control bytes of that piece,
and only the end of the line leaves it empty. The one way to fail is to be interrupted, which
takes nothing. -/
inductive Receipt.Takes (holds : σ → Line → Prop) (line : Line) : Receipt σ → Prop
  | piece (taken rest : Line) {s : σ} : line = taken ++ rest → (taken = [] → rest = []) →
    holds s rest → Takes holds line ⟨s, Line.control taken, .ok (Line.bytes taken)⟩
  | interruption {s : σ} {e : TransportError} : e.toIo.isInterruption → holds s line →
    Takes holds line ⟨s, [], .error e⟩

def Source.Follows (src : Source σ) (holds : σ → Line → Prop) : Prop :=
  ∀ s line room maxFds, holds s line → 0 < room → (src.receive s room maxFds).Takes holds line

/-- A way of filling buffers that takes the front of the line, as much as there is room for. -/
def Fills (fill : (room : Nat) → σ → Filled σ) (holds : σ → Line → Prop) : Prop :=
  ∀ room s line, holds s line → ∃ s', holds s' (line.drop room) ∧
    fill room s = ⟨s', Line.control (line.take room), .ok (Line.bytes (line.take room))⟩

section

variable {holds : σ → Line → Prop} {line : Line} {r : Receipt σ} (h : r.Takes holds line)

include h

theorem Receipt.Takes.of_ok {bytes : Bytes} (hout : r.outcome = .ok bytes) :
    ∃ taken rest, line = taken ++ rest ∧ (taken = [] → rest = []) ∧ holds r.state rest ∧
      bytes = Line.bytes taken ∧ r.control = Line.control taken := by
  cases h with
  | piece taken rest hline hend hrest =>
    cases hout
    exact ⟨taken, rest, hline, hend, hrest, rfl, rfl⟩
  | interruption => cases hout

theorem Receipt.Takes.of_error {e : TransportError} (hout : r.outcome = .error e) :
    e.toIo.isInterruption ∧ holds r.state line ∧ r.control = [] := by
  cases h with
  | piece => cases hout
  | interruption hint hrest =>
    cases hout
    exact ⟨hint, hrest, rfl⟩

end

theorem Receipt.Takes.of_end {holds : σ → Line → Prop} {s : σ} (h : holds s []) :
    Takes holds [] ⟨s, [], .ok []⟩ :=
  .piece [] [] rfl id h

theorem Receipt.Takes.of_tagged {holds : σ → Line → Prop} {s : σ} {tag bytes : Bytes} {n : Nat}
    {after : Line} (hn : 0 < n) (hbytes : bytes ≠ [])
    (h : holds s (Line.plain (bytes.drop n) ++ after)) :
    Takes holds (Line.tagged tag bytes ++ after) ⟨s, tag, .ok (bytes.take n)⟩ := by
  have htake : bytes.take n ≠ [] := by simp [hbytes, Nat.ne_of_gt hn]
  have hline : Line.tagged tag bytes ++ after
      = Line.tagged tag (bytes.take n) ++ (Line.plain (bytes.drop n) ++ after) := by
    rw [← List.append_assoc, ← Line.tagged_eq_append _ _ hn]
  have hpiece := Receipt.Takes.piece _ _ hline
    (fun hnone => absurd (Line.tagged_eq_nil hnone) htake) h
  rw [Line.control_tagged _ htake, Line.bytes_tagged] at hpiece
  exact hpiece

namespace Source.Follows

variable {src : Source σ} {holds : σ → Line → Prop}

/-- However the line is cut into pieces, a buffer is filled with its front. -/
theorem fills (h : src.Follows holds) (maxFds : Nat) : Fills (src.fill maxFds) holds := by
  intro room s line hs
  -- The room shrinks with each piece and the patience with each interruption; the line that is
  -- left shrinks only with the room.
  fun_induction Source.fill src maxFds room s generalizing line with
  | case1 s => exact ⟨s, hs, rfl⟩
  | case2 room s hroom receipt =>
    -- Nothing was received, so the line has come to its end.
    rename_i hout
    have htakes := h s line room maxFds hs (Nat.pos_of_ne_zero hroom)
    obtain ⟨taken, rest, rfl, hend, hrest, hbytes, hcontrol⟩ := htakes.of_ok hout
    have htaken : taken = [] := (Line.bytes_eq_nil taken).mp hbytes.symm
    have hempty : rest = [] := hend htaken
    subst htaken hempty
    refine ⟨receipt.state, ?_, ?_⟩
    · simpa using hrest
    · simpa using hcontrol
  | case3 room s hroom receipt b bs hout =>
    rename_i ih
    have htakes := h s line room maxFds hs (Nat.pos_of_ne_zero hroom)
    obtain ⟨taken, rest, rfl, -, hrest, hbytes, hcontrol⟩ := htakes.of_ok hout
    have hlength : (b :: bs).length = taken.length := by rw [hbytes, Line.length_bytes]
    have hle : taken.length ≤ room := by
      rw [← hlength]
      exact src.length_le s room maxFds (b :: bs) hout
    have hc : receipt.control = Line.control taken := hcontrol
    obtain ⟨s', hs', hfill⟩ := ih _ hrest
    rw [hlength] at hs'
    refine ⟨s', ?_, ?_⟩
    · rw [List.drop_append, List.drop_eq_nil_of_le hle, List.nil_append]
      exact hs'
    · rw [hfill, hlength, hbytes, List.take_append, List.take_of_length_le hle]
      simp [Filled.after, Except.map, hc]
  | case4 room s hroom receipt e hout hint =>
    rename_i ih
    have htakes := h s line room maxFds hs (Nat.pos_of_ne_zero hroom)
    obtain ⟨-, hrest, hcontrol⟩ := htakes.of_error hout
    have hc : receipt.control = [] := hcontrol
    obtain ⟨s', hs', hfill⟩ := ih _ hrest
    refine ⟨s', hs', ?_⟩
    rw [hfill, hc]
    simp [Filled.after, Except.map]
  | case5 room s hroom receipt e hout =>
    rename_i hint
    have htakes := h s line room maxFds hs (Nat.pos_of_ne_zero hroom)
    exact absurd (htakes.of_error hout).1 hint

end Source.Follows

namespace ScriptItem

/-- The item delivers at least one byte, or interrupts one receive and brings nothing. -/
def IsDelivery (item : ScriptItem) : Prop :=
  match item.failure? with
  | none => item.data ≠ []
  | some e => e.toIo.isInterruption ∧ item.control = []

def line (item : ScriptItem) : Line :=
  match item.failure? with
  | none => Line.tagged item.control item.data
  | some _ => []

end ScriptItem

namespace Script

structure Carries (s : Script) (line : Line) : Prop where
  items : ∀ item ∈ s.items, item.IsDelivery
  ending : s.ending = none
  chunk : s.maxChunk? ≠ some 0
  line_eq : line = s.items.flatMap ScriptItem.line

theorem portion_pos {s : Script} {item : ScriptItem} {room : Nat} (hchunk : s.maxChunk? ≠ some 0)
    (hdata : item.data ≠ []) (hroom : 0 < room) : 0 < s.portion item room := by
  have hlength := List.length_pos_iff.mpr hdata
  unfold portion
  cases hmax : s.maxChunk? with
  | none =>
    simp only [Option.getD_none]
    omega
  | some chunk =>
    have hpos : chunk ≠ 0 := fun h0 => hchunk (by rw [hmax, h0])
    simp only [Option.getD_some]
    omega

section

variable {item : ScriptItem} (hfail : item.failure? = none) (n : Nat)

include hfail

theorem line_remainder :
    (remainder item n).flatMap ScriptItem.line = Line.plain (item.data.drop n) := by
  unfold remainder
  split
  · rename_i hnone
    rw [hnone]
    rfl
  · simp [ScriptItem.line, hfail, Line.tagged_nil]

theorem isDelivery_of_mem_remainder {next : ScriptItem} (h : next ∈ remainder item n) :
    next.IsDelivery := by
  unfold remainder at h
  split at h
  · cases h
  · rename_i hsome
    cases List.mem_singleton.mp h
    simpa only [ScriptItem.IsDelivery, hfail] using hsome

end

/-- A script of deliveries is followed to its end. -/
theorem follows : source.Follows Carries := by
  intro s line room maxFds hs hroom
  obtain ⟨hitems, hending, hchunk, rfl⟩ := hs
  change (s.receive room maxFds).Takes Carries _
  cases hcons : s.items with
  | nil =>
    have hreceive : s.receive room maxFds = ⟨s.seen maxFds, [], .ok []⟩ := by
      simp only [receive, hcons, endOutcome, hending]
    rw [hreceive]
    apply Receipt.Takes.of_end
    exact ⟨hitems, hending, hchunk, by simp [seen, hcons]⟩
  | cons item items =>
    rw [hcons] at hitems
    have hitem := hitems item List.mem_cons_self
    have hlater : ∀ next ∈ items, next.IsDelivery :=
      fun next hnext => hitems next (List.mem_cons_of_mem item hnext)
    cases hfail : item.failure? with
    | some e =>
      have hreceive : s.receive room maxFds =
          ⟨{ s.seen maxFds with items := items }, item.control, .error e⟩ := by
        simp only [receive, hcons, hfail]
      simp only [ScriptItem.IsDelivery, hfail] at hitem
      rw [hreceive, hitem.2]
      apply Receipt.Takes.interruption hitem.1
      exact ⟨hlater, hending, hchunk, by simp [ScriptItem.line, hfail]⟩
    | none =>
      have hreceive : s.receive room maxFds =
          ⟨{ s.seen maxFds with items := remainder item (s.portion item room) ++ items },
            item.control, .ok (item.data.take (s.portion item room))⟩ := by
        simp only [receive, hcons, hfail]
      have hdata : item.data ≠ [] := by simpa only [ScriptItem.IsDelivery, hfail] using hitem
      have hline : item.line = Line.tagged item.control item.data := by
        simp only [ScriptItem.line, hfail]
      rw [hreceive, List.flatMap_cons, hline]
      apply Receipt.Takes.of_tagged (portion_pos hchunk hdata hroom) hdata
      refine ⟨?_, hending, hchunk, ?_⟩
      · intro next hnext
        rcases List.mem_append.mp hnext with hfirst | hnext
        · exact isDelivery_of_mem_remainder hfail _ hfirst
        · exact hlater next hnext
      · rw [List.flatMap_append, line_remainder hfail]

end Script

end FramedWire
