import FramedWire.Proofs.ControlLayout
import Mathlib.Data.List.Nodup

/-!
# Walking over control bytes

The walk as it is made: a cursor moves over the buffer, cuts out of it what the next record
declares, and goes on behind it. Lengths come from the buffer and are not to be trusted. Here a cut
that is out of range comes to nothing, and so does a sum that takes more than 64 bits; below
`2 ^ 31` bytes neither happens, the walk ends, and what it yields are records that lie in the
buffer one after the other, and then at most one error. The two that claim descriptors from the
walk, taking all of them or closing what can be found, see the same records.
-/
namespace FramedWire

/-- The bytes from `start` up to `stop`, which are supposed to be there. -/
def Bytes.slice? (start stop : Nat) (bytes : Bytes) : Option Bytes :=
  if start ≤ stop ∧ stop ≤ bytes.length then some ((bytes.take stop).drop start) else none

theorem Bytes.slice?_of_le {start stop : Nat} {bytes : Bytes} (h : start ≤ stop)
    (h' : stop ≤ bytes.length) : bytes.slice? start stop = some ((bytes.take stop).drop start) :=
  if_pos ⟨h, h'⟩

theorem Bytes.slice?_append (front middle rest : Bytes) :
    (front ++ (middle ++ rest)).slice? front.length (front.length + middle.length) =
      some middle := by
  have hlength : (front ++ (middle ++ rest)).length =
      front.length + (middle.length + rest.length) := by
    rw [List.length_append, List.length_append]
  rw [slice?_of_le (by omega) (by omega), List.drop_take, List.drop_left,
    Nat.add_sub_cancel_left, List.take_left]

namespace Control

structure Cursor where
  offset : Nat := 0
  /-- A malformed record was met, which ends the walk. -/
  failed : Bool := false

structure Span where
  record : Record
  start : Nat
  stop : Nat

/-- One step of a walk: the next item, if there is one, and where the walk goes on. -/
def next? (bytes : Bytes) (c : Cursor) :
    Option (Option (Except ControlError Span) × Cursor) := do
  let rest ← bytes.slice? c.offset bytes.length
  if c.failed ∨ rest.length < headerLen then some (none, c)
  else
    let header ← rest.slice? 0 headerLen
    let len := Bytes.toNat (header.take 8)
    if len < headerLen ∨ rest.length < len then
      some (some (.error (.malformed c.offset len rest.length)), { c with failed := true })
    else
      let data ← rest.slice? headerLen len
      let stride := spaceForBytes (len - headerLen)
      if 2 ^ 64 ≤ c.offset + stride then none
      else
        let record : Record :=
          { level := (UInt32.ofNat (Bytes.toNat ((header.drop 8).take 4))).toInt32
            kind := (UInt32.ofNat (Bytes.toNat ((header.drop 12).take 4))).toInt32
            data := data }
        some (some (.ok ⟨record, c.offset + headerLen, c.offset + len⟩),
          { c with offset := min (c.offset + stride) bytes.length })

/-- The walk from `c` on ends, and yields these items before; no step comes to nothing. -/
inductive Yields (bytes : Bytes) : Cursor → List (Except ControlError Span) → Prop
  | done {c c' : Cursor} : next? bytes c = some (none, c') → Yields bytes c []
  | item {c c' : Cursor} {item : Except ControlError Span}
      {items : List (Except ControlError Span)} :
      next? bytes c = some (some item, c') → Yields bytes c' items →
      Yields bytes c (item :: items)

/-- The span of a record that starts at `offset`. -/
def spanAt (offset : Nat) (r : Record) : Span :=
  ⟨r, offset + headerLen, offset + (headerLen + r.data.length)⟩

@[simp] theorem record_spanAt (offset : Nat) (r : Record) : (spanAt offset r).record = r := rfl

@[simp] theorem start_spanAt (offset : Nat) (r : Record) :
    (spanAt offset r).start = offset + headerLen := rfl

@[simp] theorem stop_spanAt (offset : Nat) (r : Record) :
    (spanAt offset r).stop = offset + (headerLen + r.data.length) := rfl

/-- The data of the record stands in the buffer where the span says. -/
def Span.Inside (bytes : Bytes) (s : Span) : Prop :=
  s.start ≤ s.stop ∧ s.stop ≤ bytes.length ∧ bytes.slice? s.start s.stop = some s.record.data

/-- The header of `s'` comes after the data of `s`. -/
def Span.Before (s s' : Span) : Prop := s.stop + headerLen ≤ s'.start

section

variable (front : Bytes)

theorem slice?_rest (rest : Bytes) :
    (front ++ rest).slice? front.length (front ++ rest).length = some rest := by
  have h := Bytes.slice?_append front rest []
  rw [List.append_nil] at h
  rw [List.length_append]
  exact h

theorem next?_of_failed (rest : Bytes) :
    next? (front ++ rest) ⟨front.length, true⟩ = some (none, ⟨front.length, true⟩) := by
  simp only [next?, slice?_rest, Option.bind_eq_bind, Option.bind_some, true_or, if_true]

theorem next?_of_short {rest : Bytes} (h : rest.length < headerLen) :
    next? (front ++ rest) ⟨front.length, false⟩ = some (none, ⟨front.length, false⟩) := by
  simp only [next?, slice?_rest, Option.bind_eq_bind, Option.bind_some, h, or_true, if_true]

theorem slice?_header {rest : Bytes} (h : headerLen ≤ rest.length) :
    ∃ header, rest.slice? 0 headerLen = some header ∧ header.take 8 = rest.take 8 ∧
      (header.drop 8).take 4 = (rest.drop 8).take 4 ∧
      (header.drop 12).take 4 = (rest.drop 12).take 4 := by
  refine ⟨rest.take headerLen, Bytes.slice?_of_le (Nat.zero_le _) h, ?_, ?_, ?_⟩
  · exact List.take_take
  · rw [List.drop_take]
    exact List.take_take
  · rw [List.drop_take]
    exact List.take_take

theorem next?_of_malformed {rest : Bytes} (hlong : headerLen ≤ rest.length)
    (hbad : declaredLen rest < headerLen ∨ rest.length < declaredLen rest) :
    next? (front ++ rest) ⟨front.length, false⟩ =
      some (some (.error (.malformed front.length (declaredLen rest) rest.length)),
        ⟨front.length, true⟩) := by
  obtain ⟨header, hheader, hlen, -, -⟩ := slice?_header hlong
  unfold declaredLen at hbad ⊢
  simp only [next?, slice?_rest, Option.bind_eq_bind, Option.bind_some, Nat.not_lt.mpr hlong,
    Bool.false_eq_true, or_self, if_false, hheader, hlen, if_pos hbad]

theorem next?_of_body (r : Record) (tail : Bytes)
    (hlimit : (front ++ (r.body ++ tail)).length < 2 ^ 31) :
    next? (front ++ (r.body ++ tail)) ⟨front.length, false⟩ =
      some (some (.ok (spanAt front.length r)),
        ⟨min (front.length + spaceForBytes r.data.length) (front ++ (r.body ++ tail)).length,
          false⟩) := by
  have hbody : r.body.length = headerLen + r.data.length := Record.length_body r
  have hrest : (r.body ++ tail).length = r.body.length + tail.length := List.length_append
  have hwhole : (front ++ (r.body ++ tail)).length = front.length + (r.body ++ tail).length :=
    List.length_append
  have hlong : headerLen ≤ (r.body ++ tail).length := by omega
  obtain ⟨header, hheader, hlen, hlevel, hkind⟩ := slice?_header hlong
  obtain ⟨hlen', hlevel', hkind', hdata⟩ := fields_body_append r tail
  have hbelow : r.body.length < 2 ^ 31 := by omega
  have hsound : ¬ (headerLen + r.data.length < headerLen ∨
      (r.body ++ tail).length < headerLen + r.data.length) := by omega
  have hslice : (r.body ++ tail).slice? headerLen (headerLen + r.data.length) = some r.data := by
    rw [Bytes.slice?_of_le (by omega) (by omega), hdata]
  have hsum : ¬ 2 ^ 64 ≤ front.length + spaceForBytes r.data.length := by
    have hroom : spaceForBytes r.data.length < 2 ^ 32 := Nat.mod_lt _ (by decide)
    omega
  simp only [next?, slice?_rest, Option.bind_eq_bind, Option.bind_some, Nat.not_lt.mpr hlong,
    Bool.false_eq_true, or_self, if_false, hheader, hlen, hlen', hlevel, hlevel', hkind, hkind',
    Record.toNat_ofNat_length hbelow, if_neg hsound, hslice, Nat.add_sub_cancel_left,
    if_neg hsum, toInt32_decode]
  rfl

theorem inside_spanAt (r : Record) (tail : Bytes) :
    (spanAt front.length r).Inside (front ++ (r.body ++ tail)) := by
  have hwhole : (front ++ (r.body ++ tail)).length =
      front.length + (headerLen + r.data.length) + tail.length := by
    rw [List.length_append, List.length_append, Record.length_body, Nat.add_assoc,
      Nat.add_assoc, Nat.add_assoc]
  have hhead : (front ++ Record.header (headerLen + r.data.length) r.level r.kind).length =
      front.length + headerLen := by
    rw [List.length_append, Record.length_header]
  refine ⟨by rw [start_spanAt, stop_spanAt]; omega, by rw [stop_spanAt]; omega, ?_⟩
  have hparts : front ++ (r.body ++ tail) =
      (front ++ Record.header (headerLen + r.data.length) r.level r.kind) ++ (r.data ++ tail) := by
    simp only [Record.body, List.append_assoc]
  have hslice := Bytes.slice?_append
    (front ++ Record.header (headerLen + r.data.length) r.level r.kind) r.data tail
  rw [hhead, Nat.add_assoc, ← hparts] at hslice
  exact hslice

end

/-- The walk over a layout yields its records where they stand, and its error. -/
theorem exists_yields {offset : Nat} {rest : Bytes} {records : List Record}
    {ending : Option ControlError} (h : Laid offset rest records ending) (front : Bytes)
    (hfront : front.length = offset) (hlimit : (front ++ rest).length < 2 ^ 31) :
    ∃ spans : List Span, spans.map Span.record = records ∧
      Yields (front ++ rest) ⟨offset, false⟩ (spans.map .ok ++ (ending.map .error).toList) ∧
      (∀ s ∈ spans, offset + headerLen ≤ s.start ∧ s.Inside (front ++ rest)) ∧
      spans.Pairwise Span.Before := by
  induction h generalizing front with
  | short hshort =>
    subst hfront
    exact ⟨[], rfl, .done (next?_of_short front hshort), nofun, .nil⟩
  | malformed hlong hbad =>
    subst hfront
    refine ⟨[], rfl, ?_, nofun, .nil⟩
    exact .item (next?_of_malformed front hlong hbad) (.done (next?_of_failed front _))
  | @record offset r padding rest records ending hpadding _ ih =>
    subst hfront
    have hbody : (r.body ++ padding).length = headerLen + r.data.length + padding.length := by
      rw [List.length_append, Record.length_body]
    have hassoc : front ++ (r.body ++ padding) ++ rest = front ++ (r.body ++ padding ++ rest) :=
      List.append_assoc _ _ _
    have hwhole : (front ++ (r.body ++ padding ++ rest)).length =
        front.length + (r.body ++ padding).length + rest.length := by
      rw [← hassoc, List.length_append, List.length_append]
    obtain ⟨spans, hrecords, hyields, hinside, hbefore⟩ :=
      ih (front ++ (r.body ++ padding)) List.length_append (by rw [hassoc]; exact hlimit)
    rw [hassoc] at hyields hinside
    have hstep := next?_of_body front r (padding ++ rest)
    rw [← List.append_assoc r.body, spaceForBytes_eq_add_slack (by omega), ← hpadding, ← hbody,
      Nat.min_eq_left (by omega)] at hstep
    refine ⟨spanAt front.length r :: spans, ?_, .item (hstep hlimit) hyields, ?_, ?_⟩
    · rw [List.map_cons, hrecords, record_spanAt]
    · intro s hs
      rcases List.mem_cons.mp hs with rfl | hs
      · refine ⟨Nat.le_refl _, ?_⟩
        rw [List.append_assoc]
        exact inside_spanAt front r (padding ++ rest)
      · have hs := hinside s hs
        exact ⟨by omega, hs.2⟩
    · refine .cons ?_ hbefore
      intro s hs
      have hstart := (hinside s hs).1
      rw [Span.Before, stop_spanAt]
      omega
  | @last offset r padding hpadding =>
    subst hfront
    have hbody : (r.body ++ padding).length = headerLen + r.data.length + padding.length := by
      rw [List.length_append, Record.length_body]
    have hwhole : (front ++ (r.body ++ padding)).length =
        front.length + (r.body ++ padding).length := List.length_append
    have hstep := next?_of_body front r padding hlimit
    rw [spaceForBytes_eq_add_slack (by omega), Nat.min_eq_right (by omega)] at hstep
    have hnone : ([] : Bytes).length < headerLen := by decide
    have hend := next?_of_short (front ++ (r.body ++ padding)) hnone
    rw [List.append_nil] at hend
    refine ⟨[spanAt front.length r], rfl, .item hstep (.done hend), ?_, List.pairwise_singleton _ _⟩
    intro s hs
    cases List.mem_singleton.mp hs
    exact ⟨Nat.le_refl _, inside_spanAt front r padding⟩

/-- An error tells of a header that contradicts the bytes from there to the end. -/
theorem malformed_of_laid {offset : Nat} {rest : Bytes} {records : List Record}
    {e : ControlError} (h : Laid offset rest records (some e)) :
    ∃ start len available, e = .malformed start len available ∧
      start + available = offset + rest.length ∧ (len < headerLen ∨ available < len) := by
  generalize hending : some e = ending at h
  induction h with
  | short => cases hending
  | malformed _ hbad =>
    cases hending
    exact ⟨_, _, _, rfl, rfl, hbad⟩
  | @record offset r padding rest _ _ _ _ ih =>
    obtain ⟨start, len, available, he, hsum, hbad⟩ := ih hending
    have hlength : (r.body ++ padding ++ rest).length = (r.body ++ padding).length + rest.length :=
      List.length_append
    exact ⟨start, len, available, he, by omega, hbad⟩
  | last => cases hending

/-! ## The two claimants -/

/-- Gather the descriptors of all rights records, unless an error comes. -/
def takeLoop (gathered : List Descriptor) :
    List (Except ControlError Span) → Except ControlError (List Descriptor)
  | [] => .ok gathered
  | .error e :: _ => .error e
  | .ok s :: items =>
    match s.record.rights with
    | .ok ds => takeLoop (gathered ++ ds) items
    | .error (.notRights _ _) => takeLoop gathered items
    | .error e => .error e

/-- Close the descriptors of each rights record until an error comes, and count them. -/
def closeLoop (count : Nat) : List (Except ControlError Span) → Nat × List Descriptor
  | [] => (count, [])
  | .error _ :: _ => (count, [])
  | .ok s :: items =>
    match s.record.rights with
    | .ok ds =>
      let (total, closed) := closeLoop (count + ds.length) items
      (total, ds ++ closed)
    | .error _ => closeLoop count items

section

variable (spans : List Span) (ending : Option ControlError)

theorem takeLoop_spans (gathered : List Descriptor) :
    takeLoop gathered (spans.map .ok ++ (ending.map .error).toList) =
      match ending with
      | none => .ok (gathered ++ named (spans.map Span.record))
      | some e => .error e := by
  induction spans generalizing gathered with
  | nil =>
    cases ending with
    | none => exact congrArg Except.ok (List.append_nil gathered).symm
    | some e => rfl
  | cons s spans ih =>
    by_cases hr : s.record.IsRights
    · simp only [List.map_cons, List.cons_append, takeLoop, Record.rights_of_isRights hr, ih,
        named_cons, List.append_assoc]
    · simp only [List.map_cons, List.cons_append, takeLoop, Record.rights_of_not_isRights hr, ih,
        named_cons, Record.carried_of_not_isRights hr, List.nil_append]

theorem closeLoop_spans (count : Nat) :
    closeLoop count (spans.map .ok ++ (ending.map .error).toList) =
      (count + (named (spans.map Span.record)).length, named (spans.map Span.record)) := by
  induction spans generalizing count with
  | nil => cases ending <;> rfl
  | cons s spans ih =>
    by_cases hr : s.record.IsRights
    · simp only [List.map_cons, List.cons_append, closeLoop, Record.rights_of_isRights hr, ih,
        named_cons, List.length_append, Nat.add_assoc]
    · simp only [List.map_cons, List.cons_append, closeLoop, Record.rights_of_not_isRights hr, ih,
        named_cons, Record.carried_of_not_isRights hr, List.nil_append]

end

structure Walked (bytes : Bytes) (spans : List Span) (ending : Option ControlError) : Prop where
  yields : Yields bytes {} (spans.map .ok ++ (ending.map .error).toList)
  walk_eq : walk bytes = spans.map (fun s => .ok s.record) ++ (ending.map .error).toList
  inside : ∀ s ∈ spans, s.Inside bytes
  in_order : spans.Pairwise Span.Before
  last : ∀ e, ending = some e → ∃ start len available, e = .malformed start len available ∧
    start + available = bytes.length ∧ (len < headerLen ∨ available < len)

/-- Taking is all or nothing, and closing releases what is named before the error. -/
structure Claimed (bytes : Bytes) (spans : List Span) (ending : Option ControlError) : Prop where
  take_ok : ∀ ds, take bytes = .ok ds ↔ ending = none ∧ ds = named (spans.map Span.record)
  take_error : ∀ e, take bytes = .error e ↔ ending = some e
  close_eq : close bytes = named (spans.map Span.record)
  once : (named (spans.map Span.record)).Nodup →
    ∀ d ∈ named (spans.map Span.record), (close bytes).count d = 1
  take_loop : takeLoop [] (spans.map .ok ++ (ending.map .error).toList) = take bytes
  close_loop : closeLoop 0 (spans.map .ok ++ (ending.map .error).toList) =
    ((close bytes).length, close bytes)

theorem claimed_of_laid {bytes : Bytes} {spans : List Span} {ending : Option ControlError}
    (h : Laid 0 bytes (spans.map Span.record) ending) (hlimit : bytes.length < 2 ^ 31) :
    Claimed bytes spans ending := by
  have hclose : close bytes = named (spans.map Span.record) := close_of_laid hlimit h
  have hcount : (named (spans.map Span.record)).Nodup →
      ∀ d ∈ named (spans.map Span.record), (close bytes).count d = 1 := by
    intro hnodup d hd
    rw [hclose]
    exact List.count_eq_one_of_mem hnodup hd
  cases ending with
  | none =>
    have htake : take bytes = .ok (named (spans.map Span.record)) := take_of_laid hlimit h
    refine ⟨?_, ?_, hclose, hcount, ?_, ?_⟩
    · intro ds
      rw [htake, Except.ok.injEq, eq_comm]
      exact (and_iff_right rfl).symm
    · intro e
      rw [htake]
      exact ⟨nofun, nofun⟩
    · rw [takeLoop_spans, htake, List.nil_append]
    · rw [closeLoop_spans, hclose, Nat.zero_add]
  | some e =>
    have htake : take bytes = .error e := take_of_laid_malformed hlimit h
    refine ⟨?_, ?_, hclose, hcount, ?_, ?_⟩
    · intro ds
      rw [htake]
      exact ⟨nofun, nofun⟩
    · intro e'
      rw [htake, Except.error.injEq, Option.some.injEq]
    · rw [takeLoop_spans, htake]
    · rw [closeLoop_spans, hclose, Nat.zero_add]

/-- Walking over any bytes is safe, and whoever claims the descriptors does it for the records of
that walk. -/
theorem walk_safe (bytes : Bytes) (hlimit : bytes.length < 2 ^ 31) :
    ∃ spans ending, Walked bytes spans ending ∧ Claimed bytes spans ending := by
  obtain ⟨records, ending, hlaid⟩ := exists_laid 0 bytes hlimit
  obtain ⟨spans, rfl, hyields, hinside, hbefore⟩ := exists_yields hlaid [] rfl hlimit
  refine ⟨spans, ending, ⟨hyields, ?_, fun s hs => (hinside s hs).2, hbefore, ?_⟩,
    claimed_of_laid hlaid hlimit⟩
  · rw [walk, walkFrom_of_laid hlaid hlimit, List.map_map]
    rfl
  · rintro e rfl
    have hmalformed := malformed_of_laid hlaid
    rw [Nat.zero_add] at hmalformed
    exact hmalformed

/-- A rights record, one of odd length, and a header that declares five bytes. -/
theorem walk_safe_malformed :
    let bytes := encodeRights [⟨8⟩, ⟨9⟩, ⟨4⟩] ++
      (Record.encode ⟨6, 1, [1, 2, 3]⟩ ++ Bytes.ofNat 20 5)
    bytes.length < 2 ^ 31 ∧ take bytes = .error (.malformed 56 5 20) ∧
      close bytes = [⟨8⟩, ⟨9⟩, ⟨4⟩] ∧
      ∃ spans, Walked bytes spans (some (.malformed 56 5 20)) ∧
        Claimed bytes spans (some (.malformed 56 5 20)) := by
  intro bytes
  have hlimit : bytes.length < 2 ^ 31 := by decide
  have hlaid : Laid 0 bytes [rightsRecord [⟨8⟩, ⟨9⟩, ⟨4⟩], ⟨6, 1, [1, 2, 3]⟩]
      (some (.malformed 56 5 20)) :=
    .record (rightsRecord [⟨8⟩, ⟨9⟩, ⟨4⟩]) (Bytes.zeros 4) rfl
      (.record ⟨6, 1, [1, 2, 3]⟩ (Bytes.zeros 5) rfl (.malformed (by decide) (.inl (by decide))))
  have htake : take bytes = .error (.malformed 56 5 20) := take_of_laid_malformed hlimit hlaid
  have hclose : close bytes = [⟨8⟩, ⟨9⟩, ⟨4⟩] := close_of_laid hlimit hlaid
  obtain ⟨spans, ending, hwalked, hclaimed⟩ := walk_safe bytes hlimit
  cases (hclaimed.take_error _).mp htake
  exact ⟨hlimit, htake, hclose, spans, hwalked, hclaimed⟩

end Control

end FramedWire
