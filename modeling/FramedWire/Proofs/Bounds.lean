import FramedWire.Proofs.Reads

/-!
# Reads within bounds

An access of the payload does not look at the length itself; it relies on a check that was made
before. Here such accesses come to nothing when they are out of range, and so the reads that are
made of them could come to nothing too. They never do, whatever was read before and however it
ended: they are the reads of a message. What all states of a message have in common is derived
with it, read by read, and `Op.trace_framed` says both of every row of operations.
-/
namespace FramedWire

namespace ByteOrder

/-- Take a word, whose four bytes are supposed to be there. -/
def getUint? (order : ByteOrder) (bytes : Bytes) : Option (UInt32 × Bytes) :=
  if bytes.length < 4 then none else some (order.decode (bytes.take 4), bytes.drop 4)

def getInt? (order : ByteOrder) (bytes : Bytes) : Option (Int32 × Bytes) :=
  (order.getUint? bytes).map fun (word, rest) => (word.toInt32, rest)

end ByteOrder

namespace Bytes

/-- Split off the first `n` bytes, which are supposed to be there. -/
def splitTo? (n : Nat) (bytes : Bytes) : Option (Bytes × Bytes) :=
  if bytes.length < n then none else some (bytes.take n, bytes.drop n)

/-- Keep the first `n` bytes, which are supposed to be there. -/
def truncate? (n : Nat) (bytes : Bytes) : Option Bytes :=
  if bytes.length < n then none else some (bytes.take n)

end Bytes

namespace Message

section

variable {α β : Type}

/-- An access for which `needed` bytes are required. -/
def ensuring (needed : Nat) (m : Message) (access : Option (Reading α)) : Option (Reading α) :=
  if m.payload.length < needed then some (.fail (.truncated needed m.payload.length) m)
  else access

/-- Go on after a read that took no descriptor. -/
def chain (first : Reading α) (next : α → Message → Reading β) : Reading β :=
  match first with
  | { result := .error e, state := m, closed := _ } => .fail e m
  | { result := .ok a, state := m, closed := _ } => next a m

def chain? (first : Option (Reading α)) (next : α → Message → Option (Reading β)) :
    Option (Reading β) :=
  first.bind fun step =>
    match step with
    | { result := .error e, state := m, closed := _ } => some (.fail e m)
    | { result := .ok a, state := m, closed := _ } => next a m

/-- One item after the other, as `Step.collect` reads them. -/
def collect? (owned : α → List Descriptor) (read : β → Message → Option (Reading α)) :
    List β → Message → Option (Reading (List α))
  | [], m => some (.done [] m)
  | b :: bs, m =>
    (read b m).bind fun step =>
      match step with
      | { result := .error e, state := m, closed := ds } =>
        some { result := .error e, state := m, closed := ds }
      | { result := .ok a, state := m, closed := ds } =>
        (collect? owned read bs m).map fun rest =>
          match rest with
          | { result := .error e, state := m, closed := ds' } =>
            { result := .error e, state := m, closed := ds ++ owned a ++ ds' }
          | { result := .ok as, state := m, closed := ds' } =>
            { result := .ok (a :: as), state := m, closed := ds ++ ds' }

end

def readUint? (m : Message) : Option (Reading UInt32) :=
  ensuring 4 m do
    let (word, rest) ← m.order.getUint? m.payload
    some (.done word { m with payload := rest })

def readInt? (m : Message) : Option (Reading Int32) :=
  ensuring 4 m do
    let (value, rest) ← m.order.getInt? m.payload
    some (.done value { m with payload := rest })

def readFixed? (m : Message) : Option (Reading Fixed) := m.readInt?.map (Step.map Fixed.mk)

/-- A field with its padding. Sizes are numbers of 64 bits, and the sum must be one as well. -/
def splitPadded? (m : Message) (len : Nat) : Option (Reading Bytes) :=
  let padded := len + Bytes.padding len
  if 2 ^ 64 ≤ padded then some (.fail (.lengthOverflow len) m)
  else
    ensuring padded m do
      let (field, rest) ← m.payload.splitTo? padded
      some (.done field { m with payload := rest })

/-- The text of a string whose terminator is the byte at `last`. -/
def readText? (m : Message) (last : Nat) : Option (Reading String) := do
  let terminator ← m.payload[last]?
  if terminator ≠ 0 then some (.fail .malformedString m)
  else
    chain? (m.splitPadded? (last + 1)) fun field m => do
      let characters ← field.truncate? last
      match Text.ofUtf8? characters with
      | some text => some (.done text m)
      | none => some (.fail .invalidUtf8 m)

/-- A string of length zero has no last byte, and it is refused before that is looked at. -/
def readString? (m : Message) : Option (Reading String) :=
  chain? m.readUint? fun word m =>
    match word.toNat with
    | 0 => some (.fail .zeroLengthString m)
    | last + 1 => ensuring (last + 1) m (m.readText? last)

def readArray? (m : Message) : Option (Reading Bytes) :=
  chain? m.readUint? fun word m =>
    chain? (m.splitPadded? word.toNat) fun field m => do
      let content ← field.truncate? word.toNat
      some (.done content m)

def readNewId? (m : Message) : Option (Reading NewId) :=
  chain? m.readString? fun interface m => m.readUint?.map (Step.map (NewId.mk interface))

def decodeArg? : ArgType → Message → Option (Reading Arg)
  | .int, m => m.readInt?.map (Step.map .int)
  | .uint, m => m.readUint?.map (Step.map .uint)
  | .fixed, m => m.readFixed?.map (Step.map .fixed)
  | .string, m => m.readString?.map (Step.map .string)
  | .array, m => m.readArray?.map (Step.map .array)
  | .newId, m => m.readNewId?.map (Step.map .newId)
  | .fd, m => some (m.takeFd.map .fd)
  | .sequence element, m =>
    chain? m.readUint? fun count m =>
      (collect? Arg.descriptors (fun _ => decodeArg? element)
        (List.replicate count.toNat ()) m).map (Step.map .sequence)

def decode? : (ty : ArgType) → Message → Option (Reading ty.Carrier)
  | .int, m => m.readInt?
  | .uint, m => m.readUint?
  | .fixed, m => m.readFixed?
  | .string, m => m.readString?
  | .array, m => m.readArray?
  | .newId, m => m.readNewId?
  | .fd, m => some m.takeFd
  | .sequence element, m =>
    chain? m.readUint? fun count m =>
      collect? WireValue.owned (fun _ => decode? element) (List.replicate count.toNat ()) m

def decodeArgs? (sig : Signature) (m : Message) : Option (Reading (List Arg)) :=
  collect? Arg.descriptors decodeArg? sig m

/-- Words were read of the payload. -/
def Advances (m m' : Message) : Prop := ∃ words, m.payload = words ++ m'.payload ∧ 4 ∣ words.length

theorem Advances.refl (m : Message) : m.Advances m := ⟨[], rfl, Nat.dvd_zero 4⟩

theorem Advances.trans {m m₁ m₂ : Message} (h : m.Advances m₁) (h' : m₁.Advances m₂) :
    m.Advances m₂ := by
  obtain ⟨words, hwords, hdvd⟩ := h
  obtain ⟨words', hwords', hdvd'⟩ := h'
  refine ⟨words ++ words', ?_, ?_⟩
  · rw [hwords, hwords', List.append_assoc]
  · rw [List.length_append]
    exact Nat.dvd_add hdvd hdvd'

theorem advances_drop (m : Message) {n : Nat} (hn : n ≤ m.payload.length) (hdvd : 4 ∣ n) :
    m.Advances { m with payload := m.payload.drop n } := by
  refine ⟨m.payload.take n, (List.take_append_drop n m.payload).symm, ?_⟩
  rw [List.length_take_of_le hn]
  exact hdvd

structure Fair (m : Message) (e : CodecError) : Prop where
  fits : ∀ len, e ≠ .lengthOverflow len
  underflow : ∀ index, e = .descriptorUnderflow index → m.queue = [] ∧ m.handedOut = index

/-- The read comes to `step`, whose accesses were in range. -/
structure Reads {α : Type} (m : Message) (attempt : Option (Reading α)) (step : Reading α) :
    Prop where
  in_range : attempt = some step
  advances : m.Advances step.state
  fair : ∀ e, step.result = .error e → step.state.Fair e

namespace Reads

variable {α β : Type} {m : Message} {attempt : Option (Reading α)} {step : Reading α}

theorem of_ok {m₁ : Message} (h : m.Advances m₁) (a : α) (ds : List Descriptor) :
    Reads m (some (⟨.ok a, m₁, ds⟩ : Reading α)) ⟨.ok a, m₁, ds⟩ :=
  ⟨rfl, h, nofun⟩

theorem done (a : α) (m : Message) : Reads m (some (.done a m)) (.done a m) :=
  .of_ok (.refl m) a []

theorem fail {e : CodecError} (m : Message) (h : m.Fair e) :
    Reads m (some (.fail e m : Reading α)) (.fail e m) := by
  refine ⟨rfl, .refl m, ?_⟩
  rintro _ ⟨⟩
  exact h

theorem failed {e : CodecError} {m₁ : Message} {ds : List Descriptor}
    (h : Reads m attempt (⟨.error e, m₁, ds⟩ : Reading α)) (ds' : List Descriptor) :
    Reads m (some (⟨.error e, m₁, ds'⟩ : Reading β)) ⟨.error e, m₁, ds'⟩ := by
  refine ⟨rfl, h.advances, ?_⟩
  rintro _ ⟨⟩
  exact h.fair e rfl

theorem map (f : α → β) (h : Reads m attempt step) :
    Reads m (attempt.map (Step.map f)) (step.map f) := by
  obtain ⟨hrange, hadvances, hfair⟩ := h
  obtain ⟨e | a, m', ds⟩ := step
  · rw [hrange]
    exact failed ⟨rfl, hadvances, hfair⟩ ds
  · rw [hrange]
    exact .of_ok hadvances (f a) ds

theorem after {m₁ : Message} (h : m.Advances m₁) (hreads : Reads m₁ attempt step) :
    Reads m attempt step :=
  ⟨hreads.in_range, h.trans hreads.advances, hreads.fair⟩

theorem chain {next? : α → Message → Option (Reading β)} {next : α → Message → Reading β}
    (h : Reads m attempt step)
    (hnext : ∀ a, step.result = .ok a →
      Reads step.state (next? a step.state) (next a step.state)) :
    Reads m (chain? attempt next?) (Message.chain step next) := by
  rw [h.in_range]
  obtain ⟨e | a, m₁, ds⟩ := step
  · exact .after h.advances (.fail m₁ (h.fair e rfl))
  · exact .after h.advances (hnext a rfl)

/-- With so many bytes there the access is in range, and a read fails just when they are not. -/
theorem ensuring {needed : Nat} {access : Option (Reading α)}
    (hshort : m.payload.length < needed →
      step = .fail (.truncated needed m.payload.length) m)
    (haccess : needed ≤ m.payload.length → Reads m access step) :
    Reads m (ensuring needed m access) step := by
  rcases Nat.lt_or_ge m.payload.length needed with hlen | hlen
  · rw [Message.ensuring, if_pos hlen, hshort hlen]
    exact .fail m ⟨nofun, nofun⟩
  · rw [Message.ensuring, if_neg (Nat.not_lt.mpr hlen)]
    exact haccess hlen

end Reads

theorem reads_readUint (m : Message) : Reads m m.readUint? m.readUint := by
  obtain ⟨header, order, payload, queue, handedOut⟩ := m
  match payload with
  | [] | [_] | [_, _] | [_, _, _] => exact .fail _ ⟨nofun, nofun⟩
  | a :: b :: c :: d :: rest =>
    exact .of_ok ⟨[a, b, c, d], rfl, Nat.dvd_refl 4⟩ _ _

theorem readInt?_eq (m : Message) : m.readInt? = m.readUint?.map (Step.map UInt32.toInt32) := by
  unfold readInt? readUint? ensuring ByteOrder.getInt?
  split
  · rfl
  · cases m.order.getUint? m.payload <;> rfl

theorem reads_readInt (m : Message) : Reads m m.readInt? m.readInt := by
  rw [readInt?_eq]
  exact (reads_readUint m).map _

theorem reads_readFixed (m : Message) : Reads m m.readFixed? m.readFixed := (reads_readInt m).map _

/-- The next field together with its padding. -/
def splitField (m : Message) (len : Nat) : Reading Bytes :=
  let padded := len + Bytes.padding len
  if m.payload.length < padded then .fail (.truncated padded m.payload.length) m
  else .done (m.payload.take padded) { m with payload := m.payload.drop padded }

theorem chain_chain_done {α β γ : Type} (first : Reading α) (f : α → β)
    (next : β → Message → Reading γ) :
    chain (chain first fun a => .done (f a)) next = chain first fun a => next (f a) := by
  rcases first with ⟨e | a, m, ds⟩ <;> rfl

theorem splitPadded_eq (m : Message) (len : Nat) :
    m.splitPadded len = chain (m.splitField len) fun field => .done (field.take len) := by
  unfold splitPadded splitField
  dsimp only
  split
  · rfl
  · simp only [chain, Step.done, List.take_take, Nat.min_eq_left (Nat.le_add_right len _)]

theorem reads_splitField (m : Message) {len : Nat} (hlen : len < 2 ^ 32) :
    Reads m (m.splitPadded? len) (m.splitField len) := by
  have hpadding := Bytes.padding_lt len
  -- a length travels in a word, so no sum of it and its padding is too large for a size
  have hfits : ¬ 2 ^ 64 ≤ len + Bytes.padding len := by omega
  simp only [splitPadded?, if_neg hfits]
  apply Reads.ensuring
  · intro hshort
    exact if_pos hshort
  · intro hlong
    have hlong' : ¬ m.payload.length < len + Bytes.padding len := Nat.not_lt.mpr hlong
    simp only [splitField, Bytes.splitTo?, if_neg hlong']
    apply Reads.after (m.advances_drop hlong (Nat.dvd_of_mod_eq_zero (Bytes.add_padding_mod len)))
    exact .done _ _

theorem truncate?_of_splitField {m : Message} {len keep : Nat} {field : Bytes}
    (h : (m.splitField len).result = .ok field) (hkeep : keep ≤ len) :
    field.truncate? keep = some (field.take keep) := by
  unfold splitField at h
  dsimp only at h
  split at h
  · cases h
  · rename_i hlong
    cases h
    apply if_neg
    rw [List.length_take]
    omega

theorem readArray_eq (m : Message) :
    m.readArray = chain m.readUint fun word m => m.splitPadded word.toNat := by
  unfold readArray chain
  rcases m.readUint with ⟨e | word, m₁, ds⟩ <;> rfl

theorem reads_readArray (m : Message) : Reads m m.readArray? m.readArray := by
  rw [readArray_eq]
  refine (reads_readUint m).chain fun word _ => ?_
  rw [splitPadded_eq]
  refine (reads_splitField _ word.toNat_lt).chain fun field hfield => ?_
  rw [truncate?_of_splitField hfield (Nat.le_refl _)]
  exact .done _ _

/-- What is left to do for a string when its length is read and so many bytes are there. -/
def readText (m : Message) (last : Nat) : Reading String :=
  if m.payload[last]? ≠ some 0 then .fail .malformedString m
  else
    chain (m.splitPadded (last + 1)) fun field m =>
      match Text.ofUtf8? (field.take last) with
      | some text => .done text m
      | none => .fail .invalidUtf8 m

theorem readString_eq (m : Message) :
    m.readString = chain m.readUint fun word m =>
      match word.toNat with
      | 0 => .fail .zeroLengthString m
      | last + 1 =>
        if m.payload.length < last + 1 then .fail (.truncated (last + 1) m.payload.length) m
        else m.readText last := by
  unfold readString
  rcases m.readUint with ⟨e | word, m₁, ds⟩
  · rfl
  dsimp only [chain]
  cases word.toNat with
  | zero => rfl
  | succ last =>
    simp only [if_neg (Nat.succ_ne_zero last), Nat.add_sub_cancel, readText]
    rcases m₁.splitPadded (last + 1) with ⟨e | field, m₂, ds⟩ <;> rfl

theorem reads_readText (m : Message) {last : Nat} (hlast : last + 1 < 2 ^ 32)
    (hlen : last + 1 ≤ m.payload.length) : Reads m (m.readText? last) (m.readText last) := by
  unfold readText? readText
  rw [List.getElem?_eq_getElem hlen]
  by_cases hzero : m.payload[last] = 0
  · rw [if_neg (not_not_intro (congrArg some hzero)), splitPadded_eq, chain_chain_done]
    simp only [hzero]
    refine (reads_splitField m hlast).chain fun field hfield => ?_
    rw [truncate?_of_splitField hfield (Nat.le_succ last), List.take_take,
      Nat.min_eq_left (Nat.le_succ last)]
    dsimp only [Option.bind_eq_bind, Option.bind_some]
    cases Text.ofUtf8? (field.take last) with
    | none => exact .fail _ ⟨nofun, nofun⟩
    | some text => exact .done _ _
  · have hmalformed : some m.payload[last] ≠ some 0 := fun h => hzero (Option.some.inj h)
    dsimp only [Option.bind_eq_bind, Option.bind_some]
    rw [if_pos hmalformed, if_pos hzero]
    exact .fail m ⟨nofun, nofun⟩

theorem reads_readString (m : Message) : Reads m m.readString? m.readString := by
  rw [readString_eq]
  refine (reads_readUint m).chain fun word _ => ?_
  have hword := word.toNat_lt
  generalize m.readUint.state = m₁
  cases hlen : word.toNat with
  | zero => exact .fail _ ⟨nofun, nofun⟩
  | succ last =>
    rw [hlen] at hword
    apply Reads.ensuring
    · intro hshort
      exact if_pos hshort
    · intro hlong
      simp only [if_neg (Nat.not_lt.mpr hlong)]
      exact reads_readText m₁ hword hlong

theorem readNewId_eq (m : Message) :
    m.readNewId = chain m.readString fun interface m => m.readUint.map (NewId.mk interface) := by
  unfold readNewId chain
  rcases m.readString with ⟨e | interface, m₁, ds⟩ <;> rfl

theorem reads_readNewId (m : Message) : Reads m m.readNewId? m.readNewId := by
  rw [readNewId_eq]
  refine (reads_readString m).chain fun interface _ => ?_
  exact (reads_readUint _).map _

theorem reads_takeFd (m : Message) : Reads m (some m.takeFd) m.takeFd := by
  unfold takeFd
  split
  · rename_i hnone
    refine .fail m ⟨nofun, ?_⟩
    rintro _ ⟨⟩
    exact ⟨hnone, rfl⟩
  · apply Reads.of_ok
    exact ⟨[], rfl, Nat.dvd_zero 4⟩

section

variable {α β : Type} {owned : α → List Descriptor}

theorem reads_collect {read? : β → Message → Option (Reading α)} {read : β → Message → Reading α}
    (h : ∀ b m, Reads m (read? b m) (read b m)) (bs : List β) (m : Message) :
    Reads m (collect? owned read? bs m) (Step.collect owned read bs m) := by
  induction bs generalizing m with
  | nil => exact .done [] m
  | cons b bs ih =>
    have hfirst := h b m
    rw [collect?, hfirst.in_range]
    rcases hread : read b m with ⟨e | a, m₁, ds⟩
    · rw [hread] at hfirst
      simp only [Step.collect, hread]
      exact hfirst.failed ds
    · have hrest := ih m₁
      rw [hread] at hfirst
      apply Reads.after hfirst.advances
      dsimp only [Option.bind_some]
      rw [hrest.in_range]
      rcases hreads : Step.collect owned read bs m₁ with ⟨e | as, m₂, ds'⟩
      · rw [hreads] at hrest
        simp only [Step.collect, hread, hreads]
        exact hrest.failed _
      · rw [hreads] at hrest
        simp only [Step.collect, hread, hreads]
        exact .of_ok hrest.advances _ _

end

theorem decodeArg_sequence_eq (element : ArgType) (m : Message) :
    m.decodeArg (.sequence element) = chain m.readUint fun count m =>
      (Step.collect Arg.descriptors (fun _ => decodeArg element)
        (List.replicate count.toNat ()) m).map .sequence := by
  rw [decodeArg]
  rcases m.readUint with ⟨e | count, m₁, ds⟩
  · rfl
  · simp only [readMany_eq_collect, chain]

theorem reads_decodeArg (ty : ArgType) (m : Message) :
    Reads m (decodeArg? ty m) (decodeArg ty m) := by
  induction ty generalizing m with
  | int => exact (reads_readInt m).map _
  | uint => exact (reads_readUint m).map _
  | fixed => exact (reads_readFixed m).map _
  | string => exact (reads_readString m).map _
  | array => exact (reads_readArray m).map _
  | newId => exact (reads_readNewId m).map _
  | fd => exact (reads_takeFd m).map _
  | sequence element ih =>
    rw [decodeArg_sequence_eq]
    refine (reads_readUint m).chain fun count _ => ?_
    exact (reads_collect (fun _ => ih) _ _).map _

theorem reads_decodeArgs (sig : Signature) (m : Message) :
    Reads m (m.decodeArgs? sig) (m.decodeArgs sig) :=
  reads_collect reads_decodeArg sig m

theorem decode_sequence_eq (element : ArgType) (m : Message) :
    m.decode (ArgType.sequence element).Carrier = chain m.readUint fun count m =>
      Step.collect WireValue.owned (fun _ => decode element.Carrier)
        (List.replicate count.toNat ()) m := by
  change WireValue.decodeList m = _
  rw [WireValue.decodeList]
  rcases m.readUint with ⟨e | count, m₁, ds⟩
  · rfl
  · simp only [readMany_eq_collect, chain]
    rfl

theorem reads_decode (ty : ArgType) (m : Message) :
    Reads m (decode? ty m) (m.decode ty.Carrier) := by
  induction ty generalizing m with
  | int => exact reads_readInt m
  | uint => exact reads_readUint m
  | fixed => exact reads_readFixed m
  | string => exact reads_readString m
  | array => exact reads_readArray m
  | newId => exact reads_readNewId m
  | fd => exact reads_takeFd m
  | sequence element ih =>
    rw [decode_sequence_eq]
    refine (reads_readUint m).chain fun count _ => ?_
    exact reads_collect (fun _ => ih) _ _

theorem Spends.total {α : Type} {owned : α → List Descriptor} {m : Message} {step : Reading α}
    (h : Spends owned m step) :
    step.state.handedOut + step.state.queue.length = m.handedOut + m.queue.length := by
  have hgives : ∀ {ds m'}, m.Gives ds m' →
      m'.handedOut + m'.queue.length = m.handedOut + m.queue.length := by
    intro ds m' hgives
    rw [hgives.handedOut_eq, hgives.queue_eq, List.length_append, Nat.add_assoc]
  cases h with
  | done a m' h => exact hgives h
  | failed e m' ds h => exact hgives h

namespace Op

/-- The operation as it is made of accesses. -/
def run? (m : Message) : Op → Option (Reading (List Arg))
  | .readInt => m.readInt?.map (Step.map fun v => [.int v])
  | .readUint => m.readUint?.map (Step.map fun v => [.uint v])
  | .readFixed => m.readFixed?.map (Step.map fun v => [.fixed v])
  | .readString => m.readString?.map (Step.map fun v => [.string v])
  | .readArray => m.readArray?.map (Step.map fun v => [.array v])
  | .takeFd => some (m.takeFd.map fun d => [.fd d])
  | .takeRemainingFds => some (.done (m.takeRemainingFds.1.map .fd) m.takeRemainingFds.2)
  | .decode ty => (decode? ty m).map (Step.map fun v => [WireValue.toArg v])
  | .decodeArg ty => (decodeArg? ty m).map (Step.map fun arg => [arg])
  | .decodeArgs sig => m.decodeArgs? sig

theorem reads_run (m : Message) (op : Op) : Reads m (op.run? m) (op.run m) := by
  cases op with
  | readInt => exact (reads_readInt m).map _
  | readUint => exact (reads_readUint m).map _
  | readFixed => exact (reads_readFixed m).map _
  | readString => exact (reads_readString m).map _
  | readArray => exact (reads_readArray m).map _
  | takeFd => exact (reads_takeFd m).map _
  | takeRemainingFds =>
    apply Reads.of_ok
    exact ⟨[], rfl, Nat.dvd_zero 4⟩
  | decode ty => exact (reads_decode ty m).map _
  | decodeArg ty => exact (reads_decodeArg ty m).map _
  | decodeArgs sig => exact reads_decodeArgs sig m

/-- What the operations come to, one after the other, whether or not they succeed. -/
def trace : List Op → Message → List (Reading (List Arg))
  | [], _ => []
  | op :: ops, m => op.run m :: trace ops (op.run m).state

def trace? : List Op → Message → Option (List (Reading (List Arg)))
  | [], _ => some []
  | op :: ops, m => do
    let step ← op.run? m
    let steps ← trace? ops step.state
    some (step :: steps)

theorem trace?_eq (ops : List Op) (m : Message) : trace? ops m = some (trace ops m) := by
  induction ops generalizing m with
  | nil => rfl
  | cons op ops ih =>
    rw [trace?, (reads_run m op).in_range]
    dsimp only [Option.bind_eq_bind, Option.bind_some]
    rw [ih]
    rfl

structure Keeps (m : Message) (step : Reading (List Arg)) : Prop where
  advances : m.Advances step.state
  total : step.state.handedOut + step.state.queue.length = m.handedOut + m.queue.length
  fair : ∀ e, step.result = .error e → step.state.Fair e

theorem keeps_run (m : Message) (op : Op) : Keeps m (op.run m) where
  advances := (reads_run m op).advances
  total := (spends_run m op).total
  fair := (reads_run m op).fair

theorem Keeps.trans {m : Message} {step step' : Reading (List Arg)} (h : Keeps m step)
    (h' : Keeps step.state step') : Keeps m step' where
  advances := h.advances.trans h'.advances
  total := h'.total.trans h.total
  fair := h'.fair

theorem keeps_of_mem_trace {ops : List Op} {m : Message} {step : Reading (List Arg)}
    (h : step ∈ trace ops m) : Keeps m step := by
  induction ops generalizing m with
  | nil => cases h
  | cons op ops ih =>
    rcases List.mem_cons.mp h with rfl | h
    · exact keeps_run m op
    · exact (keeps_run m op).trans (ih h)

theorem pairwise_trace (ops : List Op) (m : Message) :
    (trace ops m).Pairwise fun step step' => step.state.Advances step'.state := by
  induction ops generalizing m with
  | nil => exact .nil
  | cons op ops ih => exact .cons (fun _ h => (keeps_of_mem_trace h).advances) (ih _)

/-- What a step of a message is like that arrived with `payload` and so many descriptors. -/
structure InBounds (payload : Bytes) (descriptors : Nat) (step : Reading (List Arg)) : Prop where
  suffix : step.state.payload <:+ payload
  words : 4 ∣ payload.length - step.state.payload.length
  total : step.state.handedOut + step.state.queue.length = descriptors
  fits : ∀ len, step.result ≠ .error (.lengthOverflow len)
  underflow : ∀ index, step.result = .error (.descriptorUnderflow index) → index = descriptors

theorem Keeps.inBounds {header : Header} {payload : Bytes} {queue : List Descriptor}
    {order : ByteOrder} {step : Reading (List Arg)}
    (h : Keeps (framed header payload queue order) step) :
    InBounds payload queue.length step := by
  have htotal : step.state.handedOut + step.state.queue.length = queue.length :=
    h.total.trans (Nat.zero_add _)
  obtain ⟨words, hwords, hdvd⟩ := h.advances
  have hpayload : payload = words ++ step.state.payload := hwords
  refine ⟨⟨words, hpayload.symm⟩, ?_, htotal, fun len he => (h.fair _ he).fits len rfl, ?_⟩
  · rw [hpayload, List.length_append, Nat.add_sub_cancel]
    exact hdvd
  · intro index he
    obtain ⟨hnone, hindex⟩ := (h.fair _ he).underflow index rfl
    rw [hnone, hindex] at htotal
    exact htotal

/-- Whatever is read of a message, in whatever order and however it ends: no access is out of
range, the payload is consumed word by word, and no descriptor is lost count of. -/
theorem trace_framed (header : Header) (payload : Bytes) (queue : List Descriptor)
    (order : ByteOrder) (ops : List Op) :
    let arrived := framed header payload queue order
    trace? ops arrived = some (trace ops arrived) ∧
    ((trace ops arrived).map fun step => payload.length - step.state.payload.length).Pairwise
      (· ≤ ·) ∧
    ∀ step ∈ trace ops arrived, InBounds payload queue.length step := by
  intro arrived
  refine ⟨trace?_eq ops arrived, ?_, fun step hstep => (keeps_of_mem_trace hstep).inBounds⟩
  rw [List.pairwise_map]
  refine (pairwise_trace ops arrived).imp ?_
  rintro step step' ⟨words, hwords, -⟩
  have hlength := congrArg List.length hwords
  rw [List.length_append] at hlength
  omega

/-- A string that is cut off stops the message amid its field, after the length. -/
example :
    (trace [.readString, .takeFd, .takeFd, .readUint]
      (framed ⟨1, 2, 18⟩ [9, 0, 0, 0, 104, 105, 0, 0, 7, 7] [⟨3⟩] .little)).map
        (fun step => (step.state.payload, step.state.handedOut, step.state.queue)) =
      [([104, 105, 0, 0, 7, 7], 0, [⟨3⟩]), ([104, 105, 0, 0, 7, 7], 1, []),
        ([104, 105, 0, 0, 7, 7], 1, []), ([7, 7], 1, [])] := by
  cbv

end Op

end Message

end FramedWire
