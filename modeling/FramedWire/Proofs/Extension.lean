import FramedWire.Proofs.Bounds

/-!
# Messages that go on

What is decoded of a message does not change when the message turns out to go on behind its end,
with more payload and more descriptors. A read that succeeds succeeds all the same and leaves the
additions untouched, and a read that is refused stays refused. The two errors that say that
something is missing are the only ones that further data can cure.

Each check of a read looks at bytes that are known to be there, and this is why it does not
matter what comes after them. `Message.Outlasts` compares the two reads step by step.
-/
namespace FramedWire

/-- The error says that something is missing, which may still come. -/
inductive CodecError.Curable : CodecError → Prop
  | truncated (needed remaining : Nat) : Curable (.truncated needed remaining)
  | descriptorUnderflow (index : Nat) : Curable (.descriptorUnderflow index)

namespace Message

/-- `m'` begins with all that `m` holds and goes on with `bytes` and `fds`. The headers and what
was handed out before may differ. -/
structure Extends (bytes : Bytes) (fds : List Descriptor) (m m' : Message) : Prop where
  order_eq : m'.order = m.order
  payload_eq : m'.payload = m.payload ++ bytes
  queue_eq : m'.queue = m.queue ++ fds

/-- Of two reads the second has more to read, and comes to the same unless the first one wants
for something. -/
inductive Outlasts {α : Type} (bytes : Bytes) (fds : List Descriptor) :
    Reading α → Reading α → Prop
  | done (a : α) {m m' : Message} (closed : List Descriptor) : m.Extends bytes fds m' →
      Outlasts bytes fds ⟨.ok a, m, closed⟩ ⟨.ok a, m', closed⟩
  | refused {e : CodecError} {m m' : Message} (closed : List Descriptor) : ¬ e.Curable →
      m.Extends bytes fds m' →
      Outlasts bytes fds ⟨.error e, m, closed⟩ ⟨.error e, m', closed⟩
  | wanting {e : CodecError} {m : Message} {closed : List Descriptor} (step' : Reading α) :
      e.Curable → Outlasts bytes fds ⟨.error e, m, closed⟩ step'

section

variable {α β : Type} {bytes : Bytes} {fds : List Descriptor} {m m' : Message}

namespace Outlasts

variable {step step' : Reading α}

theorem truncated (needed : Nat) (m : Message) (step' : Reading α) :
    Outlasts bytes fds (.fail (.truncated needed m.payload.length) m) step' :=
  .wanting step' (.truncated needed m.payload.length)

theorem map (f : α → β) (h : Outlasts bytes fds step step') :
    Outlasts bytes fds (step.map f) (step'.map f) := by
  cases h with
  | done a closed h => exact .done (f a) closed h
  | refused closed hdefinite h => exact .refused closed hdefinite h
  | wanting step' hcurable => exact .wanting _ hcurable

theorem chain {next : α → Message → Reading β} (h : Outlasts bytes fds step step')
    (hnext : ∀ a m m', m.Extends bytes fds m' → Outlasts bytes fds (next a m) (next a m')) :
    Outlasts bytes fds (Message.chain step next) (Message.chain step' next) := by
  cases h with
  | done a closed h => exact hnext a _ _ h
  | refused closed hdefinite h => exact .refused [] hdefinite h
  | wanting step' hcurable => exact .wanting _ hcurable

end Outlasts

section

variable (h : m.Extends bytes fds m')

include h

theorem outlasts_readUint : Outlasts bytes fds m.readUint m'.readUint := by
  have hpayload := h.payload_eq
  unfold readUint
  match hm : m.payload with
  | [] | [_] | [_, _] | [_, _, _] => exact .wanting _ (.truncated 4 _)
  | a :: b :: c :: d :: rest =>
    rw [hm] at hpayload
    rw [hpayload, h.order_eq]
    exact .done _ [] ⟨rfl, rfl, h.queue_eq⟩

theorem outlasts_readInt : Outlasts bytes fds m.readInt m'.readInt := (outlasts_readUint h).map _

theorem outlasts_readFixed : Outlasts bytes fds m.readFixed m'.readFixed :=
  (outlasts_readInt h).map _

theorem outlasts_splitPadded (len : Nat) :
    Outlasts bytes fds (m.splitPadded len) (m'.splitPadded len) := by
  unfold splitPadded
  dsimp only
  rcases Nat.lt_or_ge m.payload.length (len + Bytes.padding len) with hshort | hlong
  · rw [if_pos hshort]
    exact .truncated _ m _
  · have hlong' : len + Bytes.padding len ≤ m'.payload.length := by
      rw [h.payload_eq, List.length_append]
      omega
    have htake : m'.payload.take len = m.payload.take len := by
      rw [h.payload_eq]
      exact List.take_append_of_le_length (by omega)
    have hdrop : m'.payload.drop (len + Bytes.padding len) =
        m.payload.drop (len + Bytes.padding len) ++ bytes := by
      rw [h.payload_eq]
      exact List.drop_append_of_le_length hlong
    rw [if_neg (Nat.not_lt.mpr hlong), if_neg (Nat.not_lt.mpr hlong'), htake]
    exact .done _ [] ⟨h.order_eq, hdrop, h.queue_eq⟩

theorem outlasts_readArray : Outlasts bytes fds m.readArray m'.readArray := by
  rw [readArray_eq, readArray_eq]
  apply (outlasts_readUint h).chain
  intro word m m' h
  exact outlasts_splitPadded h word.toNat

/-- The terminator is there before it is looked at, and the text before it is judged. -/
theorem outlasts_readText {last : Nat} (hlen : last < m.payload.length) :
    Outlasts bytes fds (m.readText last) (m'.readText last) := by
  have hlast : m'.payload[last]? = m.payload[last]? := by
    rw [h.payload_eq]
    exact List.getElem?_append_left hlen
  unfold readText
  rw [hlast]
  split
  · exact .refused [] nofun h
  · apply (outlasts_splitPadded h (last + 1)).chain
    intro field m m' h
    split
    · exact .done _ [] h
    · exact .refused [] nofun h

theorem outlasts_readString : Outlasts bytes fds m.readString m'.readString := by
  rw [readString_eq, readString_eq]
  apply (outlasts_readUint h).chain
  intro word m m' h
  cases word.toNat with
  | zero => exact .refused [] nofun h
  | succ last =>
    dsimp only
    rcases Nat.lt_or_ge m.payload.length (last + 1) with hshort | hlong
    · rw [if_pos hshort]
      exact .truncated _ m _
    · have hlong' : last + 1 ≤ m'.payload.length := by
        rw [h.payload_eq, List.length_append]
        omega
      rw [if_neg (Nat.not_lt.mpr hlong), if_neg (Nat.not_lt.mpr hlong')]
      exact outlasts_readText h hlong

theorem outlasts_readNewId : Outlasts bytes fds m.readNewId m'.readNewId := by
  rw [readNewId_eq, readNewId_eq]
  apply (outlasts_readString h).chain
  intro interface m m' h
  exact (outlasts_readUint h).map _

theorem outlasts_takeFd : Outlasts bytes fds m.takeFd m'.takeFd := by
  have hqueue := h.queue_eq
  unfold takeFd
  cases hm : m.queue with
  | nil => exact .wanting _ (.descriptorUnderflow m.handedOut)
  | cons d queue =>
    rw [hm] at hqueue
    rw [hqueue]
    exact .done d [] ⟨h.order_eq, h.payload_eq, rfl⟩

end

/-- Values that are made one after the other: the first of them that is refused ends both reads,
with the same values released. -/
theorem outlasts_collect {owned : α → List Descriptor} {read : β → Message → Reading α}
    (hread : ∀ b m m', m.Extends bytes fds m' → Outlasts bytes fds (read b m) (read b m'))
    (bs : List β) (h : m.Extends bytes fds m') :
    Outlasts bytes fds (Step.collect owned read bs m) (Step.collect owned read bs m') := by
  induction bs generalizing m m' with
  | nil => exact .done [] [] h
  | cons b bs ih =>
    have hfirst := hread b m m' h
    unfold Step.collect
    generalize read b m = first at hfirst ⊢
    generalize read b m' = first' at hfirst ⊢
    cases hfirst with
    | refused closed hdefinite h => exact .refused closed hdefinite h
    | wanting first' hcurable => exact .wanting _ hcurable
    | done a closed h =>
      have hrest := ih h
      dsimp only
      generalize Step.collect owned read bs _ = rest at hrest ⊢
      generalize Step.collect owned read bs _ = rest' at hrest ⊢
      cases hrest with
      | done as closed' h => exact .done (a :: as) _ h
      | refused closed' hdefinite h => exact .refused _ hdefinite h
      | wanting rest' hcurable => exact .wanting _ hcurable

theorem outlasts_decodeArg (ty : ArgType) (h : m.Extends bytes fds m') :
    Outlasts bytes fds (m.decodeArg ty) (m'.decodeArg ty) := by
  induction ty generalizing m m' with
  | int => exact (outlasts_readInt h).map _
  | uint => exact (outlasts_readUint h).map _
  | fixed => exact (outlasts_readFixed h).map _
  | string => exact (outlasts_readString h).map _
  | array => exact (outlasts_readArray h).map _
  | newId => exact (outlasts_readNewId h).map _
  | fd => exact (outlasts_takeFd h).map _
  | sequence element ih =>
    rw [decodeArg_sequence_eq, decodeArg_sequence_eq]
    apply (outlasts_readUint h).chain
    intro count m m' h
    exact (outlasts_collect (fun _ m m' h => ih h) _ h).map _

theorem outlasts_decodeArgs (sig : Signature) (h : m.Extends bytes fds m') :
    Outlasts bytes fds (m.decodeArgs sig) (m'.decodeArgs sig) :=
  outlasts_collect (fun ty _ _ h => outlasts_decodeArg ty h) sig h

end

/-- What can be decoded of a message can be decoded of every message that goes on behind it, with
the same arguments, and what goes on is left for later. Of the errors only those that say that
something is missing are cured by it; any other one is met again, when the same has been read. -/
theorem decodeArgs_of_extended (sig : Signature) (m : Message) (header : Header) (handedOut : Nat)
    (bytes : Bytes) (fds : List Descriptor) :
    let m' : Message :=
      { header, order := m.order, payload := m.payload ++ bytes, queue := m.queue ++ fds
        handedOut }
    let read := m.decodeArgs sig
    let read' := m'.decodeArgs sig
    (∀ args, read.result = .ok args → read'.result = .ok args ∧
      read'.state.payload = read.state.payload ++ bytes ∧
      read'.state.queue = read.state.queue ++ fds) ∧
    (∀ e, read.result = .error e → ¬ e.Curable → read'.result = .error e ∧
      read'.state.payload = read.state.payload ++ bytes ∧
      read'.state.queue = read.state.queue ++ fds ∧ read'.closed = read.closed) ∧
    ∀ e args, read.result = .error e → read'.result = .ok args → e.Curable := by
  intro m' read read'
  have houtlasts : Outlasts bytes fds read read' := outlasts_decodeArgs sig ⟨rfl, rfl, rfl⟩
  generalize read = first at houtlasts ⊢
  generalize read' = second at houtlasts ⊢
  cases houtlasts with
  | done args closed h =>
    refine ⟨?_, nofun, nofun⟩
    intro args' hargs
    exact ⟨hargs, h.payload_eq, h.queue_eq⟩
  | refused closed hdefinite h =>
    refine ⟨nofun, ?_, ?_⟩
    · intro e he _
      exact ⟨he, h.payload_eq, h.queue_eq, rfl⟩
    · intro e args _ hok
      cases hok
  | wanting second hcurable =>
    refine ⟨nofun, ?_, ?_⟩
    · intro e he hdefinite
      cases he
      exact absurd hcurable hdefinite
    · intro e args he _
      cases he
      exact hcurable

/-- An array whose padding has not arrived, and then it has; a string without its terminator, of
which nothing that follows makes a string. -/
example :
    ((framed ⟨1, 2, 14⟩ [1, 0, 0, 0, 104, 0] [] .little).decodeArgs [.array]).result =
        .error (.truncated 4 2) ∧
      ((framed ⟨1, 2, 16⟩ [1, 0, 0, 0, 104, 0, 7, 7] [] .little).decodeArgs [.array]).result =
        .ok [.array [104]] ∧
      ((framed ⟨1, 2, 14⟩ [1, 0, 0, 0, 104, 0] [] .little).decodeArgs [.string]).result =
        .error .malformedString := by
  cbv

end Message

end FramedWire
