import FramedWire.Source

/-!
# Scripted sources

A source that follows a script: a list of items, each with the bytes it delivers, control
bytes that come with its first receive, and perhaps a failure that takes the place of the
bytes. It stands for everything a stream may do over a finite time.
-/
namespace FramedWire

structure ScriptItem where
  data : Bytes
  control : Bytes := []
  failure? : Option TransportError := none

/-- How a script goes on for ever once its items are used up: with the end of the stream,
or with a failure that is not cured by receiving again. -/
abbrev ScriptEnd := Option { e : TransportError // e.toIo.isInterruption = false }

structure Script where
  items : List ScriptItem
  ending : ScriptEnd := none
  /-- No receive delivers more than this. -/
  maxChunk? : Option Nat := none
  /-- The room for descriptors of each receive so far, the latest first. -/
  roomsSeen : List Nat := []

namespace Script

/-- How many bytes of the script are not delivered yet. -/
def undelivered (s : Script) : Nat := (s.items.flatMap (·.data)).length

/-- A receive with room for `maxFds` descriptors was made. -/
def seen (s : Script) (maxFds : Nat) : Script := { s with roomsSeen := maxFds :: s.roomsSeen }

/-- What the script delivers once its items are used up. -/
def endOutcome (s : Script) : Except TransportError Bytes :=
  match s.ending with
  | none => .ok []
  | some e => .error e.val

/-- How many bytes of `item` one receive delivers. -/
def portion (s : Script) (item : ScriptItem) (room : Nat) : Nat :=
  min item.data.length (min room (s.maxChunk?.getD room))

/-- What stays of an item whose first `n` bytes were delivered: nothing, if those were all. -/
def remainder (item : ScriptItem) (n : Nat) : List ScriptItem :=
  if item.data.drop n = [] then [] else [{ item with data := item.data.drop n, control := [] }]

def receive (s : Script) (room maxFds : Nat) : Receipt Script :=
  match s.items with
  | [] => ⟨s.seen maxFds, [], s.endOutcome⟩
  | item :: items =>
    match item.failure? with
    | some e => ⟨{ s.seen maxFds with items := items }, item.control, .error e⟩
    | none =>
      let n := s.portion item room
      ⟨{ s.seen maxFds with items := remainder item n ++ items }, item.control,
        .ok (item.data.take n)⟩

def source : Source Script where
  receive := receive
  patience s := s.items.length
  length_le s room maxFds bytes h := by
    unfold receive endOutcome at h
    split at h
    · split at h <;> cases h
      simp
    · split at h <;> cases h
      simp only [List.length_take, portion]
      omega
  patience_lt s room maxFds h := by
    unfold receive at h ⊢
    split
    · rename_i hitems
      simp only [hitems, endOutcome] at h
      split at h
      · exact h.elim
      · rename_i e _
        exact absurd h (by simp [Receipt.Interrupted, e.property])
    · rename_i item items hitems
      simp only [hitems] at h ⊢
      split
      · simp
      · rename_i hfail
        simp only [hfail] at h
        exact h.elim

end Script

end FramedWire
