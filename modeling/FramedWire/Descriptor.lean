import FramedWire.Bytes

/-!
# Descriptors and their owners

A descriptor is an open file named by a small number. It has one owner at a time:
whoever holds the value. What an operation closes is part of its outcome, so the
books can be kept: every descriptor that goes in is handed out, kept or closed.
-/
namespace FramedWire

structure Descriptor where
  number : Int32
  deriving DecidableEq, Repr, Inhabited

namespace Descriptor

/-- The four bytes that name a descriptor in control data. -/
def encode (d : Descriptor) : Bytes := Bytes.ofNat 4 d.number.toUInt32.toNat

/-- The descriptor that four bytes of control data name. -/
def decode (bs : Bytes) : Descriptor := ⟨(UInt32.ofNat (Bytes.toNat bs)).toInt32⟩

@[simp] theorem length_encode (d : Descriptor) : d.encode.length = 4 := by simp [encode]

@[simp] theorem decode_encode (d : Descriptor) : decode d.encode = d := by
  simp [encode, decode, Bytes.toNat_ofNat_word]

end Descriptor

/-- The outcome of an operation on a state `σ`: it may fail, it leaves a state either
way, and it may have closed descriptors. -/
structure Step (σ ε α : Type) where
  result : Except ε α
  state : σ
  closed : List Descriptor := []

/-- The outcome of an operation that uses up what it works on. -/
structure Ended (ε α : Type) where
  result : Except ε α
  closed : List Descriptor := []

namespace Step

variable {σ ε α β : Type}

def done (a : α) (s : σ) : Step σ ε α := { result := .ok a, state := s }

def fail (e : ε) (s : σ) : Step σ ε α := { result := .error e, state := s }

/-- Change the value of a step that succeeded. -/
def map (f : α → β) (step : Step σ ε α) : Step σ ε β :=
  { result := step.result.map f, state := step.state, closed := step.closed }

/-- Add descriptors closed before this step. -/
def closing (ds : List Descriptor) (step : Step σ ε α) : Step σ ε α :=
  { step with closed := ds ++ step.closed }

/-- Run `f` on one item after the other. If one fails, the values made so far are released
with the descriptors they own. -/
def collect (owned : α → List Descriptor) (f : β → σ → Step σ ε α) :
    List β → σ → Step σ ε (List α)
  | [], s => done [] s
  | b :: bs, s =>
    match f b s with
    | { result := .error e, state := s, closed := ds } =>
      { result := .error e, state := s, closed := ds }
    | { result := .ok a, state := s, closed := ds } =>
      match collect owned f bs s with
      | { result := .error e, state := s, closed := ds' } =>
        { result := .error e, state := s, closed := ds ++ owned a ++ ds' }
      | { result := .ok as, state := s, closed := ds' } =>
        { result := .ok (a :: as), state := s, closed := ds ++ ds' }

@[simp] theorem result_done (a : α) (s : σ) : (done a s : Step σ ε α).result = .ok a := rfl
@[simp] theorem state_done (a : α) (s : σ) : (done a s : Step σ ε α).state = s := rfl
@[simp] theorem result_fail (e : ε) (s : σ) : (fail e s : Step σ ε α).result = .error e := rfl
@[simp] theorem state_fail (e : ε) (s : σ) : (fail e s : Step σ ε α).state = s := rfl

end Step

end FramedWire
