import FramedWire.ArgType
import FramedWire.Text.Characters

/-!
# Signatures

The types of a message's arguments, written one after the other. Reading a signature
reports the first place that cannot belong to any signature, counted in characters.
-/
namespace FramedWire

abbrev Signature := List ArgType

inductive SignatureError where
  | unknownType (ch : Char) (position : Nat)
  /-- A bracket without its partner, or an element that is not followed by one. -/
  | unbalanced (position : Nat)
  | emptySequence (position : Nat)
  deriving DecidableEq, Repr

namespace SignatureError

def message : SignatureError → String
  | .unknownType ch position =>
    "unknown argument type " ++ Text.quotedChar ch ++ s!" at position {position}"
  | .unbalanced position => s!"unbalanced sequence bracket at position {position}"
  | .emptySequence position => s!"sequence without element type at position {position}"

end SignatureError

namespace Signature

def chars (sig : Signature) : List Char := sig.flatMap ArgType.chars

def text (sig : Signature) : String := String.ofList sig.chars

/-- How many arguments are descriptors; those inside sequences are not counted. -/
def fdCount (sig : Signature) : Nat := sig.countP (· = .fd)

/-- The first type in `cs`, whose first character stands at `position`, and the rest. -/
def parseType (position : Nat) : List Char → Except SignatureError (ArgType × List Char)
  | [] => .error (.unbalanced position)
  | '[' :: [] => .error (.unbalanced position)
  | '[' :: ']' :: _ => .error (.emptySequence position)
  | '[' :: c :: cs => do
    let (element, rest) ← parseType (position + 1) (c :: cs)
    match rest with
    | ']' :: rest => return (.sequence element, rest)
    | _ => throw (.unbalanced position)
  | ']' :: _ => .error (.unbalanced position)
  | c :: cs =>
    match ArgType.ofCode? c with
    | some ty => .ok (ty, cs)
    | none => .error (.unknownType c position)

theorem length_lt_of_parseType {position : Nat} {cs rest : List Char} {ty : ArgType}
    (h : parseType position cs = .ok (ty, rest)) : rest.length < cs.length := by
  fun_induction parseType position cs generalizing ty rest with
  | case1 => cases h
  | case2 => cases h
  | case3 => cases h
  | case4 position c cs _ ih =>
    simp only [bind, Except.bind, pure, Except.pure, throw, throwThe, MonadExceptOf.throw] at h
    split at h
    · cases h
    · rename_i heq
      have := ih heq
      split at h
      · cases h
        rename_i hrest
        simp only [hrest, List.length_cons] at this ⊢
        omega
      · cases h
  | case5 => cases h
  | case6 => cases h; simp
  | case7 => cases h

/-- The types in `cs`, whose first character stands at `position`. -/
def parseFrom (position : Nat) (cs : List Char) : Except SignatureError Signature :=
  if cs.isEmpty then .ok []
  else
    match h : parseType position cs with
    | .error e => .error e
    | .ok (ty, rest) =>
      have := length_lt_of_parseType h
      (parseFrom (position + (cs.length - rest.length)) rest).map (ty :: ·)
termination_by cs.length

def parse (text : String) : Except SignatureError Signature := parseFrom 0 text.toList

end Signature

end FramedWire
