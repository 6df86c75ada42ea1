/-!
# Argument types

The closed set of types that an argument can have, each with a one-letter code; a
sequence is written as its element type in brackets.
-/
namespace FramedWire

inductive ArgType where
  | int | uint | fixed | string | array
  /-- The name and version of an interface, for an object that is new. -/
  | newId
  | fd
  | sequence (element : ArgType)
  deriving DecidableEq, Repr, Inhabited

namespace ArgType

/-- Sequences have no code of their own. -/
def code? : ArgType → Option Char
  | .int => some 'i'
  | .uint => some 'u'
  | .fixed => some 'f'
  | .string => some 's'
  | .array => some 'a'
  | .newId => some 'n'
  | .fd => some 'h'
  | .sequence _ => none

def ofCode? : Char → Option ArgType
  | 'i' => some .int
  | 'u' => some .uint
  | 'f' => some .fixed
  | 's' => some .string
  | 'a' => some .array
  | 'n' => some .newId
  | 'h' => some .fd
  | _ => none

def chars : ArgType → List Char
  | .sequence element => '[' :: element.chars ++ [']']
  | ty => ty.code?.toList

def text (ty : ArgType) : String := String.ofList ty.chars

theorem ofCode?_eq_some_iff {c : Char} {ty : ArgType} :
    ofCode? c = some ty ↔ ty.code? = some c := by
  constructor
  · intro h
    unfold ofCode? at h
    split at h <;> first | (cases h; rfl) | cases h
  · intro h
    cases ty <;> simp only [code?, Option.some.injEq, reduceCtorEq] at h <;> subst h <;> rfl

end ArgType

end FramedWire
