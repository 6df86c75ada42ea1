import FramedWire.ArgType
import FramedWire.Descriptor
import FramedWire.Fixed

/-!
# Arguments

A decoded argument, or one that waits to be encoded. An argument owns the descriptors in
it; `Arg.descriptors` lists them from left to right.
-/
namespace FramedWire

/-- The interface and version of an object that is new. -/
structure NewId where
  interface : String
  version : UInt32
  deriving DecidableEq, Repr

inductive Arg where
  | int (value : Int32)
  | uint (value : UInt32)
  | fixed (value : Fixed)
  | string (value : String)
  | array (value : Bytes)
  | newId (value : NewId)
  | fd (value : Descriptor)
  | sequence (items : List Arg)
  deriving Repr, Inhabited

namespace Arg

/-- The name of an argument's kind, for messages. -/
def kindName : Arg → String
  | .int _ => "int"
  | .uint _ => "uint"
  | .fixed _ => "fixed"
  | .string _ => "string"
  | .array _ => "array"
  | .newId _ => "new_id"
  | .fd _ => "fd"
  | .sequence _ => "sequence"

mutual

/-- Equality; descriptors are equal if they are the same. -/
def beq : Arg → Arg → Bool
  | .int a, .int b => a == b
  | .uint a, .uint b => a == b
  | .fixed a, .fixed b => a == b
  | .string a, .string b => a == b
  | .array a, .array b => a == b
  | .newId a, .newId b => a == b
  | .fd a, .fd b => a == b
  | .sequence as, .sequence bs => beqAll as bs
  | _, _ => false

def beqAll : List Arg → List Arg → Bool
  | [], [] => true
  | a :: as, b :: bs => beq a b && beqAll as bs
  | _, _ => false

end

instance : BEq Arg := ⟨beq⟩

mutual

/-- The descriptors an argument owns, from left to right. -/
def descriptors : Arg → List Descriptor
  | .fd d => [d]
  | .sequence items => descriptorsAll items
  | _ => []

def descriptorsAll : List Arg → List Descriptor
  | [] => []
  | item :: items => item.descriptors ++ descriptorsAll items

end

mutual

/-- Whether an argument can be encoded as `ty`. An empty sequence conforms to every
sequence type. -/
def conformsTo : Arg → ArgType → Bool
  | .int _, .int => true
  | .uint _, .uint => true
  | .fixed _, .fixed => true
  | .string _, .string => true
  | .array _, .array => true
  | .newId _, .newId => true
  | .fd _, .fd => true
  | .sequence items, .sequence element => allConformTo items element
  | _, _ => false

def allConformTo : List Arg → ArgType → Bool
  | [], _ => true
  | item :: items, ty => item.conformsTo ty && allConformTo items ty

end

theorem descriptorsAll_eq_flatMap (items : List Arg) :
    descriptorsAll items = items.flatMap descriptors := by
  induction items with
  | nil => rfl
  | cons item items ih => simp [descriptorsAll, ih]

theorem allConformTo_eq_all (items : List Arg) (ty : ArgType) :
    allConformTo items ty = items.all (·.conformsTo ty) := by
  induction items with
  | nil => rfl
  | cons item items ih => simp [allConformTo, ih]

end Arg

end FramedWire
