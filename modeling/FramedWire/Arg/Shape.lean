import FramedWire.Arg
import FramedWire.CodecError

/-!
# The shape of an argument

What an argument says about its own type. Only an empty sequence leaves its element
open, and an open element goes with anything. The items of a sequence are merged one
after the other; two that do not go together are a clash.
-/
namespace FramedWire

inductive Shape where
  | scalar (kind : String)
  | openSequence
  | sequence (element : Shape)
  deriving DecidableEq, Repr

namespace Shape

def chars : Shape → List Char
  | .scalar kind => kind.toList
  | .openSequence => ['[', ']']
  | .sequence element => '[' :: element.chars ++ [']']

def text (s : Shape) : String := String.ofList s.chars

/-- What two shapes say together, unless they contradict each other. -/
def merge? : Shape → Shape → Option Shape
  | .scalar a, .scalar b => if a = b then some (.scalar a) else none
  | .openSequence, .openSequence => some .openSequence
  | .openSequence, .sequence b => some (.sequence b)
  | .sequence a, .openSequence => some (.sequence a)
  | .sequence a, .sequence b => (merge? a b).map .sequence
  | _, _ => none

/-- The sequence whose items say `known` together. -/
def ofElement : Option Shape → Shape
  | none => .openSequence
  | some element => .sequence element

end Shape

/-- The value `found` was given where `expected` was declared. -/
def CodecError.contract (expected : String) (found : Arg) : CodecError :=
  .typeContract expected found.kindName

namespace Arg

mutual

/-- The shape of an argument, or the first clash in it. -/
def shape : Arg → Except CodecError Shape
  | .sequence items => (mergeShapes none items).map Shape.ofElement
  | arg => .ok (.scalar arg.kindName)

/-- What the items say together with those before them, which say `known`. -/
def mergeShapes (known : Option Shape) : List Arg → Except CodecError (Option Shape)
  | [] => .ok known
  | item :: items =>
    match item.shape with
    | .error e => .error e
    | .ok s =>
      match known with
      | none => mergeShapes (some s) items
      | some k =>
        match k.merge? s with
        | some merged => mergeShapes (some merged) items
        | none => .error (.contract k.text item)

end

end Arg

end FramedWire
