import FramedWire.Number.Binary64

/-!
# Number literals

Numbers as people type them: whole numbers with an optional sign, and decimals with an
optional point and exponent, or the names of the values that are no ordinary numbers.
Whole numbers are read from left to right, and the first character that spoils the number
decides which error it is.
-/
namespace FramedWire

inductive LiteralError where
  | emptyInteger | invalidDigit | tooLarge | tooSmall | emptyReal | invalidReal
  deriving DecidableEq, Repr

def LiteralError.message : LiteralError → String
  | .emptyInteger => "cannot parse integer from empty string"
  | .invalidDigit => "invalid digit found in string"
  | .tooLarge => "number too large to fit in target type"
  | .tooSmall => "number too small to fit in target type"
  | .emptyReal => "cannot parse float from empty string"
  | .invalidReal => "invalid float literal"

namespace Literal

def digit? (c : Char) : Option Nat := if c.isDigit then some (c.toNat - 48) else none

/-- Add digits to `value`, which must not exceed `bound`. -/
def magnitude (bound : Nat) (overflow : LiteralError) (value : Nat) :
    List Char → Except LiteralError Nat
  | [] => .ok value
  | c :: cs =>
    match digit? c with
    | none => .error .invalidDigit
    | some d =>
      let next := value * 10 + d
      if bound < next then .error overflow else magnitude bound overflow next cs

/-- A whole number from `-low` to `high`. A minus is a sign only where negative numbers
are allowed. -/
def parseInt (low high : Nat) (cs : List Char) : Except LiteralError Int :=
  match cs with
  | [] => .error .emptyInteger
  | ['+'] | ['-'] => .error .invalidDigit
  | '+' :: ds => (magnitude high .tooLarge 0 ds).map Int.ofNat
  | '-' :: ds =>
    if low = 0 then .error .invalidDigit
    else (magnitude low .tooSmall 0 ds).map fun (n : Nat) => -(n : Int)
  | ds => (magnitude high .tooLarge 0 ds).map Int.ofNat

def parseInt32 (text : String) : Except LiteralError Int32 :=
  (parseInt Int32.minValue.toInt.natAbs Int32.maxValue.toInt.natAbs text.toList).map Int32.ofInt

/-- One of the first `size` numbers. -/
def parseUInt (size : Nat) (text : String) : Except LiteralError Nat :=
  (parseInt 0 (size - 1) text.toList).map Int.toNat

def parseUInt32 (text : String) : Except LiteralError UInt32 :=
  (parseUInt UInt32.size text).map UInt32.ofNat

/-- The number that decimal digits denote. -/
def ofDigits (cs : List Char) : Nat := cs.foldl (fun n c => n * 10 + (c.toNat - 48)) 0

/-- The exponent behind a mantissa, if there is one and nothing else. -/
def exponent? (cs : List Char) : Option Int :=
  match cs with
  | [] => some 0
  | e :: cs =>
    if e ≠ 'e' ∧ e ≠ 'E' then none
    else
      let (negative, ds) : Bool × List Char :=
        match cs with
        | '+' :: ds => (false, ds)
        | '-' :: ds => (true, ds)
        | ds => (false, ds)
      if ds.isEmpty || !ds.all Char.isDigit then none
      else some (if negative then -(ofDigits ds : Int) else ofDigits ds)

/-- Digits with an optional point and exponent; at least one digit stands before the
exponent. -/
def decimal? (negative : Bool) (cs : List Char) : Option Binary64 :=
  let whole := cs.takeWhile Char.isDigit
  let rest := cs.dropWhile Char.isDigit
  let (fraction, rest) : List Char × List Char :=
    match rest with
    | '.' :: rest => (rest.takeWhile Char.isDigit, rest.dropWhile Char.isDigit)
    | rest => ([], rest)
  let digits := whole ++ fraction
  if digits.isEmpty then none
  else (exponent? rest).map fun e => .ofDecimal negative (ofDigits digits) (e - fraction.length)

/-- The names of what is no finite number, in any case. -/
def special? (negative : Bool) (cs : List Char) : Option Binary64 :=
  let name := String.ofList (cs.map Char.toLower)
  if name = "inf" ∨ name = "infinity" then some (.infinity negative)
  else if name = "nan" then some .nan
  else none

def parseReal (text : String) : Except LiteralError Binary64 :=
  match text.toList with
  | [] => .error .emptyReal
  | c :: cs =>
    let negative := c = '-'
    let body := if c = '-' ∨ c = '+' then cs else c :: cs
    match decimal? negative body <|> special? negative body with
    | some x => .ok x
    | none => .error .invalidReal

end Literal

end FramedWire
