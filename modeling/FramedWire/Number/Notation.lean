import FramedWire.Number.Shortest

/-!
# How numbers are written

A decimal has a sign, digits and the place of its point. A `NumberStyle` says which
magnitudes are written out with their point in place and how the others show their
exponent.
-/
namespace FramedWire

structure NumberStyle where
  /-- The farthest place of the point, counted from the first digit, at which a number is
  written out; farther out it gets an exponent. -/
  maxPlace : Option Int
  /-- The least such place. -/
  minPlace : Option Int
  /-- A whole number ends in `.0`. -/
  marksWhole : Bool
  deriving DecidableEq, Repr

namespace NumberStyle

/-- All digits are written, however many zeros that takes. -/
def plain : NumberStyle := ⟨none, none, false⟩

/-- Up to sixteen digits before the point and up to four zeros behind it are written out;
an exponent shows its sign if it is positive as well. -/
def json : NumberStyle := ⟨some 16, some (-4), true⟩

def writesOut (style : NumberStyle) (place : Int) : Bool :=
  style.maxPlace.all (place ≤ ·) && style.minPlace.all (· ≤ place)

/-- Digits with the point after the first `place` of them. -/
def positional (style : NumberStyle) (digits : List Char) (place : Int) : List Char :=
  if place ≤ 0 then ['0', '.'] ++ List.replicate (-place).toNat '0' ++ digits
  else
    let n := place.toNat
    if digits.length ≤ n then
      digits ++ List.replicate (n - digits.length) '0' ++
        (if style.marksWhole then ['.', '0'] else [])
    else digits.take n ++ ['.'] ++ digits.drop n

/-- One digit before the point, and the exponent. -/
def scientific (digits : List Char) (place : Int) : List Char :=
  let e := place - 1
  digits.take 1 ++ (if digits.length ≤ 1 then [] else '.' :: digits.drop 1) ++
    ['e', if 0 ≤ e then '+' else '-'] ++ Nat.toDigits 10 e.natAbs

def write (style : NumberStyle) (d : Decimal) : List Char :=
  let digits := Nat.toDigits 10 d.digits
  let place : Int := if d.digits = 0 then 1 else d.exponent + digits.length
  if style.writesOut place then style.positional digits place else scientific digits place

end NumberStyle

namespace Binary64

/-- The shortest text that reads back as `x`. -/
def format (style : NumberStyle) (x : Binary64) : String :=
  if x.isNaN then "NaN"
  else
    let sign := if x.isNegative then ['-'] else []
    String.ofList (sign ++ if x.isInfinite then ['i', 'n', 'f'] else style.write x.shortest)

end Binary64

end FramedWire
