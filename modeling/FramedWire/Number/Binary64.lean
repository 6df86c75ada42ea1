/-!
# Binary numbers of double precision

A `Binary64` is 64 bits: a sign, eleven bits of exponent and 52 of fraction. Its value
is read as a rational, and a rational is rounded to the nearest representable number,
to the even one of two that are equally near. All arithmetic goes through these two
maps: an operation is exact on rationals and then rounded once.
-/
namespace FramedWire

structure Binary64 where
  bits : UInt64
  deriving DecidableEq, Repr

namespace Binary64

-- The powers here are those of the natural numbers, also where a monoid offers its own.
attribute [local instance (20000)] instPowNat

def signBit : Nat := 2 ^ (63 : Nat)

/-- The bits without the sign. They grow with the magnitude. -/
def magnitudeBits (x : Binary64) : Nat := x.bits.toNat % signBit

def isNegative (x : Binary64) : Bool := signBit ≤ x.bits.toNat

/-- Bits of an infinite magnitude; larger ones are no numbers. -/
def infiniteBits : Nat := 2047 * 2 ^ (52 : Nat)

def isNaN (x : Binary64) : Bool := infiniteBits < x.magnitudeBits

def isInfinite (x : Binary64) : Bool := x.magnitudeBits == infiniteBits

def isFinite (x : Binary64) : Bool := x.magnitudeBits < infiniteBits

/-- A finite magnitude is `significand * 2 ^ exponent`. -/
def significand (x : Binary64) : Nat :=
  if x.magnitudeBits < 2 ^ (52 : Nat) then x.magnitudeBits
  else x.magnitudeBits % 2 ^ (52 : Nat) + 2 ^ (52 : Nat)

def exponent (x : Binary64) : Int :=
  if x.magnitudeBits < 2 ^ (52 : Nat) then -1074
  else (x.magnitudeBits / 2 ^ (52 : Nat) : Nat) - 1075

/-- The power `2 ^ e` for an exponent of either sign. -/
def twoPow (e : Int) : Rat := if 0 ≤ e then (2 ^ e.toNat : Nat) else 1 / (2 ^ (-e).toNat : Nat)

/-- The value of a finite number. -/
def toRat (x : Binary64) : Rat :=
  let magnitude : Rat := (x.significand : Rat) * twoPow x.exponent
  if x.isNegative then -magnitude else magnitude

def ofMagnitudeBits (negative : Bool) (bits : Nat) : Binary64 :=
  ⟨UInt64.ofNat (if negative then signBit + bits else bits)⟩

def zero : Binary64 := ⟨0⟩

def infinity (negative : Bool) : Binary64 := ofMagnitudeBits negative infiniteBits

def nan : Binary64 := ⟨UInt64.ofNat (infiniteBits + 2 ^ (51 : Nat))⟩

/-- The whole number nearest to `num / den`, the even one of two. -/
def roundHalfEven (num den : Nat) : Nat :=
  let q := num / den
  let r := num % den
  if 2 * r < den then q else if den < 2 * r then q + 1 else q + q % 2

/-- The largest `e` with `2 ^ e ≤ num / den`, for positive `num` and `den`. -/
def floorLog2 (num den : Nat) : Int :=
  let e : Int := (Nat.log2 num : Int) - Nat.log2 den
  let reaches := if 0 ≤ e then den * 2 ^ e.toNat ≤ num else den ≤ num * 2 ^ (-e).toNat
  if reaches then e else e - 1

/-- The number nearest to `± num / den`. -/
def ofFraction (negative : Bool) (num den : Nat) : Binary64 :=
  if num = 0 then ofMagnitudeBits negative 0
  else
    let e := max (floorLog2 num den) (-1022)
    let unit := e - 52
    let m :=
      if 0 ≤ unit then roundHalfEven num (den * 2 ^ unit.toNat)
      else roundHalfEven (num * 2 ^ (-unit).toNat) den
    let bits := (e + 1022).toNat * 2 ^ (52 : Nat) + m
    ofMagnitudeBits negative (min bits infiniteBits)

/-- The number nearest to `q`. -/
def ofRat (q : Rat) : Binary64 := ofFraction (q.num < 0) q.num.natAbs q.den

/-- The number nearest to `± digits * 10 ^ e`. Exponents far outside the range are
settled by the position of the first digit. -/
def ofDecimal (negative : Bool) (digits : Nat) (e : Int) : Binary64 :=
  let place : Int := e + (Nat.toDigits 10 digits).length
  if digits = 0 then ofMagnitudeBits negative 0
  else if 400 < place then infinity negative
  else if place < -400 then ofMagnitudeBits negative 0
  else if 0 ≤ e then ofFraction negative (digits * 10 ^ e.toNat) 1
  else ofFraction negative digits (10 ^ (-e).toNat)

def ofNat (n : Nat) : Binary64 := ofFraction false n 1

def neg (x : Binary64) : Binary64 :=
  ofMagnitudeBits (!x.isNegative) x.magnitudeBits

/-- Product of two finite numbers; a zero keeps the signs' product. -/
def mul (x y : Binary64) : Binary64 :=
  let q := x.toRat * y.toRat
  ofFraction (x.isNegative != y.isNegative) q.num.natAbs q.den

/-- Quotient of two finite numbers, the second not zero. -/
def div (x y : Binary64) : Binary64 :=
  let q := x.toRat / y.toRat
  ofFraction (x.isNegative != y.isNegative) q.num.natAbs q.den

end Binary64

end FramedWire
