import FramedWire.Number.Notation

/-!
# Fixed-point numbers

Signed 24.8 fixed point: the upper 24 bits are a whole number with its sign, and the low
eight bits an unsigned fraction in steps of 1/256. The fraction is always added. So `-1.5`
is stored as `-1` with fraction `128` and reads back as `-0.5`; only non-negative values
and whole negative ones survive `ofRat` and `toRat` unchanged.
-/
namespace FramedWire

structure Fixed where
  bits : Int32
  deriving DecidableEq, Repr, Inhabited

namespace Fixed

/-- Numbers are ordered like their bits. -/
instance : LE Fixed := ⟨fun x y => x.bits ≤ y.bits⟩

instance : LT Fixed := ⟨fun x y => x.bits < y.bits⟩

instance (x y : Fixed) : Decidable (x ≤ y) := inferInstanceAs (Decidable (x.bits ≤ y.bits))

instance (x y : Fixed) : Decidable (x < y) := inferInstanceAs (Decidable (x.bits < y.bits))

def zero : Fixed := ⟨0⟩

def one : Fixed := ⟨256⟩

/-- A whole number; what lies above 24 bits is shifted out. -/
def ofInteger (n : Int32) : Fixed := ⟨Int32.ofInt (n.toInt * 256)⟩

def integer (x : Fixed) : Int := x.bits.toInt / 256

/-- The fraction in steps of 1/256. -/
def fraction (x : Fixed) : Nat := (x.bits.toInt % 256).toNat

def toRat (x : Fixed) : Rat := x.integer + (x.fraction : Rat) / 256

/-- The whole number next to `q` on the side of zero. -/
def truncate (q : Rat) : Int := if 0 ≤ q then q.floor else -(-q).floor

/-- The whole number nearest to a non-negative `q`; a half goes up. -/
def roundHalfUp (q : Rat) : Int := (q + 1 / 2).floor

/-- The 32-bit integer nearest to `n`. -/
def saturate (n : Int) : Int := max Int32.minValue.toInt (min n Int32.maxValue.toInt)

def ofParts (integer : Int) (fraction : Nat) : Fixed := ⟨Int32.ofInt (integer * 256 + fraction)⟩

/-- The number `q` cut toward zero, with the magnitude of the rest rounded to the nearest step; it
never reaches the next whole number. -/
def ofRat (q : Rat) : Fixed :=
  let integer := truncate q
  let rest := q - integer
  let steps := roundHalfUp ((if 0 ≤ rest then rest else -rest) * 256)
  ofParts (saturate integer) (min steps 255).toNat

/-- What is no number has the fraction 255; an infinity also has the outermost integer. -/
def ofBinary64 (x : Binary64) : Fixed :=
  if x.isNaN then ofParts 0 255
  else if x.isInfinite then
    ofParts (if x.isNegative then Int32.minValue.toInt else Int32.maxValue.toInt) 255
  else ofRat x.toRat

/-- The value as a binary number; it always is one. -/
def toBinary64 (x : Fixed) : Binary64 := Binary64.ofRat x.toRat

def text (x : Fixed) : String := x.toBinary64.format .plain

end Fixed

end FramedWire
