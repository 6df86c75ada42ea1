import FramedWire.Number.Binary64

/-!
# The shortest decimal of a binary number

Every finite number is the nearest one to an interval of rationals. Its shortest decimal
is the decimal in that interval with the fewest digits, and of those the nearest. A
decimal with `n` digits in the interval exists exactly when one of the two neighbours of
the value on the grid of `n` digits lies in it, so only these are looked at.
-/
namespace FramedWire

/-- The number `digits * 10 ^ exponent`. -/
structure Decimal where
  digits : Nat
  exponent : Int
  deriving DecidableEq, Repr

attribute [local instance (20000)] instPowNat

namespace Decimal

def tenPow (e : Int) : Rat := if 0 ≤ e then (10 ^ e.toNat : Nat) else 1 / (10 ^ (-e).toNat : Nat)

def toRat (d : Decimal) : Rat := (d.digits : Rat) * tenPow d.exponent

/-- Without zeros at the end of the digits; `fuel` bounds how many are looked for. -/
def trimZeros : (fuel : Nat) → Decimal → Decimal
  | 0, d => d
  | fuel + 1, d =>
    if d.digits ≠ 0 ∧ d.digits % 10 = 0 then trimZeros fuel ⟨d.digits / 10, d.exponent + 1⟩ else d

/-- The largest `e` with `10 ^ e ≤ q`, for positive `q`. -/
def floorLog10 (q : Rat) : Int :=
  let e : Int := (Nat.toDigits 10 q.num.natAbs).length - (Nat.toDigits 10 q.den).length
  if tenPow e ≤ q then e else e - 1

end Decimal

namespace Binary64

/-- The rationals that round to a positive finite number lie between these two. -/
def roundingInterval (x : Binary64) : Rat × Rat :=
  let m := x.significand
  let q := x.exponent
  let above := ((2 * m + 1 : Nat) : Rat) * twoPow (q - 1)
  let below :=
    if m = 2 ^ (52 : Nat) ∧ -1074 < q then ((4 * m - 1 : Nat) : Rat) * twoPow (q - 2)
    else ((2 * m - 1 : Nat) : Rat) * twoPow (q - 1)
  (below, above)

/-- The ends of the interval round to an even significand only. -/
def roundsTo (x : Binary64) (q : Rat) : Bool :=
  let (below, above) := x.roundingInterval
  if x.significand % 2 = 0 then below ≤ q && q ≤ above else below < q && q < above

/-- The nearest decimal on the grid `10 ^ e` that reads back as the magnitude of `x`; the
even one of two that are equally near. -/
def nearestOnGrid? (x : Binary64) (value : Rat) (e : Int) : Option Decimal :=
  let grid := Decimal.tenPow e
  let d := (value / grid).floor.toNat
  let lower : Decimal := ⟨d, e⟩
  let upper : Decimal := ⟨d + 1, e⟩
  match x.roundsTo lower.toRat, x.roundsTo upper.toRat with
  | false, false => none
  | true, false => some lower
  | false, true => some upper
  | true, true =>
    let toLower := value - lower.toRat
    let toUpper := upper.toRat - value
    if toLower < toUpper ∨ (toLower = toUpper ∧ d % 2 = 0) then some lower else some upper

/-- The first grid that has a decimal reading back, beginning with `n` digits fewer than
the finest, whose decimal is the last resort. -/
def shortestFrom (x : Binary64) (value : Rat) (first : Int) : (left n : Nat) → Decimal
  | 0, _ => ⟨0, 0⟩
  | left + 1, n =>
    match x.nearestOnGrid? value (first - n) with
    | some d => d
    | none => shortestFrom x value first left (n + 1)

/-- The shortest decimal of a finite number's magnitude; seventeen digits always do. -/
def shortest (x : Binary64) : Decimal :=
  if x.magnitudeBits = 0 then ⟨0, 0⟩
  else
    let value := (x.significand : Rat) * twoPow x.exponent
    (x.shortestFrom value (Decimal.floorLog10 value) 18 0).trimZeros 400

end Binary64

end FramedWire
