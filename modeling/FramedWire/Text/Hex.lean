import FramedWire.Text.Characters

/-!
# Bytes as hexadecimal text

Two digits to a byte. Writing uses lower case. Reading takes either case, skips the white
space of ASCII wherever it stands, and allows `0x` in front and any blanks around.
-/
namespace FramedWire.Text

def hexDigit (n : Nat) : Char := Nat.digitChar n

/-- Two digits for each byte. -/
def encodeHex (bs : Bytes) : String :=
  String.ofList (bs.flatMap fun b => [hexDigit (b.toNat / 16), hexDigit (b.toNat % 16)])

inductive HexError where
  | oddLength
  /-- A byte that is no digit; it is shown as the character with its number. -/
  | invalidDigit (byte : UInt8)
  deriving DecidableEq, Repr

def HexError.message : HexError → String
  | .oddLength => "hex input has an odd number of digits"
  | .invalidDigit byte => "invalid hex digit " ++ quotedChar (Char.ofNat byte.toNat)

/-- The value of a digit in either case. -/
def hexValue (b : UInt8) : Except HexError UInt8 :=
  if 0x30 ≤ b ∧ b ≤ 0x39 then .ok (b - 0x30)
  else if 0x61 ≤ b ∧ b ≤ 0x66 then .ok (b - 0x61 + 10)
  else if 0x41 ≤ b ∧ b ≤ 0x46 then .ok (b - 0x41 + 10)
  else .error (.invalidDigit b)

/-- Tab, line feed, form feed, carriage return and space. -/
def isAsciiBlank (b : UInt8) : Bool :=
  b == 0x09 || b == 0x0A || b == 0x0C || b == 0x0D || b == 0x20

/-- The digits of a text: without blanks around, `0x` in front and white space between. -/
def hexBytes (text : String) : Bytes :=
  let inner := trim text.toList
  let inner :=
    match inner with
    | '0' :: 'x' :: rest => rest
    | _ => inner
  (utf8 (String.ofList inner)).filter (!isAsciiBlank ·)

/-- The bytes that pairs of digits denote. -/
def decodePairs : Bytes → Except HexError Bytes
  | high :: low :: rest => do
    let h ← hexValue high
    let l ← hexValue low
    let bs ← decodePairs rest
    return (h * 16 + l) :: bs
  | [_] => .error .oddLength
  | [] => .ok []

/-- The length is looked at before any digit is. -/
def decodeHex (text : String) : Except HexError Bytes :=
  let digits := hexBytes text
  if digits.length % 2 ≠ 0 then .error .oddLength else decodePairs digits

end FramedWire.Text
