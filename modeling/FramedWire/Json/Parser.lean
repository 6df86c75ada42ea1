import FramedWire.Json
import FramedWire.Text.Characters

/-!
# Reading JSON

A reader for JSON text that names the first fault and where it was met: the line, and how
many bytes of that line had been looked at. Arrays and objects may be nested 127 deep.

Each function takes the bytes that are left and returns what it read and what is left
then. A fault records how many bytes were left, which `JsonFault.describe` turns into a
line and a column.
-/
namespace FramedWire

inductive JsonFaultKind where
  | eofInValue | eofInList | eofInObject | eofInString
  | expectedColon | expectedListCommaOrEnd | expectedObjectCommaOrEnd
  | expectedIdent | expectedValue | invalidEscape | invalidNumber | numberOutOfRange
  | controlCharacter | keyMustBeString | loneSurrogate | trailingComma | trailingCharacters
  | unexpectedEndOfHexEscape | recursionLimit
  deriving DecidableEq, Repr

def JsonFaultKind.text : JsonFaultKind → String
  | .eofInValue => "EOF while parsing a value"
  | .eofInList => "EOF while parsing a list"
  | .eofInObject => "EOF while parsing an object"
  | .eofInString => "EOF while parsing a string"
  | .expectedColon => "expected `:`"
  | .expectedListCommaOrEnd => "expected `,` or `]`"
  | .expectedObjectCommaOrEnd => "expected `,` or `\x7d`"
  | .expectedIdent => "expected ident"
  | .expectedValue => "expected value"
  | .invalidEscape => "invalid escape"
  | .invalidNumber => "invalid number"
  | .numberOutOfRange => "number out of range"
  | .controlCharacter => "control character (\\u0000-\\u001F) found while parsing a string"
  | .keyMustBeString => "key must be a string"
  | .loneSurrogate => "lone leading surrogate in hex escape"
  | .trailingComma => "trailing comma"
  | .trailingCharacters => "trailing characters"
  | .unexpectedEndOfHexEscape => "unexpected end of hex escape"
  | .recursionLimit => "recursion limit exceeded"

structure JsonFault where
  kind : JsonFaultKind
  /-- How many bytes of the text had not been looked at. -/
  left : Nat
  deriving DecidableEq, Repr

namespace JsonFault

/-- A fault in the byte before `rest`. -/
def before (kind : JsonFaultKind) (rest : Bytes) : JsonFault := ⟨kind, rest.length⟩

/-- A fault in the first byte of `rest`, or at the end if there is none. -/
def facing (kind : JsonFaultKind) (rest : Bytes) : JsonFault := ⟨kind, rest.length - 1⟩

/-- The fault and its place in `input`: lines count from one, and columns are bytes. -/
def describe (input : Bytes) (fault : JsonFault) : String :=
  let seen := input.take (input.length - fault.left)
  let line := 1 + seen.count 0x0A
  let column := (seen.reverse.takeWhile (· != 0x0A)).length
  fault.kind.text ++ s!" at line {line} column {column}"

end JsonFault

namespace Json

/-- What was read, and the bytes left. -/
abbrev Parsed (α : Type) := Except JsonFault (α × Bytes)

def isBlankByte (b : UInt8) : Bool := b == 0x20 || b == 0x0A || b == 0x09 || b == 0x0D

def skipBlanks (bs : Bytes) : Bytes := bs.dropWhile isBlankByte

def isDigitByte (b : UInt8) : Bool := 0x30 ≤ b && b ≤ 0x39

def digitValue (b : UInt8) : Nat := b.toNat - 0x30

/-- The rest of a word whose first letter was read. -/
def parseIdent : (expected : Bytes) → Bytes → Except JsonFault Bytes
  | [], bs => .ok bs
  | _ :: _, [] => .error (.before .eofInValue [])
  | e :: expected, b :: bs =>
    if b = e then parseIdent expected bs else .error (.before .expectedIdent bs)

section Numbers

/-- The value `significand * 10 ^ exponent`, computed in binary: one conversion and then one
multiplication or division for every 308 powers of ten. -/
def scaleDecimal : (fuel : Nat) → Binary64 → (exponent : Int) → Option Binary64
  | 0, x, _ => some x
  | fuel + 1, x, exponent =>
    if exponent.natAbs ≤ 308 then
      let power := Binary64.ofDecimal false 1 exponent.natAbs
      if 0 ≤ exponent then
        let y := x.mul power
        if y.isInfinite then none else some y
      else some (x.div power)
    else if x.magnitudeBits = 0 then some x
    else if 0 ≤ exponent then none
    else scaleDecimal fuel (x.div (Binary64.ofDecimal false 1 308)) (exponent + 308)

/-- A binary number from its parts. A significand of 64 bits is used up after two
divisions, so four rounds are enough. -/
def realOfParts (negative : Bool) (significand : Nat) (exponent : Int) (rest : Bytes) :
    Parsed JsonNumber :=
  match scaleDecimal 4 (Binary64.ofNat significand) exponent with
  | some x => .ok (.real (if negative then x.neg else x), rest)
  | none => .error (.before .numberOutOfRange rest)

/-- Digits are added to a significand as long as 64 bits hold it. -/
def significandLimit : Nat := UInt64.size

def exponentLimit : Nat := UInt32.size / 2

/-- The digits of an exponent, up to one that 32 bits cannot hold; then what is left
begins behind that digit. -/
def exponentDigits (value : Nat) : Bytes → Option Nat × Bytes
  | [] => (some value, [])
  | b :: bs =>
    if isDigitByte b then
      let next := value * 10 + digitValue b
      if next < exponentLimit then exponentDigits next bs else (none, bs)
    else (some value, b :: bs)

/-- An exponent behind its `e`. -/
def parseExponent (negative : Bool) (significand : Nat) (start : Int) (bs : Bytes) :
    Parsed JsonNumber :=
  let (down, bs) : Bool × Bytes :=
    match bs with
    | 0x2B :: rest => (false, rest)
    | 0x2D :: rest => (true, rest)
    | _ => (false, bs)
  match bs with
  | [] => .error (.before .eofInValue [])
  | b :: rest =>
    if !isDigitByte b then .error (.before .invalidNumber rest)
    else
      match exponentDigits (digitValue b) rest with
      | (some e, rest) =>
        realOfParts negative significand (if down then start - e else start + e) rest
      | (none, rest) =>
        if significand ≠ 0 ∧ !down then .error (.before .numberOutOfRange rest)
        else
          .ok (.real (Binary64.ofMagnitudeBits negative 0), rest.dropWhile isDigitByte)

/-- What may follow a significand whose digits are complete. -/
def parseTail (negative : Bool) (significand : Nat) (exponent : Int) (bs : Bytes) :
    Parsed JsonNumber :=
  match bs with
  | 0x65 :: rest | 0x45 :: rest => parseExponent negative significand exponent rest
  | _ => realOfParts negative significand exponent bs

/-- The digits behind a point: the significand, how many digits it took, and whether
there was one that it could not take. -/
def fractionDigits (significand taken : Nat) : Bytes → Nat × Nat × Bool × Bytes
  | [] => (significand, taken, false, [])
  | b :: bs =>
    if isDigitByte b then
      let next := significand * 10 + digitValue b
      if next < significandLimit then fractionDigits next (taken + 1) bs
      else (significand, taken, true, b :: bs)
    else (significand, taken, false, b :: bs)

/-- A fraction behind its point. Digits that the significand cannot take are skipped. -/
def parseFraction (negative : Bool) (significand : Nat) (exponent : Int) (bs : Bytes) :
    Parsed JsonNumber :=
  match fractionDigits significand 0 bs with
  | (significand, taken, true, rest) =>
    parseTail negative significand (exponent - taken) (rest.dropWhile isDigitByte)
  | (_, 0, false, []) => .error (.before .eofInValue [])
  | (_, 0, false, rest) => .error (.facing .invalidNumber rest)
  | (significand, taken, false, rest) => parseTail negative significand (exponent - taken) rest

/-- A number whose whole part is complete. -/
def parseRest (negative : Bool) (significand : Nat) (bs : Bytes) : Parsed JsonNumber :=
  match bs with
  | 0x2E :: rest => parseFraction negative significand 0 rest
  | 0x65 :: rest | 0x45 :: rest => parseExponent negative significand 0 rest
  | _ =>
    if !negative then .ok (.natural significand, bs)
    else if significand = 0 ∨ UInt64.size / 2 < significand then
      .ok (.real (Binary64.ofNat significand).neg, bs)
    else .ok (.negative (-significand), bs)

/-- A whole part with more digits than the significand can take: they only count. -/
def parseLong (negative : Bool) (significand : Nat) (bs : Bytes) : Parsed JsonNumber :=
  let more := (bs.takeWhile isDigitByte).length
  match bs.dropWhile isDigitByte with
  | 0x2E :: rest => parseFraction negative significand more rest
  | rest => parseTail negative significand more rest

/-- The digits of a whole part. -/
def parseWhole (negative : Bool) (significand : Nat) : Bytes → Parsed JsonNumber
  | [] => parseRest negative significand []
  | b :: bs =>
    if isDigitByte b then
      let next := significand * 10 + digitValue b
      if next < significandLimit then parseWhole negative next bs
      else parseLong negative significand (b :: bs)
    else parseRest negative significand (b :: bs)

/-- A number without its sign. No other digit may follow a zero in front. -/
def parseNumber (negative : Bool) (bs : Bytes) : Parsed JsonNumber :=
  match bs with
  | [] => .error (.before .eofInValue [])
  | 0x30 :: rest =>
    match rest with
    | b :: _ =>
      if isDigitByte b then .error (.facing .invalidNumber rest) else parseRest negative 0 rest
    | [] => parseRest negative 0 rest
  | b :: rest =>
    if isDigitByte b then parseWhole negative (digitValue b) rest
    else .error (.before .invalidNumber rest)

end Numbers

section Strings

def hexValue? (b : UInt8) : Option Nat :=
  if 0x30 ≤ b ∧ b ≤ 0x39 then some (b.toNat - 0x30)
  else if 0x61 ≤ b ∧ b ≤ 0x66 then some (b.toNat - 0x61 + 10)
  else if 0x41 ≤ b ∧ b ≤ 0x46 then some (b.toNat - 0x41 + 10)
  else none

/-- The number in four digits. -/
def parseHex4 (bs : Bytes) : Parsed Nat :=
  match bs with
  | a :: b :: c :: d :: rest =>
    match hexValue? a, hexValue? b, hexValue? c, hexValue? d with
    | some a, some b, some c, some d => .ok (a * 4096 + b * 256 + c * 16 + d, rest)
    | _, _, _, _ => .error (.before .invalidEscape rest)
  | _ => .error (.before .eofInString [])

/-- The next byte has to be `b`. -/
def expectInEscape (b : UInt8) (bs : Bytes) : Except JsonFault Bytes :=
  match bs with
  | [] => .error (.before .eofInString [])
  | c :: rest =>
    if c = b then .ok rest else .error (.before .unexpectedEndOfHexEscape rest)

/-- The character of an escape `\u`. One beyond sixteen bits takes two of them. -/
def parseUnicodeEscape (bs : Bytes) : Except JsonFault (Char × Bytes) := do
  let (n, rest) ← parseHex4 bs
  if 0xDC00 ≤ n ∧ n ≤ 0xDFFF then throw (.before .loneSurrogate rest)
  else if n < 0xD800 ∨ 0xDBFF < n then return (Char.ofNat n, rest)
  else
    let rest ← expectInEscape 0x5C rest
    let rest ← expectInEscape 0x75 rest
    let (low, rest) ← parseHex4 rest
    if low < 0xDC00 ∨ 0xDFFF < low then throw (.before .loneSurrogate rest)
    else return (Char.ofNat ((n - 0xD800) * 0x400 + (low - 0xDC00) + 0x10000), rest)

/-- The character of an escape behind its backslash. -/
def parseEscape (bs : Bytes) : Parsed Char :=
  match bs with
  | [] => .error (.before .eofInString [])
  | 0x22 :: rest => .ok ('\x22', rest)
  | 0x5C :: rest => .ok ('\\', rest)
  | 0x2F :: rest => .ok ('/', rest)
  | 0x62 :: rest => .ok ('\x08', rest)
  | 0x66 :: rest => .ok ('\x0C', rest)
  | 0x6E :: rest => .ok ('\n', rest)
  | 0x72 :: rest => .ok ('\r', rest)
  | 0x74 :: rest => .ok ('\t', rest)
  | 0x75 :: rest => parseUnicodeEscape rest
  | _ :: rest => .error (.before .invalidEscape rest)

/-- A string behind its opening quote, with `read` the bytes so far in reverse. Each round
takes at least one byte, so the length of the text is fuel enough. -/
def parseStringFrom : (fuel : Nat) → (read : Bytes) → Bytes → Except JsonFault (String × Bytes)
  | 0, _, bs => .error (.before .eofInString bs)
  | _ + 1, _, [] => .error (.before .eofInString [])
  | fuel + 1, read, b :: bs =>
    if b = 0x22 then .ok ((Text.ofUtf8? read.reverse).getD "", bs)
    else if b = 0x5C then do
      let (c, rest) ← parseEscape bs
      parseStringFrom fuel ((Text.utf8 c.toString).reverse ++ read) rest
    else if b < 0x20 then .error (.before .controlCharacter bs)
    else parseStringFrom fuel (b :: read) bs

/-- A string behind its opening quote. -/
def parseString (bs : Bytes) : Parsed String := parseStringFrom (bs.length + 1) [] bs

end Strings

section Containers

variable (value : Bytes → Parsed Json)

/-- The items of a list behind its bracket. Each round takes at least one byte. -/
def parseItems : (fuel : Nat) → (first : Bool) → Bytes → Except JsonFault (List Json × Bytes)
  | 0, _, bs => .error (.facing .eofInList bs)
  | fuel + 1, first, bs =>
    let bs := skipBlanks bs
    let item (bs : Bytes) : Except JsonFault (List Json × Bytes) := do
      let (v, rest) ← value bs
      let (vs, rest) ← parseItems fuel false rest
      return (v :: vs, rest)
    match bs with
    | [] => .error (.facing .eofInList [])
    | 0x5D :: rest => .ok ([], rest)
    | b :: rest =>
      if first then item bs
      else if b = 0x2C then
        match skipBlanks rest with
        | [] => .error (.facing .eofInValue [])
        | 0x5D :: rest => .error (.facing .trailingComma (0x5D :: rest))
        | rest => item rest
      else .error (.facing .expectedListCommaOrEnd bs)

/-- A field from its opening quote on. -/
def parseField (bs : Bytes) : Except JsonFault ((String × Json) × Bytes) :=
  match bs with
  | 0x22 :: rest => do
    let (key, rest) ← parseString rest
    match skipBlanks rest with
    | [] => throw (.facing .eofInObject [])
    | 0x3A :: rest =>
      let (v, rest) ← value rest
      return ((key, v), rest)
    | rest => throw (.facing .expectedColon rest)
  | _ => .error (.facing .keyMustBeString bs)

/-- The fields of an object behind its brace, in the order in which they stand. -/
def parseFields : (fuel : Nat) → (first : Bool) → Bytes →
    Except JsonFault (List (String × Json) × Bytes)
  | 0, _, bs => .error (.facing .eofInObject bs)
  | fuel + 1, first, bs =>
    let bs := skipBlanks bs
    let field (bs : Bytes) : Except JsonFault (List (String × Json) × Bytes) := do
      let (f, rest) ← parseField value bs
      let (fs, rest) ← parseFields fuel false rest
      return (f :: fs, rest)
    match bs with
    | [] => .error (.facing .eofInObject [])
    | 0x7D :: rest => .ok ([], rest)
    | b :: rest =>
      if first then field bs
      else if b = 0x2C then
        match skipBlanks rest with
        | [] => .error (.facing .eofInValue [])
        | 0x7D :: rest => .error (.facing .trailingComma (0x7D :: rest))
        | rest => field rest
      else .error (.facing .expectedObjectCommaOrEnd bs)

end Containers

/-- A value whose containers are read by `nested`, if they may be nested any deeper. -/
def parseValueWith (nested : Option (Bytes → Parsed Json)) (bs : Bytes) : Parsed Json :=
  let bs := skipBlanks bs
  match bs with
  | [] => .error (.facing .eofInValue [])
  | b :: rest =>
    if b = 0x6E then (parseIdent [0x75, 0x6C, 0x6C] rest).map (.null, ·)
    else if b = 0x74 then (parseIdent [0x72, 0x75, 0x65] rest).map (.bool true, ·)
    else if b = 0x66 then (parseIdent [0x61, 0x6C, 0x73, 0x65] rest).map (.bool false, ·)
    else if b = 0x2D then (parseNumber true rest).map fun (n, rest) => (.number n, rest)
    else if isDigitByte b then (parseNumber false bs).map fun (n, rest) => (.number n, rest)
    else if b = 0x22 then (parseString rest).map fun (text, rest) => (.string text, rest)
    else if b = 0x5B then
      match nested with
      | none => .error (.facing .recursionLimit bs)
      | some value =>
        (parseItems value (rest.length + 1) true rest).map fun (items, rest) =>
          (.array items, rest)
    else if b = 0x7B then
      match nested with
      | none => .error (.facing .recursionLimit bs)
      | some value =>
        (parseFields value (rest.length + 1) true rest).map fun (fields, rest) =>
          (.object (fields.foldl (fun sorted (key, v) => insertField key v sorted) []), rest)
    else .error (.facing .expectedValue bs)

/-- A value with containers nested up to `depth`. -/
def parseValue : (depth : Nat) → Bytes → Parsed Json
  | 0 => parseValueWith none
  | depth + 1 => parseValueWith (some (parseValue depth))

def maxDepth : Nat := 127

/-- The value that a text holds, with nothing but blanks around it. -/
def parse (text : String) : Except String Json :=
  let input := Text.utf8 text
  let parsed : Except JsonFault Json := do
    let (v, rest) ← parseValue maxDepth input
    match skipBlanks rest with
    | [] => return v
    | rest => throw (.facing .trailingCharacters rest)
  parsed.mapError (·.describe input)

end Json

end FramedWire
