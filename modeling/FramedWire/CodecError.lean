/-!
# Errors of the argument codec

Each constructor is one cause why an argument cannot be written or read.
-/
namespace FramedWire

inductive CodecError where
  /-- The payload ended before the field did. -/
  | truncated (needed remaining : Nat)
  /-- A string declared length zero, but its terminator is always counted. -/
  | zeroLengthString
  /-- The last byte of a string was not zero. -/
  | malformedString
  | invalidUtf8
  /-- A descriptor was asked for and none was left. -/
  | descriptorUnderflow (index : Nat)
  /-- A length that no 32-bit prefix can hold. -/
  | lengthOverflow (len : Nat)
  | messageTooLarge (size max : Nat)
  | trailingBytes (count : Nat)
  | trailingDescriptors (count : Nat)
  /-- The caller's value does not have the declared type: a programming error. -/
  | typeContract (expected found : String)
  deriving DecidableEq, Repr

namespace CodecError

def message : CodecError → String
  | .truncated needed remaining =>
    s!"payload truncated (needed {needed} bytes, {remaining} remaining)"
  | .zeroLengthString => "string has zero length"
  | .malformedString => "string is not null-terminated"
  | .invalidUtf8 => "string is not valid UTF-8"
  | .descriptorUnderflow index => s!"no more file descriptors (argument {index})"
  | .lengthOverflow len => s!"length {len} does not fit in a 32-bit prefix"
  | .messageTooLarge size max => s!"message too large ({size} bytes, max {max})"
  | .trailingBytes count => s!"{count} trailing payload bytes"
  | .trailingDescriptors count => s!"{count} unconsumed file descriptors"
  | .typeContract expected found =>
    s!"type contract violation: expected {expected}, got {found}"

def isTypeContract : CodecError → Bool
  | .typeContract .. => true
  | _ => false

end CodecError

end FramedWire
