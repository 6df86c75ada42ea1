/-!
# Errors of the transport

A system call fails with an `IoError`; an operation on a socket fails with a
`TransportError`, which names the operation and keeps the cause. An `IoError` may in
turn carry a whole `TransportError`, which lets one pass through an interface that
knows only the former. `TransportError.toIo` and `IoError.transport?` are the two ways.
-/
namespace FramedWire

/-- What a failing system call means to its caller. -/
inductive IoKind where
  | notFound | permissionDenied | connectionRefused | connectionReset | brokenPipe
  | alreadyExists | wouldBlock | timedOut | interrupted | invalidInput | invalidData
  | unexpectedEof | addrInUse | notADirectory | isADirectory | invalidFilename | uncategorized
  | other
  /-- A kind that nothing here is decided by, with its words. -/
  | further (words : String)
  deriving DecidableEq, Repr

/-- The words for a failure of which nothing is known but its kind. -/
def IoKind.text : IoKind → String
  | .notFound => "entity not found"
  | .permissionDenied => "permission denied"
  | .connectionRefused => "connection refused"
  | .connectionReset => "connection reset"
  | .brokenPipe => "broken pipe"
  | .alreadyExists => "entity already exists"
  | .wouldBlock => "operation would block"
  | .timedOut => "timed out"
  | .interrupted => "operation interrupted"
  | .invalidInput => "invalid input parameter"
  | .invalidData => "invalid data"
  | .unexpectedEof => "unexpected end of file"
  | .addrInUse => "address in use"
  | .notADirectory => "not a directory"
  | .isADirectory => "is a directory"
  | .invalidFilename => "invalid filename"
  | .uncategorized => "uncategorized error"
  | .other => "other error"
  | .further words => words

/-- The kind and the words of the system's error numbers. -/
def systemError : Nat → IoKind × String
  | 1 => (.permissionDenied, "Operation not permitted")
  | 2 => (.notFound, "No such file or directory")
  | 4 => (.interrupted, "Interrupted system call")
  | 6 => (.uncategorized, "No such device or address")
  | 11 => (.wouldBlock, "Resource temporarily unavailable")
  | 13 => (.permissionDenied, "Permission denied")
  | 17 => (.alreadyExists, "File exists")
  | 20 => (.notADirectory, "Not a directory")
  | 21 => (.isADirectory, "Is a directory")
  | 22 => (.invalidInput, "Invalid argument")
  | 32 => (.brokenPipe, "Broken pipe")
  | 36 => (.invalidFilename, "File name too long")
  | 98 => (.addrInUse, "Address already in use")
  | 104 => (.connectionReset, "Connection reset by peer")
  | 105 => (.uncategorized, "No buffer space available")
  | 109 => (.uncategorized, "Too many references: cannot splice")
  | 110 => (.timedOut, "Connection timed out")
  | 111 => (.connectionRefused, "Connection refused")
  | number => (.uncategorized, s!"Unknown error {number}")

mutual

inductive IoError where
  /-- Nothing is known but the kind. -/
  | plain (kind : IoKind)
  /-- The system's error number. -/
  | system (number : Nat)
  | described (kind : IoKind) (text : String)
  /-- A transport error on its way through an interface for I/O errors. -/
  | carrying (kind : IoKind) (inner : TransportError)

inductive TransportError where
  | bind (path : String) (source : IoError)
  | connect (path : String) (source : IoError)
  | accept (source : IoError)
  | io (source : IoError)
  /-- The receive itself and the hand-over of its control bytes fail independently. -/
  | receive (received handedOver : Option IoError)
  /-- The system had more control data than the buffer could hold. -/
  | ancillaryTruncated (maxFds : Nat)
  | pathTooLong (path : String) (len max : Nat)

end

mutual

def IoError.message : IoError → String
  | .plain kind => kind.text
  | .system number => (systemError number).2 ++ s!" (os error {number})"
  | .described _ text => text
  | .carrying _ inner => inner.message

def TransportError.message : TransportError → String
  | .bind path source => s!"failed to bind to {path}: " ++ source.message
  | .connect path source => s!"failed to connect to {path}: " ++ source.message
  | .accept source => "failed to accept connection: " ++ source.message
  | .io source => "transport I/O error: " ++ source.message
  | .receive (some r) (some h) =>
    "receive failed: " ++ r.message ++ "; ancillary data: " ++ h.message
  | .receive (some r) none => "receive failed: " ++ r.message
  | .receive none (some h) => "receive failed: ancillary data: " ++ h.message
  | .receive none none => "receive failed: unknown error"
  | .ancillaryTruncated maxFds =>
    s!"ancillary data truncated (buffer sized for {maxFds} descriptors)"
  | .pathTooLong path len max => s!"socket path too long ({len} bytes, max {max}): {path}"

end

namespace IoError

def kind : IoError → IoKind
  | .plain kind => kind
  | .system number => (systemError number).1
  | .described kind _ => kind
  | .carrying kind _ => kind

/-- The transport error that an I/O error carries, if it carries one. -/
def transport? : IoError → Option TransportError
  | .carrying _ inner => some inner
  | _ => none

/-- A failure after which the same call is made again at once. -/
def isInterruption (e : IoError) : Bool := e.kind == .interrupted

/-- A failure that says only that the call has to be made again. -/
def isTransient (e : IoError) : Bool := e.kind == .interrupted || e.kind == .wouldBlock

/-- The peer has gone. -/
def isHangup (e : IoError) : Bool := e.kind == .brokenPipe || e.kind == .connectionReset

end IoError

/-- The I/O error that stands for a transport error: its only cause if it says nothing
else, and otherwise one of the kind `other` that carries it. -/
def TransportError.toIo : TransportError → IoError
  | .io source => source
  | .receive (some source) none => source
  | e => .carrying .other e

end FramedWire
