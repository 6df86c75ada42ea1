import FramedWire.Arg
import FramedWire.ExitCode
import FramedWire.Json.Parser
import FramedWire.Number.Literal
import FramedWire.Text.Hex

/-!
# Arguments as text

How arguments are typed in and shown. A number is typed as such, an array as hexadecimal
digits, a new id as `interface:version`, a descriptor as the path of a file to open, and a
sequence as a JSON array of what its elements may be. `ArgText.toJson` shows a decoded
argument.

Opening a file is a step on some state of the world. When an argument cannot be made, the
files that were opened for those before it are closed.
-/
namespace FramedWire

/-- How a file is opened. -/
abbrev OpenFile (σ : Type) := String → σ → Step σ IoError Descriptor

/-- An argument made from text. -/
abbrev Making (σ α : Type) := Step σ CommandError α

namespace ArgText

/-- The text `text` is no argument of type `ty`, for a reason given by `detail`. -/
def invalid (ty : ArgType) (text detail : String) : CommandError :=
  .usage ("invalid " ++ ty.text ++ " argument " ++ Text.quoted text ++ ": " ++ detail)

/-- What stands before and behind the last colon. -/
def splitLastColon? (cs : List Char) : Option (List Char × List Char) :=
  match cs with
  | [] => none
  | c :: cs =>
    match splitLastColon? cs with
    | some (before, behind) => some (c :: before, behind)
    | none => if c = ':' then some ([], cs) else none

def parseNewId (text : String) : Except String NewId :=
  match splitLastColon? text.toList with
  | none => .error "expected interface:version"
  | some (interface, version) =>
    match Literal.parseUInt32 (String.ofList version) with
    | .ok v => .ok ⟨String.ofList interface, v⟩
    | .error e => .error e.message

/-- A scalar whose text needs nothing but itself. -/
def parseScalar (ty : ArgType) (text : String) : Except CommandError Arg :=
  match ty with
  | .int => ((Literal.parseInt32 text).map Arg.int).mapError (invalid ty text ·.message)
  | .uint => ((Literal.parseUInt32 text).map Arg.uint).mapError (invalid ty text ·.message)
  | .fixed =>
    ((Literal.parseReal text).map (Arg.fixed ∘ Fixed.ofBinary64)).mapError
      (invalid ty text ·.message)
  | .array => ((Text.decodeHex text).map Arg.array).mapError (CommandError.usage ·.message)
  | .newId => ((parseNewId text).map Arg.newId).mapError (invalid ty text)
  | _ => .ok (.string text)

section Opening

variable {σ : Type} (openFile : OpenFile σ)

def ofExcept (r : Except CommandError Arg) (s : σ) : Making σ Arg := { result := r, state := s }

/-- A descriptor is the file that the text names. -/
def openArg (path : String) (s : σ) : Making σ Arg :=
  let step := openFile path s
  { result := (step.result.map Arg.fd).mapError (.ofIo ("failed opening " ++ path))
    state := step.state
    closed := step.closed }

/-- An element that is no sequence: a string is read like any text, and so are the digits
of a number. -/
def scalarOfJson (ty : ArgType) (value : Json) (s : σ) : Making σ Arg :=
  let ofText (text : String) : Making σ Arg :=
    if ty = .fd then openArg openFile text s else ofExcept (parseScalar ty text) s
  match value with
  | .string text => ofText text
  | .number n => ofText n.text
  | other => .fail (.usage ("cannot use " ++ other.compact ++ " as " ++ ty.text ++ " argument")) s

/-- An argument from a JSON value. -/
def ofJson : ArgType → Json → σ → Making σ Arg
  | .sequence element, .array items, s =>
    (Step.collect Arg.descriptors (ofJson element) items s).map .sequence
  | .sequence element, other, s =>
    .fail (.usage ("expected a JSON array for " ++ (ArgType.sequence element).text ++ ", got " ++
      other.compact)) s
  | ty, value, s => scalarOfJson openFile ty value s

/-- An argument from the text of a command line. -/
def parse (ty : ArgType) (text : String) (s : σ) : Making σ Arg :=
  match ty with
  | .fd => openArg openFile text s
  | .sequence _ =>
    match Json.parse text with
    | .error detail => .fail (invalid ty text detail) s
    | .ok value => ofJson openFile ty value s
  | _ => ofExcept (parseScalar ty text) s

/-- One argument per entry of a signature. -/
def parseAll (sig : Signature) (texts : List String) (s : σ) : Making σ (List Arg) :=
  if sig.length ≠ texts.length then
    .fail (.usage ("signature " ++ Signature.text sig ++ " expects " ++ toString sig.length ++
      " arguments, got " ++ toString texts.length)) s
  else
    Step.collect Arg.descriptors (fun (ty, text) s => parse openFile ty text s)
      (sig.zip texts) s

end Opening

mutual

/-- How an argument is shown. -/
def toJson : Arg → Json
  | .int v => .ofInt v.toInt
  | .uint v => .ofNat v.toNat
  | .fixed v => .number (.real v.toBinary64)
  | .string v => .string v
  | .array v => .string (Text.encodeHex v)
  | .newId v => .object [("interface", .string v.interface), ("version", .ofNat v.version.toNat)]
  | .fd d => .object [("fd", .ofInt d.number.toInt)]
  | .sequence items => .array (toJsonAll items)

def toJsonAll : List Arg → List Json
  | [] => []
  | item :: items => toJson item :: toJsonAll items

end

end ArgText

end FramedWire
