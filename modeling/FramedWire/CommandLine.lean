import FramedWire.CommandLine.Grammar
import FramedWire.Number.Literal
import FramedWire.Report

/-!
# The command line

The commands of the program and the options they have. Four options belong to every
command and may stand before or behind its name; where both are given, the one behind it
counts.
-/
namespace FramedWire

inductive LogFormat where
  | text | json
  deriving DecidableEq, Repr

inductive LogLevel where
  | error | warn | info | debug | trace
  deriving DecidableEq, Repr

inductive Command where
  /-- Print what clients send to a socket, until `count?` messages are printed. -/
  | listen (path : String) (signature? : Option String) (count? : Option Nat)
  /-- Send one message to a socket. -/
  | send (path : String) (sender : UInt32) (opcode : UInt16) (signature : String)
    (values : List String)
  /-- Print recorded messages; they are read from standard input if they are not given. -/
  | decode (hex? signature? : Option String)
  | version (extended : Bool)
  deriving DecidableEq, Repr

structure Invocation where
  command : Command
  format? : Option OutputFormat := none
  order : ByteOrder := .native
  logFormat : LogFormat := .text
  logLevel : LogLevel := .info
  deriving DecidableEq, Repr

namespace CommandLine

/-- Everything that options and positionals have set so far. -/
structure Draft where
  format? : Option OutputFormat := none
  logFormat? : Option LogFormat := none
  logLevel? : Option LogLevel := none
  order? : Option ByteOrder := none
  path? : Option String := none
  signature? : Option String := none
  count? : Option Nat := none
  sender? : Option UInt32 := none
  opcode? : Option UInt16 := none
  hex? : Option String := none
  values : List String := []
  extended : Bool := false

/-- A setting that is made at most once. -/
def once {β : Type} (current? : Draft → Option β) (parse : String → Except Refusal β)
    (set : Draft → β → Draft) : Setter Draft := fun text d =>
  if (current? d).isSome then .error .argumentConflict else (parse text).map (set d)

/-- One of a list of words. -/
def oneOf {β : Type} (table : List (String × β)) (text : String) : Except Refusal β :=
  match table.lookup text with
  | some v => .ok v
  | none => .error .invalidValue

def anyText (text : String) : Except Refusal String := .ok text

def nonemptyText (text : String) : Except Refusal String :=
  if text = "" then .error .invalidValue else .ok text

/-- A number below `bound`. A sign is allowed where it makes no difference. -/
def below (bound : Nat) (text : String) : Except Refusal Nat :=
  match
    Literal.parseInt Int64.minValue.toInt.natAbs Int64.maxValue.toInt.natAbs text.toList
  with
  | .ok n => if 0 ≤ n ∧ n < bound then .ok n.toNat else .error .valueValidation
  | .error _ => .error .valueValidation

/-- A count of 64 bits. -/
def parseCount (text : String) : Except Refusal Nat :=
  (Literal.parseUInt UInt64.size text).mapError fun _ => .valueValidation

def parseOrder (text : String) : Except Refusal ByteOrder :=
  (ByteOrder.ofName text).mapError fun _ => .valueValidation

def helpOption : OptionSpec Draft := { long := "help", short? := some 'h', action := .help }

/-- The options of every command. -/
def sharedOptions : List (OptionSpec Draft) := [
  { long := "format"
    action := .value (once (·.format?)
      (oneOf [("json", .json), ("table", .table), ("pretty", .pretty)])
      fun d v => { d with format? := some v }) },
  { long := "log-format"
    action := .value (once (·.logFormat?) (oneOf [("text", .text), ("json", .json)])
      fun d v => { d with logFormat? := some v }) },
  { long := "log-level"
    action := .value (once (·.logLevel?)
      (oneOf [("error", .error), ("warn", .warn), ("info", .info), ("debug", .debug),
        ("trace", .trace)])
      fun d v => { d with logLevel? := some v }) },
  { long := "byte-order"
    action := .value (once (·.order?) parseOrder fun d v => { d with order? := some v }) }]

def signatureOption : OptionSpec Draft where
  long := "signature"
  short? := some 's'
  action := .value (once (·.signature?) anyText fun d v => { d with signature? := some v })

def pathArgument : Positional Draft where
  set := once (·.path?) nonemptyText fun d v => { d with path? := some v }

def mainGrammar : Grammar Draft where
  options :=
    helpOption :: { long := "version", short? := some 'V', action := .version } :: sharedOptions
  commands := ["listen", "send", "decode", "version", "help"]

def listenGrammar : Grammar Draft where
  options := helpOption :: signatureOption ::
    { long := "count"
      action := .value (once (·.count?) parseCount fun d v => { d with count? := some v }) } ::
    sharedOptions
  positionals := [pathArgument]

def sendGrammar : Grammar Draft where
  options := helpOption :: signatureOption ::
    { long := "sender"
      action := .value (once (·.sender?) (fun text => (below UInt32.size text).map UInt32.ofNat)
        fun d v => { d with sender? := some v }) } ::
    { long := "opcode"
      action := .value (once (·.opcode?) (fun text => (below UInt16.size text).map UInt16.ofNat)
        fun d v => { d with opcode? := some v }) } ::
    sharedOptions
  positionals := [pathArgument,
    { set := fun text d => .ok { d with values := d.values ++ [text] }, greedy := true }]

def decodeGrammar : Grammar Draft where
  options := helpOption :: signatureOption :: sharedOptions
  positionals := [{ set := once (·.hex?) anyText fun d v => { d with hex? := some v } }]

def versionGrammar : Grammar Draft where
  options := helpOption ::
    { long := "extended"
      action := .switch fun d =>
        if d.extended then .error .argumentConflict else .ok { d with extended := true } } ::
    sharedOptions

/-- A setting the command cannot do without. -/
def required {β : Type} (value? : Option β) : Except Refusal β :=
  match value? with
  | some v => .ok v
  | none => .error .missingRequiredArgument

/-- The answer to a request for help on a command. -/
def helpOn : List String → Refusal
  | [] => .displayHelp
  | [name] => if mainGrammar.commands.contains name then .displayHelp else .invalidSubcommand
  | _ => .invalidSubcommand

/-- The command `name` with the words behind it, and what these set besides. -/
def parseCommand (name : String) (words : List String) : Except Refusal (Command × Draft) :=
  match name with
  | "listen" => do
    let d ← listenGrammar.read {} words
    return (.listen (← required d.path?) d.signature? d.count?, d)
  | "send" => do
    let d ← sendGrammar.read {} words
    let path ← required d.path?
    let sender ← required d.sender?
    return (.send path sender (d.opcode?.getD 0) (d.signature?.getD "") d.values, d)
  | "decode" => do
    let d ← decodeGrammar.read {} words
    return (.decode d.hex? d.signature?, d)
  | "version" => do
    let d ← versionGrammar.read {} words
    return (.version d.extended, d)
  | _ => .error (helpOn words)

/-- Whether nothing at all was asked for. -/
def Draft.isBlank (d : Draft) : Bool :=
  d.format?.isNone && d.logFormat?.isNone && d.logLevel?.isNone && d.order?.isNone

/-- What the words behind the program's name ask for. -/
def parse (words : List String) : Except Refusal Invocation := do
  let (p, command?) ← mainGrammar.scan words (mainGrammar.start {})
  match command? with
  | none =>
    let p ← p.settle
    .error (if p.settings.isBlank then .displayHelpOnMissing else .missingSubcommand)
  | some (name, rest) =>
    let (command, inner) ← parseCommand name rest
    let outer := (← p.settle).settings
    return {
      command
      format? := inner.format? <|> outer.format?
      order := (inner.order? <|> outer.order?).getD .native
      logFormat := (inner.logFormat? <|> outer.logFormat?).getD .text
      logLevel := (inner.logLevel? <|> outer.logLevel?).getD .info }

end CommandLine

end FramedWire
