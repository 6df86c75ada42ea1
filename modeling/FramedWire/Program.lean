import FramedWire.CommandLine
import FramedWire.Dump
import FramedWire.Listener
import FramedWire.MessageText
import FramedWire.Reception

/-!
# The program

What each command does with its surroundings: the file system, the runtime directory,
standard input, and the clients that connect while it listens; and what the program says of
itself.
-/
namespace FramedWire

namespace About

def name : String := "wlwire"

def version : String := "0.1.0"

def brief : String := name ++ " " ++ version ++ "\n"

/-- One line for each thing that may differ between builds. -/
def extended : String :=
  let config : FrameConfig := {}
  let entries := [("name", name), ("version", version), ("build_target", "unknown"),
    ("build_profile", "unknown"), ("native_byte_order", ByteOrder.native.name),
    ("max_message_size", toString Header.maxMessageSize),
    ("max_fds_per_read", toString config.maxFdsPerRead),
    ("features", "async=false, cli=true")]
  String.join (entries.map fun (key, value) => key ++ ": " ++ value ++ "\n")

end About

structure Surroundings where
  files : FileSystem := .empty
  runtimeDir? : Option String := none
  stdin : Bytes := []
  /-- The connections of the clients that come, in turn; the program has their right ends. -/
  clients : List SocketPair := []
  /-- Whether what is printed goes to a terminal. -/
  isTerminal : Bool := false

/-- What a run of the program leaves behind. -/
structure Outcome where
  output : String := ""
  /-- Nothing while it waits for another client. -/
  result? : Option (Except CommandError Unit)
  files : FileSystem
  /-- The connection on which a message was sent. -/
  sent? : Option SocketPair := none

namespace Program

/-- Reports are shown as a table to people, and as JSON to other programs. -/
def format (inv : Invocation) (around : Surroundings) : OutputFormat :=
  inv.format?.getD (if around.isTerminal then .table else .json)

def printAll (format : OutputFormat) (reports : List Report) : String :=
  String.join (reports.map (·.print format))

def parseSignature (text? : Option String) : Except CommandError (Option Signature) :=
  match text? with
  | none => .ok none
  | some text => (Signature.parse text).map some |>.mapError .ofSignature

/-- All of standard input, which has to be text. -/
def readInput (stdin : Bytes) : Except CommandError String :=
  match Text.ofUtf8? stdin with
  | some text => .ok text
  | none =>
    .error (.ofIo "failed reading stdin"
      (.described .invalidData "stream did not contain valid UTF-8"))

def decode (order : ByteOrder) (hex? signature? : Option String) (stdin : Bytes) :
    Except CommandError (List Report) := do
  let sig? ← parseSignature signature?
  let text ← match hex? with
    | some text => .ok text
    | none => readInput stdin
  Dump.ofHex order sig? text

/-- A listener is bound for as long as the reception lasts. -/
def listen (format : OutputFormat) (order : ByteOrder) (path : String)
    (signature? : Option String) (count? : Option Nat) (around : Surroundings) : Outcome :=
  match parseSignature signature? with
  | .error e => { result? := some (.error e), files := around.files }
  | .ok sig? =>
    let bound :=
      Listener.bind (SocketPath.ofArgument path around.runtimeDir?) Listener.defaultMode
        around.files
    match bound.result with
    | .error e => { result? := some (.error (.ofTransport "bind failed" e)), files := bound.state }
    | .ok listener =>
      let reception :=
        Reception.run (SocketPair.source .right) { order } sig? count? 0 around.clients
      { output := printAll format reception.reports
        result? := reception.result?
        files := if reception.result?.isSome then listener.drop bound.state else bound.state }

def run (inv : Invocation) (around : Surroundings) : Outcome :=
  match inv.command with
  | .listen path signature? count? =>
    listen (format inv around) inv.order path signature? count? around
  | .send path sender opcode signature values =>
    let sent :=
      MessageText.send { sender, opcode, signature, values } inv.order
        (SocketPath.ofArgument path around.runtimeDir?) around.files
    { result? := some (sent.result.map fun _ => ())
      files := around.files
      sent? := sent.result.toOption }
  | .decode hex? signature? =>
    let decoded := decode inv.order hex? signature? around.stdin
    { output := printAll (format inv around) (decoded.toOption.getD [])
      result? := some (decoded.map fun _ => ())
      files := around.files }
  | .version extended =>
    { output := if extended then About.extended else About.brief
      result? := some (.ok ())
      files := around.files }

end Program

end FramedWire
