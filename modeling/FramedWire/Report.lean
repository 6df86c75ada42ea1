import FramedWire.ArgText
import FramedWire.Message
import FramedWire.Text.Table

/-!
# Reports

What is shown of a received message: its header, and either its arguments or, if nobody
knows their types, the payload in hexadecimal. Making a report uses up the message, so all
its descriptors are closed.
-/
namespace FramedWire

inductive OutputFormat where
  | json | table | pretty
  deriving DecidableEq, Repr

structure ReportedArg where
  type : String
  value : Json

structure Report where
  header : Header
  order : ByteOrder
  fds : Nat
  signature? : Option String := none
  args? : Option (List ReportedArg) := none
  payload? : Option String := none

namespace Report

/-- Report a message; the arguments are read as `sig?` says. -/
def ofMessage (m : Message) (sig? : Option Signature) : Ended CommandError Report :=
  let base : Report := { header := m.header, order := m.order, fds := m.queue.length }
  match sig? with
  | none => ⟨.ok { base with payload? := some (Text.encodeHex m.payload) }, m.queue⟩
  | some sig =>
    match m.decodeArgs sig with
    | { result := .error e, state := m, closed := ds } =>
      ⟨.error (.ofCodec "decode failed" e), ds ++ m.drop⟩
    | { result := .ok args, state := m, closed := ds } =>
      let ended := m.finish
      let closed := ds ++ ended.closed ++ Arg.descriptorsAll args
      match ended.result with
      | .error e => ⟨.error (.ofCodec "decode failed" e), closed⟩
      | .ok () =>
        let entries :=
          List.zipWith (fun (ty : ArgType) arg => ⟨ty.text, ArgText.toJson arg⟩) sig args
        ⟨.ok { base with signature? := some (Signature.text sig), args? := some entries }, closed⟩

def argToJson (arg : ReportedArg) : Json :=
  .object [("type", .string arg.type), ("value", arg.value)]

/-- The report as one JSON object; what it does not know is left out. -/
def toJson (r : Report) : Json :=
  .object
    ([("sender", .ofNat r.header.sender.toNat), ("opcode", .ofNat r.header.opcode.toNat),
      ("size", .ofNat r.header.size.toNat), ("byte_order", .string r.order.name),
      ("fds", .ofNat r.fds)] ++
      (r.signature?.map fun s => ("signature", Json.string s)).toList ++
      (r.args?.map fun args => ("args", Json.array (args.map argToJson))).toList ++
      (r.payload?.map fun p => ("payload", Json.string p)).toList)

/-- What the message holds, for people. -/
def contents (r : Report) (separator : String) : String :=
  match r.args?, r.payload? with
  | some args, _ =>
    separator.intercalate (args.map fun arg => arg.type ++ "=" ++ arg.value.compact)
  | none, some payload => if payload = "" then "<empty>" else "payload=" ++ payload
  | none, none => "<empty>"

def toTable (r : Report) : Text.Table where
  header := ["SENDER", "OPCODE", "SIZE", "FDS", "CONTENTS"].map Text.cellOf
  rows :=
    [[toString r.header.sender.toNat, toString r.header.opcode.toNat,
      toString r.header.size.toNat, toString r.fds, r.contents "\n"].map Text.cellOf]

/-- The report in a format, with the line break that ends it. -/
def print (r : Report) : OutputFormat → String
  | .json => r.toJson.compact ++ "\n"
  | .table => r.toTable.text ++ "\n"
  | .pretty =>
    "sender=" ++ toString r.header.sender.toNat ++ " opcode=" ++ toString r.header.opcode.toNat ++
      " size=" ++ toString r.header.size.toNat ++ " fds=" ++ toString r.fds ++ " " ++
      r.contents " " ++ "\n"

end Report

end FramedWire
