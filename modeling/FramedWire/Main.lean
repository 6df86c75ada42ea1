import FramedWire.Program

/-!
# The executable

Hands the words of the command line, standard input and what is known of standard output to
`Program.run`, and prints what comes of it. There are no stream sockets here, so `send` and
`listen` are turned down; everything else is as in the library.
-/
namespace FramedWire

/-- Whether a command reads standard input. -/
def Command.readsInput : Command → Bool
  | .decode none _ => true
  | _ => false

/-- Whether a command needs a stream socket. -/
def Command.needsSocket : Command → Bool
  | .listen .. | .send .. => true
  | _ => false

namespace Main

/-- How the program is called. -/
def usageText : String :=
  "usage: " ++ About.name ++ " [options] <listen|send|decode|version> [arguments]\n"

/-- Everything that is left on a stream, behind what was read of it. -/
partial def readRest (stream : IO.FS.Stream) (read : ByteArray) : IO ByteArray := do
  let chunk ← stream.read 65536
  if chunk.isEmpty then return read else readRest stream (read ++ chunk)

/-- Answer words that are no command. -/
def refuse (r : CommandLine.Refusal) : IO UInt32 := do
  match r with
  | .displayHelp => IO.print usageText
  | .displayVersion => IO.print About.brief
  | _ => IO.eprint usageText
  return r.exitCode.toUInt32

def fail (error : CommandError) : IO UInt32 := do
  IO.eprintln ("error: " ++ error.message)
  return error.code.toUInt32

def run (inv : Invocation) : IO UInt32 := do
  if inv.command.needsSocket then
    fail ⟨ExitCode.internal, "stream sockets are not available"⟩
  else
    let stdin ← if inv.command.readsInput then readRest (← IO.getStdin) .empty else pure .empty
    let isTerminal ← (← IO.getStdout).isTty
    let outcome := Program.run inv { stdin := stdin.toList, isTerminal }
    IO.print outcome.output
    match outcome.result? with
    | some (.error e) => fail e
    | _ => return ExitCode.success.toUInt32

end Main

end FramedWire

open FramedWire in
def main (words : List String) : IO UInt32 := do
  match CommandLine.parse words with
  | .error r => Main.refuse r
  | .ok inv => Main.run inv
