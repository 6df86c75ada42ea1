import FramedWire.Channel
import FramedWire.Control
import FramedWire.Sink
import FramedWire.Source.Finite

/-!
# Stream sockets

A connected pair of stream sockets, with one channel in each direction. Sends never wait,
and a receive that would have to wait fails instead. Closing an end closes the descriptors
nobody received there, and tells the other end if bytes were left unread.

`SocketPair.source` and `SocketPair.sink` make each end a stream to read messages from and
to write them to.
-/
namespace FramedWire

inductive Side where
  | left | right
  deriving DecidableEq, Repr

def Side.peer : Side → Side
  | .left => .right
  | .right => .left

structure Endpoint where
  inbox : Channel := []
  isOpen : Bool := true
  /-- The peer closed without reading everything, which one receive has to report. -/
  reset : Bool := false

def Endpoint.enqueue (e : Endpoint) (seg : Segment) : Endpoint :=
  { e with inbox := e.inbox ++ [seg] }

structure SocketPair where
  left : Endpoint := {}
  right : Endpoint := {}
  /-- Descriptors that were sent and that the system closed, because nobody took them. -/
  discarded : List Descriptor := []

namespace SocketPair

def endpoint (pair : SocketPair) : Side → Endpoint
  | .left => pair.left
  | .right => pair.right

def setEndpoint (pair : SocketPair) (e : Endpoint) : Side → SocketPair
  | .left => { pair with left := e }
  | .right => { pair with right := e }

def discard (pair : SocketPair) (ds : List Descriptor) : SocketPair :=
  { pair with discarded := pair.discarded ++ ds }

@[simp] theorem endpoint_setEndpoint (pair : SocketPair) (e : Endpoint) (side : Side) :
    (pair.setEndpoint e side).endpoint side = e := by cases side <;> rfl

@[simp] theorem endpoint_discard (pair : SocketPair) (ds : List Descriptor) (side : Side) :
    (pair.discard ds).endpoint side = pair.endpoint side := by cases side <;> rfl

section

variable (side : Side)

/-- One send from `side`. It fails if it carries more descriptors than one send may, or if
there is nobody to receive it; a send of no bytes carries nothing. -/
def send (pair : SocketPair) (bytes : Bytes) (attached : List Descriptor) :
    Step SocketPair IoError Nat :=
  if Control.maxRights < attached.length then .fail (.system 22) pair
  else if (pair.endpoint side.peer).isOpen = false then .fail (.system 32) pair
  else if bytes = [] then .done 0 pair
  else
    .done bytes.length
      (pair.setEndpoint ((pair.endpoint side.peer).enqueue ⟨bytes, attached⟩) side.peer)

/-- A send after which the sender gives up its own descriptors. They are closed, unless a
segment holds them now. -/
def give (pair : SocketPair) (bytes : Bytes) (owned : List Descriptor) :
    Step SocketPair IoError Nat :=
  let step := pair.send side bytes owned
  match step.result with
  | .ok (_ + 1) => step
  | _ => step.closing owned

/-- What the next receive at `side` gets of the bytes and descriptors sent to it. -/
def arrive (pair : SocketPair) (room : Nat) :
    Except IoError (Bytes × List Descriptor) × SocketPair :=
  match pair.endpoint side with
  | ⟨[], isOpen, true⟩ => (.error (.system 104), pair.setEndpoint ⟨[], isOpen, false⟩ side)
  | ⟨[], _, false⟩ =>
    if (pair.endpoint side.peer).isOpen then (.error (.system 11), pair) else (.ok ([], []), pair)
  | ⟨seg :: segs, isOpen, reset⟩ =>
    let taken := Channel.take room (seg :: segs)
    (.ok (taken.bytes, taken.rights), pair.setEndpoint ⟨taken.rest, isOpen, reset⟩ side)

/-- How many descriptors fit into the control data of a receive. -/
def capacity (maxFds : Nat) : Nat := (Control.space maxFds - Control.headerLen) / 4

/-- One receive of bytes and control data. Descriptors without room are closed, and then
the receive fails although its bytes are gone. -/
def receive (pair : SocketPair) (room maxFds : Nat) : Receipt SocketPair :=
  match pair.arrive side room with
  | (.error e, pair) => ⟨pair, [], .error (.receive (some e) none)⟩
  | (.ok (bytes, rights), pair) =>
    let fitting := rights.take (capacity maxFds)
    let surplus := rights.drop (capacity maxFds)
    { state := pair.discard surplus
      control := if fitting = [] then [] else Control.encodeRights fitting
      outcome := if surplus = [] then .ok bytes else .error (.ancillaryTruncated maxFds) }

/-- A receive whose control data, if there is any, is refused by the one it is handed to:
its descriptors are closed. -/
def receiveRefused (pair : SocketPair) (room maxFds : Nat) (refusal : IoError) :
    Receipt SocketPair :=
  let receipt := pair.receive side room maxFds
  if receipt.control = [] then receipt
  else
    { state := receipt.state.discard (Control.close receipt.control)
      control := []
      outcome := .error (.receive none (some refusal)) }

/-- A receive of bytes alone. Descriptors that come with them are closed. -/
def read (pair : SocketPair) (room : Nat) : Step SocketPair IoError Bytes :=
  match pair.arrive side room with
  | (.error e, pair) => .fail e pair
  | (.ok (bytes, rights), pair) => .done bytes (pair.discard rights)

/-- Close one end. -/
def close (pair : SocketPair) : SocketPair :=
  let own := pair.endpoint side
  let peer := pair.endpoint side.peer
  ((pair.setEndpoint { own with inbox := [], isOpen := false } side).setEndpoint
    { peer with reset := !own.inbox.isEmpty } side.peer).discard own.inbox.rights

theorem arrive_ok {pair after : SocketPair} {room : Nat} {bytes : Bytes}
    {rights : List Descriptor} (h : pair.arrive side room = (.ok (bytes, rights), after)) :
    bytes.length ≤ room ∧
      bytes.length + (after.endpoint side).inbox.size = (pair.endpoint side).inbox.size := by
  unfold arrive at h
  split at h
  · cases h
  · rename_i hown
    split at h <;> cases h
    simp
  · rename_i hown
    cases h
    simp only [endpoint_setEndpoint, hown]
    exact ⟨Channel.length_take_le _ _, Channel.size_take _ _⟩

theorem arrive_error {pair after : SocketPair} {room : Nat} {e : IoError}
    (h : pair.arrive side room = (.error e, after)) :
    e.isInterruption = false ∧
      (after.endpoint side).inbox.size = (pair.endpoint side).inbox.size := by
  unfold arrive at h
  split at h
  · rename_i hown
    cases h
    simp only [endpoint_setEndpoint, hown]
    exact ⟨rfl, trivial⟩
  · split at h <;> cases h
    exact ⟨rfl, rfl⟩
  · cases h

theorem not_interrupted_receive (pair : SocketPair) (room maxFds : Nat) :
    ¬ (pair.receive side room maxFds).Interrupted := by
  rcases harrive : pair.arrive side room with ⟨e | ⟨bytes, rights⟩, after⟩
  · simp [receive, harrive, Receipt.Interrupted, TransportError.toIo, (arrive_error side harrive).1]
  · by_cases hsurplus : rights.drop (capacity maxFds) = []
    · simp [receive, harrive, Receipt.Interrupted, hsurplus]
    · simp [receive, harrive, Receipt.Interrupted, hsurplus, TransportError.toIo,
        IoError.isInterruption, IoError.kind]

/-- One end as a stream to read from. -/
def source : FiniteSource SocketPair where
  receive := receive side
  patience _ := 0
  length_le pair room maxFds bytes h := by
    rcases harrive : pair.arrive side room with ⟨e | ⟨arrived, rights⟩, after⟩
    · simp [receive, harrive] at h
    · by_cases hsurplus : rights.drop (capacity maxFds) = []
      · simp only [receive, harrive, hsurplus, if_true, Except.ok.injEq] at h
        exact h ▸ (arrive_ok side harrive).1
      · simp [receive, harrive, hsurplus] at h
  patience_lt pair room maxFds h := absurd h (not_interrupted_receive side pair room maxFds)
  supply pair := (pair.endpoint side).inbox.size
  supply_le pair room maxFds := by
    rcases harrive : pair.arrive side room with ⟨e | ⟨bytes, rights⟩, after⟩
    · simp [receive, harrive, Receipt.delivered, (arrive_error side harrive).2]
    · have hsize := (arrive_ok side harrive).2
      by_cases hsurplus : rights.drop (capacity maxFds) = []
      · simp only [receive, harrive, Receipt.delivered, endpoint_discard, hsurplus, if_true]
        omega
      · simp only [receive, harrive, Receipt.delivered, endpoint_discard, hsurplus, if_false]
        omega

/-- One end as a stream to write to. -/
def sink : Sink SocketPair where
  send pair bytes attached := pair.send side bytes attached
  flush pair := .done () pair
  patience _ := 0
  send_le pair bytes attached n h := by
    unfold send at h
    split at h <;> try cases h
    split at h <;> try cases h
    split at h <;> cases h <;> simp
  send_patience_lt pair bytes attached e h he := by
    unfold send at h
    split at h
    · cases h
      exact absurd he (by decide)
    · split at h
      · cases h
        exact absurd he (by decide)
      · split at h <;> cases h
  flush_patience_lt pair e h he := by cases h

end

end SocketPair

end FramedWire
