import FramedWire.Reader.Progress
import FramedWire.Report

/-!
# Receptions

Reporting what clients send, one client after the other, until as many messages were
reported as asked for. A message of which no report can be made is skipped and not
counted. A client may leave on a message boundary; whatever else ends its stream ends the
reception.
-/
namespace FramedWire

/-- How the service of one client ended. -/
inductive Ending where
  /-- It left on a message boundary. -/
  | left
  /-- As many messages were reported as asked for. -/
  | satisfied
  | failed (e : CommandError)
  deriving DecidableEq, Repr

structure Service (σ : Type) where
  reports : List Report
  ending : Ending
  /-- The connection as far as it was read. -/
  connection : σ
  closed : List Descriptor := []

/-- The outcome of a reception; without a result it waits for another client. -/
structure Reception (σ : Type) where
  reports : List Report
  result? : Option (Except CommandError Unit)
  /-- The connections that clients have not left: the one that was served in the end, and those
  that were not looked at. -/
  connections : List σ
  closed : List Descriptor := []

section

variable {σ : Type}

/-- What happened before the rest. -/
def Service.after (reports : List Report) (closed : List Descriptor) (s : Service σ) : Service σ :=
  { s with reports := reports ++ s.reports, closed := closed ++ s.closed }

/-- What happened before the rest. -/
def Reception.after (reports : List Report) (closed : List Descriptor) (r : Reception σ) :
    Reception σ := { r with reports := reports ++ r.reports, closed := closed ++ r.closed }

end

namespace Reception

variable {σ : Type} (src : FiniteSource σ) (config : FrameConfig) (sig? : Option Signature)
  (count? : Option Nat)

/-- Whether `printed` reports are as many as asked for. -/
def isEnough (printed : Nat) : Bool := count?.any (· ≤ printed)

/-- Serve one client, after `printed` reports for those before it. -/
def serve (printed : Nat) (s : σ) : Service σ :=
  let step := Reader.readMessage src.toSource config s
  match _hread : step.result with
  | .error .connectionClosed => ⟨[], .left, step.state, step.closed⟩
  | .error e => ⟨[], .failed (.ofFrame "receive failed" e), step.state, step.closed⟩
  | .ok m =>
    let ended := Report.ofMessage m sig?
    let closed := step.closed ++ ended.closed
    match ended.result with
    | .error _ => (serve printed step.state).after [] closed
    | .ok report =>
      if isEnough count? (printed + 1) then ⟨[report], .satisfied, step.state, closed⟩
      else (serve (printed + 1) step.state).after [report] closed
termination_by src.supply s
decreasing_by all_goals exact Reader.supply_readMessage_lt src _hread

/-- Serve the clients in turn, after `printed` reports. -/
def run (printed : Nat) : List σ → Reception σ
  | [] => ⟨[], none, [], []⟩
  | client :: clients =>
    let service := serve src config sig? count? printed client
    match service.ending with
    | .satisfied =>
      ⟨service.reports, some (.ok ()), service.connection :: clients, service.closed⟩
    | .failed e =>
      ⟨service.reports, some (.error e), service.connection :: clients, service.closed⟩
    | .left =>
      (run (printed + service.reports.length) clients).after service.reports service.closed

end Reception

end FramedWire
