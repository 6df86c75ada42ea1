import FramedWire.Main
import FramedWire.Proofs.RoundTrip
import FramedWire.Proofs.WireLanguage
import FramedWire.Sink.Script
import FramedWire.Source.Script
import FramedWire.Typed
import FramedWire.Proofs.Envelope
import FramedWire.Proofs.Chunking
import FramedWire.Proofs.Link
import FramedWire.Proofs.Delivery
import FramedWire.Proofs.Custody
import FramedWire.Proofs.Settlement
import FramedWire.Proofs.Lockstep
import FramedWire.Proofs.HexText
import FramedWire.Proofs.Rollback
import FramedWire.Proofs.Typability
import FramedWire.Proofs.Dumps
import FramedWire.Proofs.Receptions
import FramedWire.Proofs.Arrivals
import FramedWire.Proofs.Retries
import FramedWire.Proofs.Dispatch
import FramedWire.Proofs.Bounds
import FramedWire.Proofs.Extension
import FramedWire.Proofs.Counts
import FramedWire.Proofs.Finished
import FramedWire.Proofs.Stalls
import FramedWire.Proofs.SignatureText
import FramedWire.Proofs.ControlRoundTrip
import FramedWire.Proofs.ControlSpace
import FramedWire.Proofs.ControlWalk
import FramedWire.Proofs.FixedPoint
import FramedWire.Proofs.HexSpelling
import FramedWire.Proofs.Openings
import FramedWire.Proofs.ShownArgs
import FramedWire.Proofs.Tenancy
