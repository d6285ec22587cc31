import SerialLink.Device
import SerialLink.Line.Duplex
import SerialLink.Sample
import SerialLink.Settings.ConnectionString
import SerialLink.Stream.Loopback
import SerialLink.Stream.Pieces
import SerialLink.Stream.Segmentation
import SerialLink.Polled.Session
import SerialLink.Recording.File
import SerialLink.Proofs.Stream.RoundTrip
import SerialLink.Proofs.History
import SerialLink.Proofs.Line.Receiving
import SerialLink.Proofs.Line.Lossless
import SerialLink.Proofs.Polled.Calls
import SerialLink.Proofs.Connection
import SerialLink.Proofs.Client
import SerialLink.Proofs.Device.Requests
import SerialLink.Proofs.Device.Bench
import SerialLink.Proofs.Uncorrupted
import SerialLink.Proofs.Line.Conservation
import SerialLink.Proofs.Line.Writing
import SerialLink.Proofs.Sending
import SerialLink.Proofs.Closing
import SerialLink.Proofs.Patience
import SerialLink.Proofs.Timeout
import SerialLink.Proofs.Accounting
import SerialLink.Proofs.Polled.Handouts
import SerialLink.Proofs.Line.Deadlines
import SerialLink.Proofs.Device.Serving
import SerialLink.Proofs.Device.Dialogue
import SerialLink.Proofs.Device.Answering
import SerialLink.Proofs.Device.Completion
import SerialLink.Proofs.Device.Cycles
import SerialLink.Proofs.Frame.Format
import SerialLink.Proofs.Line.Directions
import SerialLink.Proofs.Device.Terminal
import SerialLink.Proofs.Device.Hub
import SerialLink.Proofs.Device.Streams
import SerialLink.Proofs.Stream.Switching
import SerialLink.Proofs.Recording.Grammar
import SerialLink.Proofs.Settings.Grammar
import SerialLink.Proofs.Settings.Writing
import SerialLink.Proofs.Settings.Numbers
import SerialLink.Proofs.Stream.Boundaries
import SerialLink.Proofs.Stream.Loopback
import SerialLink.Proofs.Polled.Bookkeeping
import SerialLink.Proofs.Polled.Draining
import SerialLink.Proofs.Frame.Reading
import SerialLink.Proofs.Device.Resolving
import SerialLink.Proofs.Stream.Pieces
import SerialLink.Proofs.Stream.Representation
