import ByteStreams.Block
import ByteStreams.Channel.Read
import ByteStreams.Channel.Write
import ByteStreams.Copy
import ByteStreams.Copy.Options
import ByteStreams.Error.Symbol
import ByteStreams.Input.Chunks
import ByteStreams.Latency.Delays
import ByteStreams.Output.Append
import ByteStreams.Output.Counter
import ByteStreams.Output.Fixed
import ByteStreams.Proofs.Input.TowerReader
import ByteStreams.Proofs.Output.AppendFailure
import ByteStreams.Proofs.Output.FixedOverlay
import ByteStreams.Session.Run
import ByteStreams.Proofs.Input.Holdings
import ByteStreams.Proofs.Input.LastHandle
import ByteStreams.Proofs.Output.FixedFailure
import ByteStreams.Proofs.Input.Accounted
import ByteStreams.Proofs.Input.Sight
import ByteStreams.Proofs.Input.Reach
import ByteStreams.Proofs.Input.Interference
import ByteStreams.Proofs.Input.Confined
import ByteStreams.Proofs.Input.Requests
import ByteStreams.Proofs.Input.ChainReading
import ByteStreams.Proofs.Input.ReadingPaths
import ByteStreams.Proofs.Input.Draws
import ByteStreams.Proofs.ClosedStreams
import ByteStreams.Proofs.Output.Interchange
import ByteStreams.Proofs.Input.Cascade
import ByteStreams.Proofs.Input.Provenance
import ByteStreams.Proofs.Input.Unreliable
import ByteStreams.Proofs.Copy.Workers
import ByteStreams.Proofs.Input.Iteration
import ByteStreams.Proofs.Output.Growth
import ByteStreams.Proofs.Input.Chunking
import ByteStreams.Proofs.BlockHistory
import ByteStreams.Proofs.BufferLineage
import ByteStreams.Proofs.Input.Seeking
import ByteStreams.Proofs.Output.Reserving
