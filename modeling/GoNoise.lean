import GoNoise.Conn.Lifecycle
import GoNoise.Conn.RejectedWrites
import GoNoise.Conn.Retry
import GoNoise.Listener.Isolation
import GoNoise.NTCP2.FrameReads
import GoNoise.NTCP2.FramedStream
import GoNoise.Ratchet.Agreement
import GoNoise.Ratchet.Forgery
import GoNoise.Ratchet.Rotation
import GoNoise.Ratchet.SessionEviction
import GoNoise.Ratchet.SessionRuns
import GoNoise.SSU2.Handshake.ProcessMessages
import GoNoise.SSU2.Reliability.AckGuarantees
import GoNoise.SSU2.Reliability.CongestionControl
import GoNoise.SSU2.Reliability.RttEstimator
import GoNoise.SSU2.Server.AdmissionRuns
import GoNoise.SSU2.Server.SessionRouting
import GoNoise.SSU2.Session.AckedPayloads
import GoNoise.SSU2.Session.AddressBlocks
import GoNoise.SSU2.Session.HeaderAgreement
import GoNoise.SSU2.Session.Progress
import GoNoise.SSU2.Session.Reassembly
import GoNoise.SSU2.Session.RekeyStall
import GoNoise.SSU2.Session.SealedSends
import GoNoise.SSU2.Session.SignedBlocks
import GoNoise.SSU2.Session.WriteSizes
import GoNoise.SSU2.Wire.BlockOrder
import GoNoise.Shutdown
