import ConstitutionalSwarm.Apcc.Store.Invariant
import ConstitutionalSwarm.Apcc.Store.Totality
import ConstitutionalSwarm.Apcc.Store.Frame
import ConstitutionalSwarm.Apcc.DecodeCache
import ConstitutionalSwarm.Debate
import ConstitutionalSwarm.Mesh.Accountability
import ConstitutionalSwarm.Mesh.PeerRuns
import ConstitutionalSwarm.Gcb.Forgery
import ConstitutionalSwarm.Gcb.Revocation
import ConstitutionalSwarm.Mesh.Enrollment
import ConstitutionalSwarm.Mesh.JsonlRecovery
import ConstitutionalSwarm.Merkle.Convergence
import ConstitutionalSwarm.Gossip.ServerSafety
import ConstitutionalSwarm.Handoff.RoundTrip
import ConstitutionalSwarm.Apcc.Store.Delivery
import ConstitutionalSwarm.Apcc.StatusCodec
import ConstitutionalSwarm.Ipc.Authority
import ConstitutionalSwarm.ArtifactStore
import ConstitutionalSwarm.Mesh.OrphanReceipts
import ConstitutionalSwarm.Quorum.Transcripts
import ConstitutionalSwarm.Merkle.Order
