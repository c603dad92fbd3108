import QuorumProof.Contract.RevocationCache
import QuorumProof.Contract.SubjectIndex
import QuorumProof.Contract.DuplicateKey
import QuorumProof.Contract.BatchAttest
import QuorumProof.Contract.AttestedWeight
import QuorumProof.Contract.DecisionAgreement
import QuorumProof.Contract.CacheCoherence
import QuorumProof.Contract.Punishment
import QuorumProof.Contract.Stakes
import QuorumProof.Contract.Delegation
import QuorumProof.Contract.RateLimit
import QuorumProof.Contract.PauseSafety
import QuorumProof.Contract.Intersection
import QuorumProof.Contract.AttestationRequests
import QuorumProof.Contract.Recovery
import QuorumProof.Contract.Quota
import QuorumProof.Sbt.Soulbound
import QuorumProof.Sbt.Delegations
import QuorumProof.Sbt.Blacklist
import QuorumProof.Sbt.Clawbacks
import QuorumProof.Sbt.Staleness
import QuorumProof.Bbs.Extraction
import QuorumProof.Zk.PlonkCompleteness
import QuorumProof.Zk.Sessions
import QuorumProof.Contract.TransferConsent
import QuorumProof.Contract.EscrowRecovery
import QuorumProof.Contract.Vetoes
import QuorumProof.Server.LogDurability
import QuorumProof.Server.AnchorChecks
import QuorumProof.Contract.NonRevocation
import QuorumProof.Contract.Threshold
import QuorumProof.Sbt.Pause
import QuorumProof.Zk.Pause
import QuorumProof.Contract.Insurance
import QuorumProof.Contract.AttestationCount
import QuorumProof.Contract.MigrationChunks
import QuorumProof.Contract.ForkEvidence
import QuorumProof.Server.RequestSigning
import QuorumProof.Contract.ShareLinks
import QuorumProof.Sbt.BatchMint
import QuorumProof.Contract.Congestion
import QuorumProof.Contract.IssuanceConsent
import QuorumProof.Zk.SingleUse
import QuorumProof.Beacon.PartialUpdates
import QuorumProof.Sbt.UpgradeChains
import QuorumProof.Beacon.Branches
import QuorumProof.Server.WebhookBreaker
import QuorumProof.Bbs.Binding
import QuorumProof.Bbs.Precomputation
