import ColdStore.Proofs.BatchIsolation
import ColdStore.Proofs.ByteRanges
import ColdStore.Proofs.CacheRebuild
import ColdStore.Proofs.Claims
import ColdStore.Proofs.ClusterNodes
import ColdStore.Proofs.Commands
import ColdStore.Proofs.ConcurrentUploads
import ColdStore.Proofs.DanglingEntries
import ColdStore.Proofs.Deletions
import ColdStore.Proofs.DriveLeases
import ColdStore.Proofs.Eviction
import ColdStore.Proofs.FailedUpload
import ColdStore.Proofs.Generations
import ColdStore.Proofs.Identifiers
import ColdStore.Proofs.Integrity
import ColdStore.Proofs.LifeCycles
import ColdStore.Proofs.LogEntries
import ColdStore.Proofs.Ownership
import ColdStore.Proofs.PageContents
import ColdStore.Proofs.ReadConditions
import ColdStore.Proofs.ReadIntegrity
import ColdStore.Proofs.RecallClaims
import ColdStore.Proofs.Recalls
import ColdStore.Proofs.RestoreQueries
import ColdStore.Proofs.RoundTrip
import ColdStore.Proofs.StagingPages
import ColdStore.Proofs.TapeDurability
import ColdStore.Proofs.TapeExclusivity
import ColdStore.Proofs.TapeReads
import ColdStore.Proofs.TapeUploads
import ColdStore.Proofs.Tapes
