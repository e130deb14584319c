import SealedSync.Http.Backend
import SealedSync.Simulation.Perform
import SealedSync.Proofs.WipeDecision
import SealedSync.Proofs.CurrentKeys
import SealedSync.Proofs.Agreement
import SealedSync.Proofs.NewerFormat
import SealedSync.Proofs.SharedSession
import SealedSync.Proofs.Bookkeeping
import SealedSync.Proofs.CancelMoments
import SealedSync.Proofs.FatalReplies
import SealedSync.Proofs.HttpReplies
import SealedSync.Proofs.Companions
import SealedSync.Proofs.Itinerary
import SealedSync.Proofs.SharedKeyring
import SealedSync.Proofs.CachedKeys
import SealedSync.Proofs.Reopening
import SealedSync.Proofs.SealedBundle
import SealedSync.Proofs.PublishedRecords
import SealedSync.Proofs.Disclosure
import SealedSync.Proofs.KeySecrecy
import SealedSync.Proofs.Stages
import SealedSync.Proofs.RequestPaths
import SealedSync.Proofs.AtomicSave
import SealedSync.Proofs.SharedDisk
import SealedSync.Proofs.StandardTexts
import SealedSync.Proofs.MetadataAdditions
import SealedSync.Proofs.JsonTexts
import SealedSync.Proofs.LockedBundle
import SealedSync.Proofs.Outcomes
import SealedSync.Proofs.Delays
import SealedSync.Proofs.StateReload
import SealedSync.Proofs.RequestSubjects
import SealedSync.Proofs.Sealing
import SealedSync.Proofs.Engines
import SealedSync.Proofs.Fingerprint
