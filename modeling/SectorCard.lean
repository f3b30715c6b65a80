import SectorCard.Coupler.Operation
import SectorCard.Card.Operation
import SectorCard.Simulation.Ciphers
import SectorCard.Simulation.Desk
import SectorCard.Main
import SectorCard.Proofs.Rollback
import SectorCard.Proofs.KeyInForce
import SectorCard.Proofs.CacheTransparency
import SectorCard.Proofs.BlockArray
import SectorCard.Proofs.Installation
import SectorCard.Proofs.TrailerWrites
import SectorCard.Proofs.KeySlots
import SectorCard.Proofs.RememberedKey
import SectorCard.Proofs.Rejection
import SectorCard.Proofs.CachedKeys
import SectorCard.Proofs.TrailerRewrites
import SectorCard.Proofs.Restoring
import SectorCard.Proofs.TrailerCodec
import SectorCard.Proofs.PendingAuthentication
import SectorCard.Proofs.LoadedKey
import SectorCard.Proofs.CacheProvenance
import SectorCard.Proofs.Fragments
import SectorCard.Proofs.Exactness
import SectorCard.Proofs.PageStorage
import SectorCard.Proofs.SingleBlocks
import SectorCard.Proofs.SentCommands
import SectorCard.Service.Operation
import SectorCard.Proofs.HandleLifecycle
import SectorCard.Proofs.WrittenFront
import SectorCard.Proofs.RollbackBounds
import SectorCard.Proofs.ReaderNames
import SectorCard.Proofs.AccessCourse
import SectorCard.Proofs.WrittenPages
import SectorCard.Proofs.ScannedPages
import SectorCard.Proofs.DecryptedReads
import SectorCard.Proofs.BitErrors
import SectorCard.Proofs.Polling
import SectorCard.Proofs.Dump
import SectorCard.Proofs.UnreadableBlocks
import SectorCard.Proofs.TaskRuns
import SectorCard.Proofs.Numerals
import SectorCard.Proofs.TaskReports
import SectorCard.Proofs.Handovers
