import CachedDirectory.Authority.Unreliable
import CachedDirectory.Converter.Codec
import CachedDirectory.Filter.Codec
import CachedDirectory.Filter.Printer
import CachedDirectory.Live
import CachedDirectory.Memo.Codec
import CachedDirectory.Proofs.LatestRecords
import CachedDirectory.Proofs.LinkedIds
import CachedDirectory.Proofs.NestedGroups
import CachedDirectory.Proofs.OpenCursors
import CachedDirectory.Proofs.ResetGates
import CachedDirectory.Replica.Block
import CachedDirectory.Replica.Codec
import CachedDirectory.Sql.Codec
import CachedDirectory.Cursor.Channel
import CachedDirectory.Proofs.CursorAgreement
import CachedDirectory.Proofs.LargerMaps
import CachedDirectory.Proofs.RecencyOrder
import CachedDirectory.Proofs.Generations
import CachedDirectory.Proofs.FirstFaults
import CachedDirectory.Proofs.Complements
import CachedDirectory.Proofs.GroupClosures
import CachedDirectory.Proofs.WalkClosures
import CachedDirectory.Proofs.LikeLanguage
import CachedDirectory.Proofs.Compilation
import CachedDirectory.Proofs.UnchangedStores
import CachedDirectory.Proofs.SearchStatements
import CachedDirectory.Proofs.InlinedTexts
import CachedDirectory.Proofs.RemovalStatements
import CachedDirectory.Proofs.CopiedGroups
import CachedDirectory.Proofs.WholeCopies
import CachedDirectory.Proofs.RepeatedCalls
import CachedDirectory.Proofs.MemoAccounts
import CachedDirectory.Proofs.StreamDeliveries
import CachedDirectory.Proofs.JsonForms
import CachedDirectory.Proofs.WrittenMeanings
import CachedDirectory.Proofs.WaitedDelays
import CachedDirectory.Proofs.CheckedFilters
import CachedDirectory.Proofs.ConditionReadings
