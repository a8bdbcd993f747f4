import RecordStore.Filter.Compile
import RecordStore.Model.Samples
import RecordStore.Order.Term
import RecordStore.Page
import RecordStore.Text.Blank
import RecordStore.Sql.TableDefinition
import RecordStore.Config.Pool
import RecordStore.Config.Url
import RecordStore.Connection.Local
import RecordStore.Rehearsal.Connection
import RecordStore.Rehearsal.Session
import RecordStore.Repository
import RecordStore.Proofs.LiteralPattern
import RecordStore.Proofs.Bindings
import RecordStore.Proofs.RoundedQuotient
import RecordStore.Proofs.RoundedOrder
import RecordStore.Proofs.PageWindows
import RecordStore.Proofs.WindowReading
import RecordStore.Proofs.RefusedReads
import RecordStore.Proofs.ExactNumbers
import RecordStore.Proofs.Flushing
import RecordStore.Proofs.Listings
import RecordStore.Proofs.Paging
import RecordStore.Proofs.CellOrder
import RecordStore.Proofs.FilterMeaning
import RecordStore.Proofs.FilteredLists
import RecordStore.Proofs.LikeSearch
import RecordStore.Proofs.AllOrNothing
import RecordStore.Proofs.SharedRestriction
import RecordStore.Proofs.BoundTexts
import RecordStore.Proofs.RestrictionReading
import RecordStore.Proofs.RecordMap
import RecordStore.Proofs.RowChanges
import RecordStore.Proofs.PositiveIdentities
import RecordStore.Proofs.WatchedSessions
import RecordStore.Proofs.UnitProtocol
import RecordStore.Proofs.HostedRecords
import RecordStore.Proofs.RolledBackRecords
import RecordStore.Proofs.FoundOrCreated
import RecordStore.Proofs.ToldFailures
import RecordStore.Proofs.PresentFields
import RecordStore.Proofs.SharedFields
import RecordStore.Proofs.SortTerms
import RecordStore.Proofs.DeclaredFields
import RecordStore.Proofs.SingleValues
import RecordStore.Proofs.SavedValues
import RecordStore.Proofs.EngineLifetimes
import RecordStore.Proofs.Registrations
import RecordStore.Proofs.ZoneStatements
