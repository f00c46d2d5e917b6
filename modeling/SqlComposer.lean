import SqlComposer.Database.Change
import SqlComposer.Database.Fetch
import SqlComposer.Database.WithTransaction
import SqlComposer.Failure.Make
import SqlComposer.Log.Console
import SqlComposer.Log.Desk
import SqlComposer.Record.Make
import SqlComposer.Rehearsal.World
import SqlComposer.Settings.Load
import SqlComposer.Sql.Literal
import SqlComposer.Sql.Token
import SqlComposer.Value.Json
import SqlComposer.Value.Tagged
import SqlComposer.Proofs.Placeholders
import SqlComposer.Proofs.Filters
import SqlComposer.Proofs.Screening
import SqlComposer.Proofs.Marks
import SqlComposer.Proofs.SingleStatement
import SqlComposer.Proofs.Handles
import SqlComposer.Proofs.WithTransaction
import SqlComposer.Proofs.Reports
import SqlComposer.Proofs.TableCreation
import SqlComposer.Proofs.NestedQueries
import SqlComposer.Proofs.SentOnce
import SqlComposer.Proofs.Discretion
import SqlComposer.Proofs.TableStatements
import SqlComposer.Proofs.ValueLists
import SqlComposer.Proofs.ValueOrder
import SqlComposer.Proofs.Markers
import SqlComposer.Proofs.SideBySide
import SqlComposer.Proofs.ReadNames
import SqlComposer.Proofs.BoundChanges
import SqlComposer.Proofs.RowBounds
import SqlComposer.Proofs.QuotedNames
import SqlComposer.Proofs.JsonConstructors
import SqlComposer.Proofs.ConditionHeads
import SqlComposer.Proofs.OrderTerms
import SqlComposer.Proofs.Retrying
import SqlComposer.Proofs.PauseSchedule
import SqlComposer.Proofs.NestedSpans
import SqlComposer.Proofs.QueryLogs
import SqlComposer.Proofs.JoinedFragments
import SqlComposer.Proofs.BareTexts
import SqlComposer.Proofs.Revalidation
import SqlComposer.Proofs.JsonReading
import SqlComposer.Proofs.LogLines
