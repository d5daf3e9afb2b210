import QueryDesk.Main
import QueryDesk.Editor.Step
import QueryDesk.Grid.Column
import QueryDesk.Sqlite.Script
import QueryDesk.Proofs.Execution.Supersession
import QueryDesk.Proofs.Execution.Standing
import QueryDesk.Proofs.History.Retention
import QueryDesk.Proofs.Completion.Occurrence
import QueryDesk.Proofs.Completion.Scan
import QueryDesk.Proofs.Completion.Assembly
import QueryDesk.Proofs.Completion.WordRange
import QueryDesk.Proofs.Completion.Separation
import QueryDesk.Proofs.Completion.Placement
import QueryDesk.Proofs.Completion.Lead
import QueryDesk.Proofs.History.Recall
import QueryDesk.Proofs.Editor.Popup
import QueryDesk.Proofs.Editor.Acceptance
import QueryDesk.Proofs.Storage.Reload
import QueryDesk.Proofs.Storage.Atomicity
import QueryDesk.Proofs.Session.Publication
import QueryDesk.Proofs.Session.SharedRing
import QueryDesk.Proofs.Execution.Notices
import QueryDesk.Proofs.Session.Returning
import QueryDesk.Proofs.Editor.Dismissal
import QueryDesk.Proofs.Editor.Visibility
import QueryDesk.Proofs.Sqlite.Transactions
import QueryDesk.Proofs.Execution.Subscriptions
import QueryDesk.Proofs.Execution.Cancellation
import QueryDesk.Proofs.History.Rewriting
import QueryDesk.Proofs.Editor.CursorMoves
import QueryDesk.Proofs.Sqlite.Fetching
import QueryDesk.Proofs.Sqlite.Failing
import QueryDesk.Proofs.Report.Alignment
import QueryDesk.Proofs.History.Keeping
import QueryDesk.Proofs.Session.Seeding
import QueryDesk.Proofs.Report.Records
import QueryDesk.Proofs.Json.Decoding
import QueryDesk.Proofs.Report.Objects
import QueryDesk.Proofs.CommandLine.Querying
import QueryDesk.Proofs.CommandLine.Operands
import QueryDesk.Proofs.CommandLine.FlagValues
import QueryDesk.Proofs.Settings
import QueryDesk.Proofs.Schema.Refreshing
import QueryDesk.Proofs.Sqlite.Connections
import QueryDesk.Proofs.Editor.Selecting
import QueryDesk.Proofs.Sqlite.Identifiers
