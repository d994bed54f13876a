import SqlBuilder.Build.Plan
import SqlBuilder.Derive.Derived
import SqlBuilder.Derive.TypeText
import SqlBuilder.Session.Recorder
import SqlBuilder.Session.Script
import SqlBuilder.Settings
import SqlBuilder.Proofs.Sql.Replacement
import SqlBuilder.Proofs.Sql.Region
import SqlBuilder.Proofs.Sql.Resolution
import SqlBuilder.Proofs.Session.Life
import SqlBuilder.Proofs.Session.Closing
import SqlBuilder.Proofs.Session.Outcome
import SqlBuilder.Proofs.Session.Commitment
import SqlBuilder.Proofs.Sql.Agreement
import SqlBuilder.Proofs.Sql.Closed
import SqlBuilder.Proofs.Sql.Qualifier
import SqlBuilder.Proofs.Build.Declared
import SqlBuilder.Proofs.Build.Commuting
import SqlBuilder.Proofs.Derive.RowBuilder
import SqlBuilder.Proofs.Sql.Slot
import SqlBuilder.Proofs.Session.Sending
import SqlBuilder.Proofs.Build.Rows
import SqlBuilder.Proofs.Sql.Scan
import SqlBuilder.Proofs.Build.Filtering
import SqlBuilder.Proofs.Sql.Ordering
import SqlBuilder.Proofs.Session.Logging
import SqlBuilder.Proofs.Session.Failure
import SqlBuilder.Proofs.Reading.Taking
import SqlBuilder.Proofs.Reading.Rewriting
import SqlBuilder.Proofs.Session.Fetching
import SqlBuilder.Proofs.Build.Paging
import SqlBuilder.Proofs.Settings
import SqlBuilder.Proofs.Derive.Enumeration
import SqlBuilder.Proofs.Sql.Frame
