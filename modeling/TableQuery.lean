import TableQuery.Proofs.Accounting
import TableQuery.Proofs.Facets
import TableQuery.Proofs.Handles
import TableQuery.Proofs.QueryReading
import TableQuery.Session
import TableQuery.Proofs.Confinement
import TableQuery.Proofs.Offences
import TableQuery.Proofs.Splitting
import TableQuery.Proofs.Observers
import TableQuery.Proofs.Routing
import TableQuery.Proofs.Rebuilding
import TableQuery.Proofs.Acceptance
import TableQuery.Proofs.Accumulation
import TableQuery.Proofs.CustomParameters
import TableQuery.Proofs.Chronology
import TableQuery.Proofs.FloatLiterals
import TableQuery.Proofs.WidenedNumbers
import TableQuery.Proofs.Loosening
import TableQuery.Proofs.Mentions
import TableQuery.Proofs.Equality
import TableQuery.Proofs.WireNames
import TableQuery.Proofs.LoadedLimits
import TableQuery.Proofs.Standalone
