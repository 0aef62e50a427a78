import RankTrace.Logging.Setup
import RankTrace.Proofs.Communicator.CachedError
import RankTrace.Proofs.Communicator.Family
import RankTrace.Proofs.Communicator.Owners
import RankTrace.Proofs.Communicator.Release
import RankTrace.Proofs.Config.Loaded
import RankTrace.Proofs.Control.Requests
import RankTrace.Proofs.Dump.Diagnostics
import RankTrace.Proofs.Dump.Operations
import RankTrace.Proofs.Dump.Options
import RankTrace.Proofs.Dump.Packed
import RankTrace.Proofs.Dump.Printed
import RankTrace.Proofs.Dump.Readings
import RankTrace.Proofs.Logging.Priority
import RankTrace.Proofs.Native.VersionCode
import RankTrace.Proofs.Session.Observers
import RankTrace.Proofs.Trace.Batch
import RankTrace.Proofs.Trace.Journal
import RankTrace.Proofs.Trace.Life
import RankTrace.Proofs.Trace.Unwinding
import RankTrace.Proofs.Trace.Verdict
import RankTrace.Session.ProcessState
import RankTrace.Session.Serving
import RankTrace.Session.Transcript
