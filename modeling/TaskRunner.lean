import TaskRunner.Main
import TaskRunner.Proofs.Application
import TaskRunner.Proofs.Execution.Confluence
import TaskRunner.Proofs.Execution.Protocol
import TaskRunner.Proofs.Execution.Rebuild
import TaskRunner.Proofs.Execution.Sequential
import TaskRunner.Proofs.Plan.PostOrder
import TaskRunner.Proofs.Session.Record
import TaskRunner.Proofs.Variable.Concatenation
import TaskRunner.Proofs.Variable.Literal
import TaskRunner.Proofs.Variable.Locality
import TaskRunner.Proofs.Staleness.Reason
import TaskRunner.Proofs.Plan.Composition
import TaskRunner.Proofs.Project.Validation
import TaskRunner.Proofs.Calendar
import TaskRunner.Proofs.Json.RoundTrip
import TaskRunner.Proofs.Timestamp
import TaskRunner.Proofs.FileSystem
import TaskRunner.Proofs.Session.Encoding
import TaskRunner.Proofs.Session.Storage
import TaskRunner.Proofs.Execution.Exactness
import TaskRunner.Proofs.Execution.Scan
import TaskRunner.Proofs.Registry
import TaskRunner.Proofs.Override
import TaskRunner.Proofs.CommandLine.Precedence
import TaskRunner.Proofs.Project.Phase
import TaskRunner.Proofs.Session.Interleaving
import TaskRunner.Proofs.Runfile.Fields
import TaskRunner.Proofs.Runfile.Schema
import TaskRunner.Proofs.Session.Summary
