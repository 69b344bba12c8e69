import Readiness.Proofs.Poll.Cancellation
import Readiness.Proofs.Poll.Immediate
import Readiness.Proofs.Poll.LongerTimeout
import Readiness.Proofs.Poll.Verdict
import Readiness.Proofs.Scenario.SharedProject
import Readiness.Rehearsal.Waiting
import Readiness.Rehearsal.World
import Readiness.Proofs.Poll.Attribution
import Readiness.Proofs.Json.Path.Grammar
import Readiness.Proofs.Cluster.Backends
import Readiness.Proofs.Api.KnownKinds
import Readiness.Proofs.Program.Record
import Readiness.Proofs.Json.Path.Composition
import Readiness.Proofs.Poll.Asking
import Readiness.Proofs.Scenario.Tasks
import Readiness.Proofs.Scenario.Confinement
import Readiness.Proofs.Scenario.PodSet
import Readiness.Proofs.Scenario.Effects
import Readiness.Proofs.Scenario.History
import Readiness.Proofs.Scenario.InstancePod
import Readiness.Proofs.Program.Waits
import Readiness.Proofs.Program.Simulation
import Readiness.Proofs.Poll.Single
import Readiness.Proofs.Scenario.Phrases
import Readiness.Proofs.Scenario.Refusal
import Readiness.Proofs.Scenario.PodsRunning
import Readiness.Proofs.Api.Discoveries
import Readiness.Proofs.Json.Path.Escaping
import Readiness.Proofs.Json.Path.Braces
import Readiness.Proofs.Scenario.Containers
import Readiness.Proofs.Cli.Absence
import Readiness.Proofs.Cli.Listing
import Readiness.Proofs.Poll.Check
import Readiness.Proofs.Api.Catalog
import Readiness.Proofs.Api.MalformedPath
import Readiness.Proofs.Poll.AnyOrder
import Readiness.Proofs.Poll.ReportText
import Readiness.Proofs.Scenario.NameList
import Readiness.Proofs.Scenario.StartedBuild
