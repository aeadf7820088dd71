import OpenLLMOps.Framework.System
import OpenLLMOps.Framework.Json.Loads
import OpenLLMOps.ControlPlane.Leases
import OpenLLMOps.ControlPlane.LeaseTable
import OpenLLMOps.Vllm.Startable
import OpenLLMOps.Vllm.Injection
import OpenLLMOps.ControlPlane.Routes
import OpenLLMOps.ControlPlane.Reconciler
import OpenLLMOps.ControlPlane.System
import OpenLLMOps.ControlPlane.Effects
import OpenLLMOps.ControlPlane.Gateway
import OpenLLMOps.ControlPlane.LeaseAgreement
import OpenLLMOps.ControlPlane.Snapshots
import OpenLLMOps.ControlPlane.LateAnswer
import OpenLLMOps.ControlPlane.Fifo
import OpenLLMOps.ControlPlane.JobLifecycle
import OpenLLMOps.ControlPlane.Cancellation
import OpenLLMOps.Agent.Execute
import OpenLLMOps.Agent.Runner
import OpenLLMOps.Agent.Processor
import OpenLLMOps.Agent.Answers
import OpenLLMOps.Agent.Truthful
import OpenLLMOps.Agent.GpuExclusivity
import OpenLLMOps.Agent.Preemption
import OpenLLMOps.StartBinding
import OpenLLMOps.InOrder
import OpenLLMOps.Cluster
import OpenLLMOps.CleanupTarget
import OpenLLMOps.ModelImport.Jobs
import OpenLLMOps.ModelImport.Coordinators
import OpenLLMOps.ModelImport.CancelSticks
import OpenLLMOps.ModelImport.Recovery
import OpenLLMOps.ModelImport.Deployable
import OpenLLMOps.ModelImport.AllOrNothing
import OpenLLMOps.Agent.Natural
import OpenLLMOps.Agent.Replay
import OpenLLMOps.Agent.StateFile
import OpenLLMOps.Agent.Durable
import OpenLLMOps.Agent.Restart
import OpenLLMOps.NaturalSuccess
import OpenLLMOps.ModelImport.Validation
import OpenLLMOps.Training.Artifacts
import OpenLLMOps.Training.Metadata
import OpenLLMOps.Training.Observation
import OpenLLMOps.Evaluation.Samples
import OpenLLMOps.Evaluation.Scoring
import OpenLLMOps.Evaluation.Metrics
import OpenLLMOps.Evaluation.Inputs
import OpenLLMOps.Evaluation.PairReport
import OpenLLMOps.Evaluation.SuccessMetadata
import OpenLLMOps.Evaluation.Agreement
import OpenLLMOps.Datasets.Records
import OpenLLMOps.Datasets.Upload
import OpenLLMOps.Datasets.Accepted
import OpenLLMOps.Datasets.Exact
import OpenLLMOps.Datasets.Loaders
import OpenLLMOps.Datasets.Route
import OpenLLMOps.Framework.Json.Dumps
import OpenLLMOps.Evaluation.Workspace
import OpenLLMOps.Evaluation.Merging
import OpenLLMOps.Framework.Json.Utf8
import OpenLLMOps.Framework.Chunks
import OpenLLMOps.Frontend.Sse
import OpenLLMOps.ModelImport.GitRefs
import OpenLLMOps.Framework.Tiling
import OpenLLMOps.ModelImport.Safetensors
import OpenLLMOps.Scheduling
import OpenLLMOps.ModelImport.Shards
import OpenLLMOps.Training.Export
import OpenLLMOps.Training.Fingerprint
import OpenLLMOps.Training.Copying
import OpenLLMOps.Training.Publication
import OpenLLMOps.Training.Publishing
import OpenLLMOps.Evaluation.Benchmarks
import OpenLLMOps.Evaluation.Packaging
import OpenLLMOps.Framework.Json.RoundTrip
import OpenLLMOps.Framework.Channel
import OpenLLMOps.Framework.Json.Sorted
import OpenLLMOps.Channel.Messages
import OpenLLMOps.Channel.Exchange
import OpenLLMOps.Evaluation.Prepared
import OpenLLMOps.Evaluation.Preparing
import OpenLLMOps.Framework.BaseModel
import OpenLLMOps.Framework.Json.Objects
import OpenLLMOps.Training.Config
import OpenLLMOps.Training.ConfigFile
import OpenLLMOps.Training.DatasetInfo
import OpenLLMOps.Evaluation.Scored
