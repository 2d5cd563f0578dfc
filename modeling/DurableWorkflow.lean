import DurableWorkflow.Main
import DurableWorkflow.Store.Maintenance
import DurableWorkflow.Proofs.Engine.Beginnings
import DurableWorkflow.Proofs.Engine.Chronicle
import DurableWorkflow.Proofs.Engine.Delay
import DurableWorkflow.Proofs.Engine.RollingHour
import DurableWorkflow.Proofs.Graph.Pauses
import DurableWorkflow.Proofs.Graph.Courses
import DurableWorkflow.Proofs.Graph.Legs
import DurableWorkflow.Proofs.Graph.Walk
import DurableWorkflow.Proofs.Graph.Rollback
import DurableWorkflow.Proofs.Graph.Loops
import DurableWorkflow.Proofs.Engine.Times
import DurableWorkflow.Proofs.Engine.Effects
import DurableWorkflow.Proofs.Graph.Still
import DurableWorkflow.Proofs.Engine.Apart
import DurableWorkflow.Proofs.Engine.Refusals
import DurableWorkflow.Proofs.Engine.Rows
import DurableWorkflow.Proofs.Engine.Keeping
import DurableWorkflow.Proofs.Engine.Spoilt
import DurableWorkflow.Proofs.Graph.Reach
import DurableWorkflow.Proofs.Graph.Attempts
import DurableWorkflow.Proofs.Store.Tags
import DurableWorkflow.Proofs.Engine.NodeIds
import DurableWorkflow.Proofs.Graph.Halts
import DurableWorkflow.Proofs.Engine.Openings
import DurableWorkflow.Proofs.Action.Placeholders
import DurableWorkflow.Proofs.Settings.References
import DurableWorkflow.Proofs.Engine.Revisions
import DurableWorkflow.Proofs.Engine.Resuming
import DurableWorkflow.Proofs.Store.Census
import DurableWorkflow.Proofs.Condition.Paths
import DurableWorkflow.Proofs.Condition.Missing
import DurableWorkflow.Proofs.Condition.Integers
import DurableWorkflow.Proofs.Graph.Writes
import DurableWorkflow.Proofs.Retry
import DurableWorkflow.Proofs.Store.Timestamps
import DurableWorkflow.Proofs.Graph.Trials
