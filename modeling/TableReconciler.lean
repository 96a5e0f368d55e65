import TableReconciler.CommandLine
import TableReconciler.LogFormat
import TableReconciler.Main
import TableReconciler.Workspace.InMemory
import TableReconciler.Proofs.Columns.Rules
import TableReconciler.Proofs.Columns.Spelling
import TableReconciler.Proofs.Comment.Literal
import TableReconciler.Proofs.Config.Nulls
import TableReconciler.Proofs.Lifecycle.Opening
import TableReconciler.Proofs.Lifecycle.Outcome
import TableReconciler.Proofs.Lifecycle.Sync
import TableReconciler.Proofs.Lifecycle.Update
import TableReconciler.Proofs.Plan.Comments
import TableReconciler.Proofs.Plan.Reported
import TableReconciler.Proofs.Plan.Settling
import TableReconciler.Proofs.Properties.Order
import TableReconciler.Proofs.Properties.Extended
import TableReconciler.Proofs.Executor.Detail
import TableReconciler.Proofs.Catalog.Clustering
import TableReconciler.Proofs.Comment.Escaping
import TableReconciler.Proofs.Text.Segments
import TableReconciler.Proofs.Properties.Assignments
import TableReconciler.Proofs.QualifiedName
import TableReconciler.Proofs.Reconciled.Rebuilt
import TableReconciler.Proofs.Workspace.Call
import TableReconciler.Proofs.CommandLine
import TableReconciler.Proofs.Directory
import TableReconciler.Proofs.LogFormat
