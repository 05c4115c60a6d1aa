import ProviderRouting.Engine.Document
import ProviderRouting.Engine.Script
import ProviderRouting.Files.Disk
import ProviderRouting.Health.Document
import ProviderRouting.Main
import ProviderRouting.Metrics.Document
import ProviderRouting.Plan.Document
import ProviderRouting.Sharing.Cluster
import ProviderRouting.Sources.ProductionLines
import ProviderRouting.Proofs.Breaker.Admission
import ProviderRouting.Proofs.Breaker.Window
import ProviderRouting.Proofs.Breaker.Opening
import ProviderRouting.Proofs.Engine.RunShape
import ProviderRouting.Proofs.Engine.Books
import ProviderRouting.Proofs.Engine.Interleaving
import ProviderRouting.Proofs.Breaker.Staleness
import ProviderRouting.Proofs.Breaker.Traffic
import ProviderRouting.Proofs.Number.TotalOrder
import ProviderRouting.Proofs.Plan.Planning
import ProviderRouting.Proofs.Sharing.Clustering
import ProviderRouting.Proofs.Breaker.Resolution
import ProviderRouting.Proofs.Breaker.Glances
import ProviderRouting.Proofs.Engine.Observation
import ProviderRouting.Proofs.Sharing.Publishing
import ProviderRouting.Proofs.Breaker.Integrity
import ProviderRouting.Proofs.Breaker.Isolation
import ProviderRouting.Proofs.Engine.Abandonment
import ProviderRouting.Proofs.Metrics.TextFormat
import ProviderRouting.Proofs.Metrics.ExportLines
import ProviderRouting.Proofs.Metrics.Legibility
import ProviderRouting.Proofs.Breaker.RetryTimes
import ProviderRouting.Proofs.Breaker.Deadlines
import ProviderRouting.Proofs.Sharing.Pulling
import ProviderRouting.Proofs.Plan.Reordering
import ProviderRouting.Proofs.Breaker.Governance
import ProviderRouting.Proofs.Engine.ProbeSlots
import ProviderRouting.Proofs.Engine.Outages
import ProviderRouting.Proofs.Engine.Verdicts
import ProviderRouting.Proofs.Catalog.Contents
import ProviderRouting.Proofs.Catalog.Snapshots
import ProviderRouting.Proofs.Catalog.Replacement
import ProviderRouting.Proofs.Configuration.Layering
import ProviderRouting.Proofs.Engine.Creation
import ProviderRouting.Proofs.Number.Comparison
import ProviderRouting.Proofs.Metrics.Percentiles
import ProviderRouting.Proofs.Sources.CommentedLines
import ProviderRouting.Proofs.Sources.Comments
import ProviderRouting.Proofs.Sharing.Confinement
import ProviderRouting.Proofs.Configuration.Validity
import ProviderRouting.Proofs.Engine.Smoothing
import ProviderRouting.Proofs.Files.Places
import ProviderRouting.Proofs.Sharing.EntryPlaces
import ProviderRouting.Proofs.Sources.Coverage
