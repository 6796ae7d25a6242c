import MappingPlan.Catalog
import MappingPlan.Catalog.Definition
import MappingPlan.Catalog.Draft
import MappingPlan.Decimal
import MappingPlan.Directive
import MappingPlan.Expr
import MappingPlan.Plan
import MappingPlan.Resolution
import MappingPlan.Source
import MappingPlan.Ty
import MappingPlan.Proofs.Catalog.Closing
import MappingPlan.Proofs.Catalog.Coherence
import MappingPlan.Proofs.Catalog.Extension
import MappingPlan.Proofs.Catalog.History
import MappingPlan.Proofs.Catalog.Index
import MappingPlan.Proofs.Catalog.Naming
import MappingPlan.Proofs.Catalog.Renumbered
import MappingPlan.Proofs.Catalog.Reordered
import MappingPlan.Proofs.Catalog.Scan
import MappingPlan.Proofs.Catalog.Withdrawal
import MappingPlan.Proofs.Directive.Collected
import MappingPlan.Proofs.Directive.Edit
import MappingPlan.Proofs.Directive.Grammar
import MappingPlan.Proofs.Directive.Nodes
import MappingPlan.Proofs.Directive.Rejection
import MappingPlan.Proofs.Directive.Remainder
import MappingPlan.Proofs.Directive.Renumbered
import MappingPlan.Proofs.Directive.Shape
import MappingPlan.Proofs.Directive.Spelling
import MappingPlan.Proofs.Directive.StatementOrder
import MappingPlan.Proofs.Lockstep
import MappingPlan.Proofs.Parts
import MappingPlan.Proofs.Plan.Choice
import MappingPlan.Proofs.Plan.Findings
import MappingPlan.Proofs.Plan.Renumbered
import MappingPlan.Proofs.Plan.Report
import MappingPlan.Proofs.Plan.Review
import MappingPlan.Proofs.Plan.Routes
import MappingPlan.Proofs.Resolution.Accounting
import MappingPlan.Proofs.Resolution.Batch
import MappingPlan.Proofs.Resolution.Construction
import MappingPlan.Proofs.Resolution.Enumeration
import MappingPlan.Proofs.Resolution.Extension
import MappingPlan.Proofs.Resolution.Failing
import MappingPlan.Proofs.Resolution.Location
import MappingPlan.Proofs.Resolution.Mismatch
import MappingPlan.Proofs.Resolution.Nullability
import MappingPlan.Proofs.Resolution.Ownership
import MappingPlan.Proofs.Resolution.PolicyOrder
import MappingPlan.Proofs.Resolution.Rearrangement
import MappingPlan.Proofs.Resolution.Renumbering
import MappingPlan.Proofs.Resolution.Respelling
import MappingPlan.Proofs.Resolution.Selection
import MappingPlan.Proofs.Resolution.SingleLevel
import MappingPlan.Proofs.Resolution.Stages
import MappingPlan.Proofs.Source.Contribution
import MappingPlan.Proofs.Source.NestedCall
import MappingPlan.Proofs.Source.Unreadable
import MappingPlan.Proofs.Ty.Layers
import MappingPlan.Proofs.Ty.Preorder
