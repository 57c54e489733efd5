import SqlPlan.Binding
import SqlPlan.Main
import SqlPlan.Phrase
import SqlPlan.Proofs.Binding
import SqlPlan.Proofs.Check
import SqlPlan.Proofs.Compile.Alignment
import SqlPlan.Proofs.Compile.Counting
import SqlPlan.Proofs.Compile.Fragment
import SqlPlan.Proofs.Compile.Growth
import SqlPlan.Proofs.Compile.Labels
import SqlPlan.Proofs.Compile.Masking
import SqlPlan.Proofs.Compile.Pruning
import SqlPlan.Proofs.Compile.Relation
import SqlPlan.Proofs.Compile.Scope
import SqlPlan.Proofs.Compile.Segments
import SqlPlan.Proofs.Compile.Spelling
import SqlPlan.Proofs.Entity.Address
import SqlPlan.Proofs.Json.Merge
import SqlPlan.Proofs.Membership
import SqlPlan.Proofs.Paging.Scope
import SqlPlan.Proofs.Paging.Tiling
import SqlPlan.Proofs.Plan
import SqlPlan.Proofs.Settings
import SqlPlan.Proofs.Sql.Numbering
import SqlPlan.Proofs.Sql.Separated
