import Conform.Session
import Conform.Resolve.Report
import Conform.Json.Reader
import Conform.Json.Operand
import Conform.Probe.Group
import Conform.Proofs.Extension
import Conform.Proofs.Endings
import Conform.Proofs.Merging
import Conform.Proofs.Stages
import Conform.Proofs.Valid
import Conform.Proofs.Failures
import Conform.Proofs.Compositions
import Conform.Proofs.Conservation
import Conform.Proofs.Deciding
import Conform.Proofs.Lossless
import Conform.Proofs.Likeness
import Conform.Proofs.Reordering
import Conform.Proofs.Texts
import Conform.Proofs.Agreement
import Conform.Proofs.Assertive
import Conform.Proofs.Counterparts
import Conform.Proofs.Soundness
import Conform.Proofs.Completeness
import Conform.Proofs.Filling
import Conform.Proofs.Turns
import Conform.Proofs.Idempotence
import Conform.Proofs.Barren
import Conform.Proofs.Steadfast
import Conform.Proofs.Vouching
import Conform.Proofs.Faultless
import Conform.Proofs.Totality
import Conform.Proofs.Entailment
import Conform.Proofs.Additive
import Conform.Proofs.Branches
import Conform.Proofs.Selections
import Conform.Proofs.Resolver
import Conform.Proofs.Asking
import Conform.Proofs.Performing
import Conform.Proofs.Guarding
import Conform.Proofs.Restoring
import Conform.Proofs.Ordinary
import Conform.Proofs.Prefixing
import Conform.Proofs.Relocation
import Conform.Proofs.Reporting
import Conform.Proofs.Conflicts
import Conform.Proofs.Descent
import Conform.Proofs.Leading
import Conform.Proofs.Surroundings
import Conform.Proofs.Tuples
import Conform.Proofs.Sameness
import Conform.Proofs.Dispatch
import Conform.Proofs.Addressing
import Conform.Proofs.Splitting
import Conform.Proofs.Exclusion
import Conform.Proofs.Permuting
import Conform.Proofs.Counting
import Conform.Proofs.Shallow
import Conform.Proofs.Noting
import Conform.Proofs.Lacking
import Conform.Proofs.Intersecting
import Conform.Proofs.Carrying
import Conform.Proofs.Waiving
import Conform.Proofs.Replacing
import Conform.Proofs.ReplacingMerged
import Conform.Proofs.ReplacingProbed
import Conform.Proofs.ReplacingResolved
import Conform.Proofs.Overriding
import Conform.Proofs.Overlaying
import Conform.Proofs.Referring
import Conform.Proofs.Rounding
import Conform.Proofs.Rereading
import Conform.Proofs.Equality
import Conform.Proofs.Firsts
import Conform.Proofs.Sifting
import Conform.Proofs.Formulas
import Conform.Proofs.Numerals
import Conform.Proofs.Divisibility
import Conform.Proofs.Bounds
import Conform.Proofs.Closest
