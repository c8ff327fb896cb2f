import Placement.Cache
import Placement.Command.Arguments
import Placement.Command.Help
import Placement.Command.Program
import Placement.Command.Vocabulary
import Placement.Comparison
import Placement.Compilation
import Placement.ConstraintError
import Placement.Environment
import Placement.Evaluation
import Placement.Json.Quoted
import Placement.Json.Record
import Placement.Log.Event
import Placement.Log.Filter
import Placement.Main
import Placement.Node
import Placement.Number.Double
import Placement.Number.Numeral
import Placement.Operator
import Placement.Proofs.Annotation
import Placement.Proofs.Boundaries
import Placement.Proofs.Bytes
import Placement.Proofs.Canonical
import Placement.Proofs.Coherence
import Placement.Proofs.Collation
import Placement.Proofs.Composition
import Placement.Proofs.Conservation
import Placement.Proofs.Consumption
import Placement.Proofs.Dependence
import Placement.Proofs.Diagnosis
import Placement.Proofs.Discipline
import Placement.Proofs.Division
import Placement.Proofs.Equality
import Placement.Proofs.Escapes
import Placement.Proofs.Grammar
import Placement.Proofs.Hierarchy
import Placement.Proofs.Identity
import Placement.Proofs.Isolation
import Placement.Proofs.Json
import Placement.Proofs.JsonGrammar
import Placement.Proofs.Lexeme
import Placement.Proofs.LinearRun
import Placement.Proofs.Loading
import Placement.Proofs.LongestMatch
import Placement.Proofs.Lookup
import Placement.Proofs.Machine
import Placement.Proofs.Offsets
import Placement.Proofs.OrderedMap
import Placement.Proofs.Policies
import Placement.Proofs.Precedence
import Placement.Proofs.Reference
import Placement.Proofs.Repetition
import Placement.Proofs.Reporting
import Placement.Proofs.SmallSteps
import Placement.Proofs.Soundness
import Placement.Proofs.Spacing
import Placement.Proofs.Token
import Placement.Proofs.Transparency
import Placement.Proofs.Typing
import Placement.Proofs.Verdict
import Placement.Proofs.WrittenPath
import Placement.Property
import Placement.Scanner
import Placement.Session
import Placement.Text.Alphanumeric
import Placement.Text.Basic
import Placement.Text.Cluster
import Placement.Text.ClusterRole
import Placement.Text.Combining
import Placement.Text.Invisible
import Placement.Text.Quoted
import Placement.Text.Unprintable
import Placement.Text.WhiteSpace
import Placement.Uri
import Placement.Url
import Placement.Url.Authority
import Placement.Url.Host
import Placement.Url.Ipv4
import Placement.Url.Ipv6
import Placement.Url.Path
import Placement.Url.Percent
import Placement.Url.Scheme
import Placement.Value
