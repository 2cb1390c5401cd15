import CveTriage.Text
import CveTriage.Version
import CveTriage.Package
import CveTriage.Time
import CveTriage.Feed
import CveTriage.Host
import CveTriage.Index.Build
import CveTriage.Evaluation.Grouping
import CveTriage.Evaluation.Matcher
import CveTriage.Evaluation.Evaluate
import CveTriage.Json.Value
import CveTriage.Codec
import CveTriage.Json.Parser
import CveTriage.Toml.Value
import CveTriage.Toml.Parser
import CveTriage.Settings
import CveTriage.CommandLine.Surroundings
import CveTriage.CommandLine.FileTree
import CveTriage.CommandLine.Session
import CveTriage.CommandLine.Program
import CveTriage.Index.Shared
import CveTriage.Main
import CveTriage.Proofs.Json.Literal
import CveTriage.Proofs.Json.Layout
import CveTriage.Proofs.Codec.Record
import CveTriage.Proofs.Listing
import CveTriage.Proofs.Index.Build
import CveTriage.Proofs.Index.Records
import CveTriage.Proofs.Codec.RoundTrip
import CveTriage.Proofs.CommandLine.FileTree
import CveTriage.Proofs.Evaluation.Grouping
import CveTriage.Proofs.Passes.Placement
import CveTriage.Proofs.Passes.Evidence
import CveTriage.Proofs.Passes.Growth
import CveTriage.Proofs.Evaluation.Classification
import CveTriage.Proofs.CommandLine.Batch
import CveTriage.Proofs.Criteria.Derivation
import CveTriage.Proofs.Version.Token
import CveTriage.Proofs.Version.Preorder
import CveTriage.Proofs.Criteria.Downgrade
import CveTriage.Proofs.Evaluation.Failure
import CveTriage.Proofs.Evaluation.Monotone
import CveTriage.Proofs.Evaluation.Noninterference
import CveTriage.Proofs.Evaluation.Resolution
import CveTriage.Proofs.Passes.Offers
import CveTriage.Proofs.Evaluation.Invariance
import CveTriage.Proofs.Index.Arena
import CveTriage.Proofs.Package.Grammar
import CveTriage.Proofs.Package.RoundTrip
import CveTriage.Proofs.Passes.Contribution
import CveTriage.Proofs.Passes.Skipping
import CveTriage.Proofs.Renumbering.Index
import CveTriage.Proofs.Renumbering.Stages
import CveTriage.Proofs.Renumbering.Evaluation
import CveTriage.Proofs.Version.Comparison
