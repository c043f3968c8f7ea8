import StreamPlan.CommandLine.Arguments
import StreamPlan.CommandLine.Run
import StreamPlan.Config.Basic
import StreamPlan.Config.Fault
import StreamPlan.Config.Flatten
import StreamPlan.Config.Properties
import StreamPlan.Data.SortedMap
import StreamPlan.Decimal.Binary64
import StreamPlan.Decimal.Number
import StreamPlan.Decimal.Scaled
import StreamPlan.Decimal.Shortest
import StreamPlan.Decimal.Style
import StreamPlan.Decode.Fault
import StreamPlan.Digest.Blake3
import StreamPlan.Digest.Fingerprint
import StreamPlan.Error
import StreamPlan.Job.Compile
import StreamPlan.Job.Mode
import StreamPlan.Job.Statements
import StreamPlan.Json.Basic
import StreamPlan.Json.Decode
import StreamPlan.Json.Parser
import StreamPlan.Json.Printer
import StreamPlan.Json.Shown
import StreamPlan.Locality.Log
import StreamPlan.Locality.Manager
import StreamPlan.Locality.Message
import StreamPlan.Main
import StreamPlan.Operator.Basic
import StreamPlan.Operator.Fault
import StreamPlan.Operator.Graph
import StreamPlan.Operator.Join
import StreamPlan.Operator.Lowering
import StreamPlan.Operator.Summary
import StreamPlan.Plan.Basic
import StreamPlan.Plan.Definition
import StreamPlan.Plan.Fault
import StreamPlan.Plan.Roles
import StreamPlan.Plan.Single
import StreamPlan.Plan.Statements
import StreamPlan.Plan.Stored
import StreamPlan.Plan.Written
import StreamPlan.Stream.Registry
import StreamPlan.Stream.Resolved
import StreamPlan.Stream.Resolver
import StreamPlan.Stream.Role
import StreamPlan.Stream.System
import StreamPlan.TableName
import StreamPlan.Text.Blank
import StreamPlan.Text.Quoted
import StreamPlan.Text.Split
import StreamPlan.Text.Unprintable
import StreamPlan.Yaml.BlockText
import StreamPlan.Yaml.Document
import StreamPlan.Yaml.Event
import StreamPlan.Yaml.Folding
import StreamPlan.Yaml.Node
import StreamPlan.Yaml.Schema
import StreamPlan.Yaml.Source
import StreamPlan.Yaml.Tag
import StreamPlan.Yaml.Token
import StreamPlan.Yaml.Token.Lexer
import StreamPlan.Yaml.Value
import StreamPlan.Proofs.Data.Except
import StreamPlan.Proofs.Data.SortedMap
import StreamPlan.Proofs.Operator.Growth
import StreamPlan.Proofs.Operator.Lowers
import StreamPlan.Proofs.Operator.Streams
import StreamPlan.Proofs.Operator.Flow
import StreamPlan.Proofs.Plan.Roles
import StreamPlan.Proofs.Stream.Resolution
import StreamPlan.Proofs.Operator.Lowerable
import StreamPlan.Proofs.Config.Subset
import StreamPlan.Proofs.Job.Merged
import StreamPlan.Proofs.Stream.Catalog
import StreamPlan.Proofs.Job.Recompile
import StreamPlan.Proofs.Job.Conflict
import StreamPlan.Proofs.Operator.History
import StreamPlan.Proofs.Job.Kept
import StreamPlan.Proofs.Locality.Replay
import StreamPlan.Proofs.Locality.Cluster
import StreamPlan.Proofs.Text.Parts
import StreamPlan.Proofs.TableName
import StreamPlan.Proofs.Stream.Registered
import StreamPlan.Proofs.Config.Properties
import StreamPlan.Proofs.Json.ReadBack
import StreamPlan.Proofs.Job.Recorded
import StreamPlan.Proofs.Job.Fingerprint
import StreamPlan.Proofs.CommandLine.Precedence
import StreamPlan.Proofs.Locality.Accepted
import StreamPlan.Proofs.Plan.Stored
import StreamPlan.Proofs.Yaml.Frame
import StreamPlan.Proofs.Yaml.LastLine
import StreamPlan.Proofs.Yaml.Lexer.Invariant
import StreamPlan.Proofs.Yaml.Lexer.Frame
import StreamPlan.Proofs.Yaml.Bare
import StreamPlan.Proofs.Yaml.Lexer.Joined
import StreamPlan.Proofs.Yaml.Grammar
import StreamPlan.Proofs.Yaml.Stream
import StreamPlan.Proofs.Plan.Joined
import StreamPlan.Proofs.Plan.Classified
import StreamPlan.Proofs.Operator.Unrefused
import StreamPlan.Proofs.Operator.Counted
import StreamPlan.Proofs.Job.Snapshot
import StreamPlan.Proofs.Operator.Combined
import StreamPlan.Proofs.Operator.Sides
import StreamPlan.Proofs.Stream.Lookup
import StreamPlan.Proofs.Config.Flatten
import StreamPlan.Proofs.Stream.Registration
import StreamPlan.Proofs.Plan.Converted
import StreamPlan.Proofs.Plan.Expressible
import StreamPlan.Proofs.Locality.LastWrite
import StreamPlan.Proofs.Job.Statements
import StreamPlan.Proofs.Config.Appended
import StreamPlan.Proofs.Digest.Folding
