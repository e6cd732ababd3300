import EnvSettings.Address.Ipv4
import EnvSettings.Address.Ipv6
import EnvSettings.Address.Socket
import EnvSettings.ByteSize
import EnvSettings.Cli.Arguments
import EnvSettings.Cli.Directory
import EnvSettings.Cli.Program
import EnvSettings.Cli.Service
import EnvSettings.Decode.Decoder
import EnvSettings.Decode.Error
import EnvSettings.Decode.Log
import EnvSettings.Derive.Attribute
import EnvSettings.Derive.Definition
import EnvSettings.Derive.Fault
import EnvSettings.Derive.FieldOptions
import EnvSettings.Derive.Header
import EnvSettings.Derive.Literal
import EnvSettings.Derive.Plan
import EnvSettings.Derive.Token
import EnvSettings.Derive.Tree
import EnvSettings.Derive.TypeForm
import EnvSettings.Docs
import EnvSettings.Load.Basic
import EnvSettings.Main
import EnvSettings.Naming
import EnvSettings.Number.BinaryFloat
import EnvSettings.Number.Digit
import EnvSettings.Number.Integer
import EnvSettings.Pieces
import EnvSettings.Proofs.ByteSize.Reading
import EnvSettings.Proofs.ByteSize.RoundTrip
import EnvSettings.Proofs.ByteSize.Writing
import EnvSettings.Proofs.Decode.Answer
import EnvSettings.Proofs.Decode.Events
import EnvSettings.Proofs.Decode.Locality
import EnvSettings.Proofs.Decode.Pass
import EnvSettings.Proofs.Decode.Report
import EnvSettings.Proofs.Decode.Stem
import EnvSettings.Proofs.Decode.Unreadable
import EnvSettings.Proofs.Decode.Unused
import EnvSettings.Proofs.Derive.Options
import EnvSettings.Proofs.Derive.Permutation
import EnvSettings.Proofs.Derive.Plan
import EnvSettings.Proofs.Derive.Settings
import EnvSettings.Proofs.Derive.SeveralLists
import EnvSettings.Proofs.Docs.Agreement
import EnvSettings.Proofs.Docs.Table
import EnvSettings.Proofs.Lists
import EnvSettings.Proofs.Load.Merged
import EnvSettings.Proofs.Naming.CamelCase
import EnvSettings.Proofs.Naming.Gaps
import EnvSettings.Proofs.Naming.Reapplied
import EnvSettings.Proofs.Naming.SnakeCase
import EnvSettings.Proofs.Naming.TypeName
import EnvSettings.Proofs.Number.Digits
import EnvSettings.Proofs.Number.Literal
import EnvSettings.Proofs.Registry.Builtins
import EnvSettings.Proofs.Registry.History
import EnvSettings.Proofs.Sample.Rfc3339
import EnvSettings.Proofs.Schema.Collision
import EnvSettings.Proofs.Schema.Fault
import EnvSettings.Proofs.Schema.Leaf
import EnvSettings.Proofs.Schema.Order
import EnvSettings.Proofs.Schema.Walk
import EnvSettings.Proofs.Source.Assignment
import EnvSettings.Proofs.Source.Bytes
import EnvSettings.Proofs.Source.EnvFile
import EnvSettings.Proofs.Source.Environment
import EnvSettings.Proofs.Source.Fallback
import EnvSettings.Proofs.Source.Layers
import EnvSettings.Proofs.Source.Layout
import EnvSettings.Proofs.Source.Listing
import EnvSettings.Proofs.Source.Tracked
import EnvSettings.Proofs.Text.Ascii
import EnvSettings.Proofs.Text.Blank
import EnvSettings.Proofs.Text.Control
import EnvSettings.Proofs.Time.Calendar
import EnvSettings.Proofs.Time.Duration
import EnvSettings.Proofs.Time.Fraction
import EnvSettings.Proofs.Time.LocalTime
import EnvSettings.Proofs.Time.Timestamp
import EnvSettings.Proofs.Value.Elements
import EnvSettings.Proofs.Value.Messages
import EnvSettings.Registry
import EnvSettings.Sample.Converters
import EnvSettings.Sample.Plain
import EnvSettings.Sample.Records
import EnvSettings.Sample.Rfc3339
import EnvSettings.Sample.Types
import EnvSettings.Schema.Basic
import EnvSettings.Schema.Error
import EnvSettings.Schema.Walker
import EnvSettings.Source.Basic
import EnvSettings.Source.Bytes
import EnvSettings.Source.EnvFile
import EnvSettings.Source.Environment
import EnvSettings.Source.Names
import EnvSettings.Source.Origin
import EnvSettings.Source.Tracked
import EnvSettings.Text.Alphanumeric
import EnvSettings.Text.Blank
import EnvSettings.Text.LetterCase
import EnvSettings.Text.Pretty
import EnvSettings.Text.Quoted
import EnvSettings.Text.Ranges
import EnvSettings.Text.Visible
import EnvSettings.Time.Duration
import EnvSettings.Time.Timestamp
import EnvSettings.Value.ParseError
import EnvSettings.Value.Reading
import EnvSettings.Value.Type
