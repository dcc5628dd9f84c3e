import StepConditions.Actor
import StepConditions.Coercion
import StepConditions.CommandLine.Arguments
import StepConditions.CommandLine.Help
import StepConditions.CommandLine.Run
import StepConditions.CommandLine.Variables
import StepConditions.Condition.Basic
import StepConditions.Condition.Decode
import StepConditions.Document
import StepConditions.Error
import StepConditions.Evaluation
import StepConditions.Json.Basic
import StepConditions.Json.Number
import StepConditions.Json.Path
import StepConditions.Json.Printer
import StepConditions.Json.Reader
import StepConditions.Numeric.Binary64
import StepConditions.Numeric.Decimal
import StepConditions.Numeric.Digits
import StepConditions.Numeric.Rounding
import StepConditions.Numeric.Shortest
import StepConditions.Operator
import StepConditions.Order
import StepConditions.Payload.Base64
import StepConditions.Payload.Bits
import StepConditions.Payload.Bytes
import StepConditions.Payload.Deflate
import StepConditions.Payload.Gzip
import StepConditions.Payload.Huffman
import StepConditions.Payload.Pack
import StepConditions.Redirection
import StepConditions.Store
import StepConditions.Text.Alphanumeric
import StepConditions.Text.Blank
import StepConditions.Text.Entity
import StepConditions.Text.LowerCase
import StepConditions.Text.Quoted
import StepConditions.Text.Search
import StepConditions.Text.Utf8
import StepConditions.Text.Visible
import StepConditions.Value
import StepConditions.Yaml.Cursor
import StepConditions.Yaml.Document
import StepConditions.Yaml.Event
import StepConditions.Yaml.Scalar
import StepConditions.Yaml.Tag
import StepConditions.Yaml.Token
import StepConditions.Yaml.Token.Block
import StepConditions.Yaml.Token.Gap
import StepConditions.Yaml.Token.Plain
import StepConditions.Yaml.Token.Property
import StepConditions.Yaml.Token.Quoted
import StepConditions.Yaml.Token.Scan
import StepConditions.Main
import StepConditions.Proofs.Condition
import StepConditions.Proofs.Conjunction
import StepConditions.Proofs.Decoding
import StepConditions.Proofs.Binary64
import StepConditions.Proofs.Comparison
import StepConditions.Proofs.Members
import StepConditions.Proofs.Shape
import StepConditions.Proofs.Text
import StepConditions.Proofs.Paths
import StepConditions.Proofs.ReadAfterWrite
import StepConditions.Proofs.StoreRun
import StepConditions.Proofs.Merge
import StepConditions.Proofs.Redirection
import StepConditions.Proofs.Digits
import StepConditions.Proofs.JsonText
import StepConditions.Proofs.Carried
import StepConditions.Proofs.Loading
import StepConditions.Proofs.Decimal
import StepConditions.Proofs.Shortest
import StepConditions.Proofs.SameValue
import StepConditions.Proofs.Dependence
import StepConditions.Proofs.EvalCommand
import StepConditions.Proofs.Base64
import StepConditions.Proofs.Member
import StepConditions.Proofs.PackedText
import StepConditions.Proofs.Literal
import StepConditions.Proofs.Approximation
import StepConditions.Proofs.LiteralValue
import StepConditions.Proofs.OperatorLaws
import StepConditions.Proofs.ExactOrder
import StepConditions.Proofs.Numeral
import StepConditions.Proofs.MatchExpected
import StepConditions.Proofs.ScalarText
import StepConditions.Proofs.LongerInput
import StepConditions.Proofs.Damage
import StepConditions.Proofs.Spelling
import StepConditions.Proofs.Entity
import StepConditions.Proofs.OperatorToken
import StepConditions.Proofs.ReadDocument
